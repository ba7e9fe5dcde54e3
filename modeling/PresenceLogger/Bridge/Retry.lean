import PresenceLogger.Library.Calendar

/-!
# Retry delays

Exponential backoff with a cap, shared by both senders and, in the same words,
by the detector.
-/

namespace PresenceLogger.Bridge

open Library

/-- Each field is an `int` or a `float`, as the configuration gives it. -/
structure BackoffPolicy where
  initial : Number
  multiplier : Number
  cap : Number
  deriving DecidableEq, Repr

/-- The delay before the given attempt, in seconds. -/
def BackoffPolicy.delay (policy : BackoffPolicy) (attempt : Int) : Except PyError Number := do
  let factor ← policy.multiplier.pow (attempt - 1).toNat
  let raw ← policy.initial.mul factor
  return raw.min policy.cap

/-- `next_retry_at` -/
def nextRetryAt (now : Instant) (attempt : Int) (policy : BackoffPolicy) :
    Except PyError Instant :=
  if attempt < 1 then .error .valueError
  else do
    let delay ← policy.delay attempt
    let delta ← timedeltaSeconds delay
    now.add delta

end PresenceLogger.Bridge
