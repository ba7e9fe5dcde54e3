import PresenceLogger.Library.Calendar

/-!
# The circuit breaker

One entry per profile, created closed on first use.  An open entry becomes
half-open as a side effect of asking for its state.
-/

namespace PresenceLogger.Bridge

open Library

inductive CircuitState where
  | closed
  | open
  | halfOpen
  deriving DecidableEq, Repr

/-- `_ProfileEntry` -/
structure ProfileEntry where
  state : CircuitState := .closed
  openedAt : Option Instant := none
  lastOraCode : Option Int := none
  deriving DecidableEq, Repr

/-- `is_permanent_error` -/
def isPermanentError (oraCode : Option Int) (permanentCodes : List Int) : Bool :=
  match oraCode with
  | none => false
  | some code => code ∈ permanentCodes

/-- The breaker's configuration and its entries; `setdefault` makes the lookup
of an unknown profile a fresh closed entry. -/
structure CircuitBreaker where
  halfOpenAfterSeconds : Int
  permanentCodes : List Int
  entry : String → ProfileEntry := fun _ => {}

namespace CircuitBreaker

/-- `self._timeout`, in microseconds. -/
def timeout (breaker : CircuitBreaker) : Int :=
  breaker.halfOpenAfterSeconds * Instant.microsPerSecond

/-- Replace the entry of one profile. -/
def setEntry (breaker : CircuitBreaker) (profile : String) (entry : ProfileEntry) :
    CircuitBreaker :=
  { breaker with entry := Function.update breaker.entry profile entry }

/-- The entry `state_for` leaves behind. -/
def queriedEntry (breaker : CircuitBreaker) (profile : String) (now : Option Instant) :
    ProfileEntry :=
  let e := breaker.entry profile
  match e.state, e.openedAt, now with
  | .open, some openedAt, some now =>
      if breaker.timeout ≤ now.sub openedAt then { e with state := .halfOpen } else e
  | _, _, _ => e

/-- `state_for`: the breaker after the query and the state it answers. -/
def stateFor (breaker : CircuitBreaker) (profile : String) (now : Option Instant) :
    CircuitBreaker × CircuitState :=
  let e := breaker.queriedEntry profile now
  (breaker.setEntry profile e, e.state)

/-- `record_failure` -/
def recordFailure (breaker : CircuitBreaker) (profile : String) (oraCode : Option Int)
    (now : Instant) : CircuitBreaker :=
  if isPermanentError oraCode breaker.permanentCodes then
    breaker.setEntry profile { state := .open, openedAt := some now, lastOraCode := oraCode }
  else
    breaker

/-- `record_success` -/
def recordSuccess (breaker : CircuitBreaker) (profile : String) : CircuitBreaker :=
  breaker.setEntry profile { state := .closed, openedAt := none, lastOraCode := none }

/-! ## What one operation changes -/

@[simp] theorem setEntry_entry_self (breaker : CircuitBreaker) (profile : String)
    (entry : ProfileEntry) : (breaker.setEntry profile entry).entry profile = entry :=
  Function.update_self _ _ _

theorem setEntry_entry_of_ne (breaker : CircuitBreaker) {profile other : String}
    (entry : ProfileEntry) (different : other ≠ profile) :
    (breaker.setEntry profile entry).entry other = breaker.entry other :=
  Function.update_of_ne different _ _

@[simp] theorem setEntry_timeout (breaker : CircuitBreaker) (profile : String)
    (entry : ProfileEntry) : (breaker.setEntry profile entry).timeout = breaker.timeout := rfl

@[simp] theorem setEntry_permanentCodes (breaker : CircuitBreaker) (profile : String)
    (entry : ProfileEntry) :
    (breaker.setEntry profile entry).permanentCodes = breaker.permanentCodes := rfl

@[simp] theorem recordSuccess_state (breaker : CircuitBreaker) (profile : String) :
    ((breaker.recordSuccess profile).entry profile).state = .closed := by
  simp [recordSuccess]

/-- A permanent code opens the entry, whatever its state was. -/
theorem recordFailure_of_permanent {breaker : CircuitBreaker} {oraCode : Option Int}
    (permanent : isPermanentError oraCode breaker.permanentCodes = true)
    (profile : String) (now : Instant) :
    (breaker.recordFailure profile oraCode now).entry profile =
      { state := .open, openedAt := some now, lastOraCode := oraCode } := by
  simp [recordFailure, permanent]

/-- Any other code leaves the breaker as it was. -/
theorem recordFailure_of_not_permanent {breaker : CircuitBreaker} {oraCode : Option Int}
    (transient : isPermanentError oraCode breaker.permanentCodes = false)
    (profile : String) (now : Instant) :
    breaker.recordFailure profile oraCode now = breaker := by
  simp [recordFailure, transient]

/-- An entry that is open since `openedAt` stays as it is until the timeout has
passed, and turns half-open at the first query after that. -/
theorem queriedEntry_open {breaker : CircuitBreaker} {profile : String} {openedAt : Instant}
    (isOpen : (breaker.entry profile).state = .open)
    (since : (breaker.entry profile).openedAt = some openedAt) (now : Instant) :
    breaker.queriedEntry profile (some now) =
      if breaker.timeout ≤ now.sub openedAt then
        { breaker.entry profile with state := .halfOpen }
      else breaker.entry profile := by
  simp only [queriedEntry, isOpen, since]

/-- A query changes nothing but an open entry's state. -/
theorem queriedEntry_of_not_open {breaker : CircuitBreaker} {profile : String}
    (notOpen : (breaker.entry profile).state ≠ .open) (now : Option Instant) :
    breaker.queriedEntry profile now = breaker.entry profile := by
  simp only [queriedEntry]
  split
  next _ _ isOpen _ => exact absurd isOpen notOpen
  next => rfl

@[simp] theorem stateFor_entry_self (breaker : CircuitBreaker) (profile : String)
    (now : Option Instant) :
    (breaker.stateFor profile now).1.entry profile = breaker.queriedEntry profile now :=
  setEntry_entry_self _ _ _

theorem stateFor_entry_of_ne (breaker : CircuitBreaker) {profile other : String}
    (now : Option Instant) (different : other ≠ profile) :
    (breaker.stateFor profile now).1.entry other = breaker.entry other :=
  setEntry_entry_of_ne _ _ different

/-- Two breakers with the same configuration. -/
def SameConfig (left right : CircuitBreaker) : Prop :=
  left.timeout = right.timeout ∧ left.permanentCodes = right.permanentCodes

theorem sameConfig_stateFor (breaker : CircuitBreaker) (profile : String)
    (now : Option Instant) : (breaker.stateFor profile now).1.SameConfig breaker :=
  ⟨rfl, rfl⟩

theorem sameConfig_recordFailure (breaker : CircuitBreaker) (profile : String)
    (oraCode : Option Int) (now : Instant) :
    (breaker.recordFailure profile oraCode now).SameConfig breaker := by
  simp only [recordFailure]
  split
  · exact ⟨rfl, rfl⟩
  · exact ⟨rfl, rfl⟩

end CircuitBreaker

end PresenceLogger.Bridge
