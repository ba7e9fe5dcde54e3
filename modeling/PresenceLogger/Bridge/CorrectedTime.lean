import PresenceLogger.Bridge.Clock

/-!
# Events dated by the baseline

`TimeWatcher.poll` reads the monotonic clock before it asks whether the wall clock is
synchronised, and the wall clock after it has the answer.  `correct_event_wall` takes the
two readings for one moment.
-/

namespace PresenceLogger.Bridge

open Library

/-! ## The host's clocks -/

/-- The `timeout` of the query, in nanoseconds. -/
def queryTimeoutNs : Int := 5 * 1000000000

/-- What the clocks show in true time, in nanoseconds: the monotonic clock is ahead by one
constant of the boot, the synchronised wall clock by another. -/
structure HostClocks where
  monotonicAhead : Int
  wallAhead : Int
  deriving DecidableEq, Repr

namespace HostClocks

variable (clocks : HostClocks)

/-- `time.monotonic_ns()` -/
def monotonicNs (trueTime : Int) : Int := trueTime + clocks.monotonicAhead

/-- `datetime.now()`, which drops what is below a microsecond. -/
def wall (trueTime : Int) : Instant := ⟨(trueTime + clocks.wallAhead) / 1000⟩

end HostClocks

/-- The true times at which a poll starts and at which it has the query's answer. -/
structure Poll where
  start : Int
  answered : Int
  query : CommandOutcome
  inOrder : start ≤ answered
  inTime : answered ≤ start + queryTimeoutNs

namespace Poll

def synced (poll : Poll) : Bool := querySynced poll.query

/-- What the query takes. -/
def duration (poll : Poll) : Int := poll.answered - poll.start

def reading (clocks : HostClocks) (poll : Poll) : ClockReading where
  monotonicNs := clocks.monotonicNs poll.start
  query := poll.query
  wall := clocks.wall poll.answered

def baseline (clocks : HostClocks) (poll : Poll) : SyncBaseline where
  syncWall := clocks.wall poll.answered
  syncMonotonicNs := clocks.monotonicNs poll.start

end Poll

/-! ## The poll that gained sync -/

/-- The first poll since which every poll was synced. -/
def hold (held : Option Poll) (poll : Poll) : Option Poll :=
  if poll.synced then held.or (some poll) else none

def heldSince (polls : List Poll) : Option Poll := polls.foldl hold none

/-- The watcher after these polls. -/
def watch (clocks : HostClocks) (polls : List Poll) : TimeWatcher :=
  (polls.map (Poll.reading clocks)).foldl TimeWatcher.poll {}

/-- The watcher that holds the baseline of this poll. -/
def watcherOf (clocks : HostClocks) (held : Option Poll) : TimeWatcher where
  isSynced := held.isSome
  baseline := held.map (Poll.baseline clocks)

section

variable (clocks : HostClocks)

theorem poll_watcherOf (held : Option Poll) (poll : Poll) :
    (watcherOf clocks held).poll (poll.reading clocks) = watcherOf clocks (hold held poll) := by
  cases held <;> cases answer : poll.synced <;>
    simp_all [TimeWatcher.poll, watcherOf, hold, Poll.synced, Poll.reading, Poll.baseline]

/-- The watcher holds the baseline of the poll that gained the present sync. -/
theorem watch_eq (polls : List Poll) : watch clocks polls = watcherOf clocks (heldSince polls) := by
  have run : ∀ held : Option Poll,
      (polls.map (Poll.reading clocks)).foldl TimeWatcher.poll (watcherOf clocks held) =
        watcherOf clocks (polls.foldl hold held) := by
    induction polls with
    | nil => simp
    | cons poll polls ih => simp [poll_watcherOf, ih]
  exact run none

/-! ## The corrected time -/

/-- The wall time computed for an event read at this moment is what the wall clock shows
at that moment when it is synchronised. -/
def ExactlyCorrected (polls : List Poll) (readAt : Int) : Prop :=
  ∀ baseline, (watch clocks polls).baseline = some baseline →
    correctEventWall baseline.syncWall baseline.syncMonotonicNs (clocks.monotonicNs readAt) =
      clocks.wall readAt

/-- What `timedelta` adds when it rounds so many nanoseconds to microseconds. -/
def roundingNs (deltaNs : Int) : Int := 1000 * roundHalfEven (trueDiv deltaNs 1000) - deltaNs

/-- The query took no more than what lies below a microsecond in the reading of the wall
clock and in the rounded delta. -/
def Poll.WithinTick (readAt : Int) (poll : Poll) : Prop :=
  poll.duration ≤ (poll.answered + clocks.wallAhead) % 1000 + roundingNs (poll.start - readAt) ∧
    (poll.answered + clocks.wallAhead) % 1000 + roundingNs (poll.start - readAt) <
      poll.duration + 1000

theorem correctEventWall_baseline (poll : Poll) (readAt : Int) :
    correctEventWall (poll.baseline clocks).syncWall (poll.baseline clocks).syncMonotonicNs
        (clocks.monotonicNs readAt) = clocks.wall readAt ↔
      poll.WithinTick clocks readAt := by
  have delta : clocks.monotonicNs poll.start - clocks.monotonicNs readAt =
      poll.start - readAt := by
    simp [HostClocks.monotonicNs]
  simp only [correctEventWall, Poll.baseline, delta, HostClocks.wall, Instant.shift,
    Instant.mk.injEq, Poll.WithinTick, Poll.duration, roundingNs]
  omega

/-- The corrected time is exact if and only if the query of the poll that gained sync took
no longer than the clocks can tell. -/
theorem exactlyCorrected_iff (polls : List Poll) (readAt : Int) :
    ExactlyCorrected clocks polls readAt ↔
      ∀ poll ∈ heldSince polls, poll.WithinTick clocks readAt := by
  simp only [ExactlyCorrected, watch_eq, watcherOf]
  cases heldSince polls with
  | none => simp
  | some poll => simp [correctEventWall_baseline]

/-! ### Whole microseconds -/

theorem roundingNs_mul {delta : Int} (small : |delta| < 2 ^ 53) :
    roundingNs (1000 * delta) = 0 := by
  rw [roundingNs, trueDiv_mul (by norm_num) small, roundHalfEven_intCast, sub_self]

/-- Where nothing lies below a microsecond, the query must have taken no time at all. -/
theorem withinTick_iff_immediate (poll : Poll) {readAt delta : Int}
    (aligned : (poll.answered + clocks.wallAhead) % 1000 = 0)
    (whole : poll.start - readAt = 1000 * delta) (small : |delta| < 2 ^ 53) :
    poll.WithinTick clocks readAt ↔ poll.duration = 0 := by
  have inOrder := poll.inOrder
  rw [Poll.WithinTick, aligned, whole, roundingNs_mul small, Poll.duration]
  omega

end

namespace Site

/-- The monotonic clock starts at 2026-09-25 03:00:00 UTC. -/
def clocks : HostClocks where
  monotonicAhead := 0
  wallAhead := 63925902000000000 * 1000

/-- `timedatectl` takes a second, ten seconds after boot. -/
def slowPoll : Poll where
  start := 10 * 1000000000
  answered := 11 * 1000000000
  query := .exited 0 "yes\n".toList
  inOrder := by decide
  inTime := by decide

end Site

/-- An event five seconds after boot is dated a second late. -/
theorem not_exactlyCorrected_slowPoll :
    ¬ExactlyCorrected Site.clocks [Site.slowPoll] (5 * 1000000000) := by
  intro exact
  have dated := exact (Site.slowPoll.baseline Site.clocks) rfl
  revert dated
  decide +kernel

end PresenceLogger.Bridge
