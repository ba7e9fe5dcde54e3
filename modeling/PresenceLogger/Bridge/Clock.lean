import PresenceLogger.Library.Calendar
import PresenceLogger.Library.Text

/-!
# Wall clock synchronisation

`TimeWatcher.poll` asks `timedatectl` whether the clock is synchronised and
keeps a baseline pair of wall and monotonic time from the moment sync was
gained; `correct_event_wall` turns an event's monotonic time into wall time.
-/

namespace PresenceLogger.Bridge

open Library Library.Text

/-- How `subprocess.run` ends. -/
inductive CommandOutcome where
  /-- `FileNotFoundError` -/
  | notFound
  /-- `TimeoutExpired` or another `OSError` -/
  | failed
  | exited (returncode : Int) (stdout : List Char)
  deriving DecidableEq, Repr

/-- `str.lower` on the ASCII letters, which decides every comparison with an
ASCII word. -/
def lowerAscii (text : List Char) : List Char := text.map Char.toLower

structure SyncBaseline where
  syncWall : Instant
  syncMonotonicNs : Int
  deriving DecidableEq, Repr

structure TimeWatcher where
  isSynced : Bool := false
  baseline : Option SyncBaseline := none
  deriving DecidableEq, Repr

/-- What one poll reads: the monotonic clock, then the query's answer, then the
wall clock. -/
structure ClockReading where
  monotonicNs : Int
  query : CommandOutcome
  wall : Instant
  deriving DecidableEq, Repr

/-- `TimeWatcher._query` -/
def querySynced : CommandOutcome → Bool
  | .notFound => true
  | .failed => false
  | .exited _ stdout => lowerAscii (strip stdout) ≠ "no".toList

/-- `TimeWatcher.poll` -/
def TimeWatcher.poll (watcher : TimeWatcher) (reading : ClockReading) : TimeWatcher :=
  let syncedNow := querySynced reading.query
  { isSynced := syncedNow
    baseline :=
      if syncedNow && !watcher.isSynced then
        some { syncWall := reading.wall, syncMonotonicNs := reading.monotonicNs }
      else if !syncedNow && watcher.isSynced then none
      else watcher.baseline }

/-- `correct_event_wall`; the delta in microseconds is rounded as `timedelta`
rounds a float. -/
def correctEventWall (syncWall : Instant) (syncMonotonicNs eventMonotonicNs : Int) : Instant :=
  syncWall.shift (-roundHalfEven (trueDiv (syncMonotonicNs - eventMonotonicNs) 1000))

/-- The offset of `JST`, in microseconds. -/
def jstOffset : Int := 9 * 3600 * Instant.microsPerSecond

/-- `format_mk_date_jst` -/
def formatMkDateJst (dt : Instant) : String := dt.compactText jstOffset

/-- The MK_DATE a baseline gives to an event without a wall clock of its own. -/
def SyncBaseline.mkDate (baseline : SyncBaseline) (eventMonotonicNs : Int) : String :=
  formatMkDateJst
    (correctEventWall baseline.syncWall baseline.syncMonotonicNs eventMonotonicNs)

end PresenceLogger.Bridge
