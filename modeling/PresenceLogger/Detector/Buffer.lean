import PresenceLogger.Library.Calendar
import PresenceLogger.Storage

/-!
# The detector's buffer

`BufferRepository`: events that wait for an ACK of the bridge.
-/

namespace PresenceLogger.Detector

open Library

/-- The values the `status` column of `pending_events` admits. -/
inductive BufferStatus where
  | pending
  | sent
  | acked
  deriving DecidableEq, Repr

structure PendingEvent where
  eventId : String
  eventType : EventType
  mkDate : Option String
  monotonicNs : Int
  wallSynced : Bool
  score : Option Number
  status : BufferStatus
  createdAtIso : String
  retryCount : Int
  nextRetryAtIso : Option String
  lastPublishAtIso : Option String
  deriving DecidableEq, Repr

/-- The assignment of `mark_sent` and `mark_acked`. -/
def PendingEvent.withStatus (row : PendingEvent) (status : BufferStatus) : PendingEvent :=
  { row with status := status }

/-- The assignments of `update_retry_metadata`; the next retry is stored as the
last publication too. -/
def PendingEvent.withRetry (row : PendingEvent) (retryCount : Int) (nextRetryAtIso : String) :
    PendingEvent :=
  { row with
    retryCount := retryCount
    nextRetryAtIso := some nextRetryAtIso
    lastPublishAtIso := some nextRetryAtIso }

/-- The `pending_events` table. -/
abbrev Buffer := Table PendingEvent PendingEvent.eventId

namespace Buffer

def insertPending (buffer : Buffer) (event : PendingEvent) : Buffer := buffer.insertOrIgnore event

def markSent (buffer : Buffer) (eventId : String) : Buffer :=
  buffer.update eventId (fun row => row.withStatus .sent) fun _ => rfl

/-- The id is compared as SQLite binds it; `NULL` matches no row. -/
def markAcked (buffer : Buffer) (eventId : Option String) : Buffer :=
  match eventId with
  | some eventId => buffer.update eventId (fun row => row.withStatus .acked) fun _ => rfl
  | none => buffer

def updateRetryMetadata (buffer : Buffer) (eventId : String) (retryCount : Int)
    (nextRetryAtIso : String) : Buffer :=
  buffer.update eventId (fun row => row.withRetry retryCount nextRetryAtIso) fun _ => rfl

/-- The `WHERE` clause of `iter_due_for_retry`. -/
def isDue (nowIso : String) (status : BufferStatus) (row : PendingEvent) : Bool :=
  row.status = status ∧ ∀ next ∈ row.nextRetryAtIso, next ≤ nowIso

def iterDueForRetry (buffer : Buffer) (nowIso : String) (status : BufferStatus) :
    List PendingEvent :=
  buffer.select (isDue nowIso status) fun left right => left.createdAtIso ≤ right.createdAtIso

/-- The ids `ring_evict` deletes. -/
def ringEvictIds (buffer : Buffer) (maxRows : Int) : List String :=
  PresenceLogger.ringEvictIds PendingEvent.status PendingEvent.createdAtIso
    [.acked, .sent, .pending] (overflowRows buffer maxRows) buffer

/-- The status of the row with this id. -/
def status (buffer : Buffer) (eventId : String) : Option BufferStatus :=
  (buffer.get eventId).map PendingEvent.status

theorem status_insertPending (buffer : Buffer) (event : PendingEvent) (eventId : String) :
    (buffer.insertPending event).status eventId =
      if event.eventId = eventId ∧ buffer.status eventId = none then some event.status
      else buffer.status eventId := by
  simp only [status, insertPending, Table.get_insertOrIgnore, Option.map_eq_none_iff]
  split
  · rfl
  · rfl

/-- An update of one row that maps its status changes that status only. -/
theorem status_update (buffer : Buffer) (updatedId : String) (set : PendingEvent → PendingEvent)
    (keepsKey : ∀ row, (set row).eventId = row.eventId) {change : BufferStatus → BufferStatus}
    (changes : ∀ row, (set row).status = change row.status) (eventId : String) :
    Buffer.status (buffer.update updatedId set keepsKey) eventId =
      if eventId = updatedId then (buffer.status eventId).map change
      else buffer.status eventId := by
  rw [status, Table.get_update, status]
  split
  · rw [Option.map_map, Option.map_map]
    exact Option.map_congr fun row _ => changes row
  · rfl

theorem status_markSent (buffer : Buffer) (sentId eventId : String) :
    (buffer.markSent sentId).status eventId =
      if eventId = sentId then (buffer.status eventId).map fun _ => .sent
      else buffer.status eventId :=
  status_update buffer sentId _ _ (fun _ => rfl) eventId

theorem status_markAcked (buffer : Buffer) (ackedId : Option String) (eventId : String) :
    (buffer.markAcked ackedId).status eventId =
      if some eventId = ackedId then (buffer.status eventId).map fun _ => .acked
      else buffer.status eventId := by
  cases ackedId with
  | none => rfl
  | some id =>
      simp only [Option.some.injEq]
      exact status_update buffer id _ _ (fun _ => rfl) eventId

/-- A retry leaves every status alone. -/
@[simp] theorem status_updateRetryMetadata (buffer : Buffer) (retriedId : String)
    (retryCount : Int) (nextRetryAtIso eventId : String) :
    (buffer.updateRetryMetadata retriedId retryCount nextRetryAtIso).status eventId =
      buffer.status eventId := by
  have updated : (buffer.updateRetryMetadata retriedId retryCount nextRetryAtIso).status eventId =
      if eventId = retriedId then (buffer.status eventId).map id else buffer.status eventId :=
    status_update buffer retriedId _ _ (fun _ => rfl) eventId
  rw [updated, Option.map_id, id, ite_self]

theorem status_of_due {buffer : Buffer} {nowIso : String} {wanted : BufferStatus}
    {row : PendingEvent} (due : row ∈ buffer.iterDueForRetry nowIso wanted) :
    buffer.status row.eventId = some wanted := by
  rcases Table.mem_select.mp due with ⟨member, guard⟩
  simp only [isDue, decide_eq_true_eq] at guard
  rw [status, Table.get_of_mem member, Option.map_some, guard.1]

end Buffer

end PresenceLogger.Detector
