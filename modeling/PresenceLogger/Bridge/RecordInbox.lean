import PresenceLogger.Storage
import PresenceLogger.Library.Calendar

/-!
# The record inbox

`RecordInboxRepository`: fully formed child records that wait for their MERGE.
Only the raw payload column is left out.
-/

namespace PresenceLogger.Bridge

open Library

/-- The values the `status` column of `record_inbox` admits. -/
inductive RecordStatus where
  | received
  | sent
  | failed
  deriving DecidableEq, Repr

structure RecordInboxEvent where
  eventId : String
  mkDate : String
  staNo1 : String
  staNo2 : String
  staNo3 : String
  t1Status : Int
  deviceId : Option String
  status : RecordStatus
  receivedAtIso : String
  sentAtIso : Option String
  mkDateCommitted : Option String
  retryCount : Int
  nextRetryAtIso : Option String
  lastError : Option String
  failedAtIso : Option String := none
  deriving DecidableEq, Repr

/-- The assignments of `mark_sent`. -/
def RecordInboxEvent.asSent (row : RecordInboxEvent) (mkDateCommitted sentAtIso : String) :
    RecordInboxEvent :=
  { row with
    status := .sent
    mkDateCommitted := some mkDateCommitted
    sentAtIso := some sentAtIso }

/-- The assignments of `mark_failed`. -/
def RecordInboxEvent.asFailed (row : RecordInboxEvent) (failedAtIso lastError : String) :
    RecordInboxEvent :=
  { row with
    status := .failed
    failedAtIso := some failedAtIso
    lastError := some lastError }

/-- The assignments of `update_retry`. -/
def RecordInboxEvent.withRetry (row : RecordInboxEvent) (retryCount : Int)
    (nextRetryAtIso lastError : String) : RecordInboxEvent :=
  { row with
    retryCount := retryCount
    nextRetryAtIso := some nextRetryAtIso
    lastError := some lastError }

/-- The `record_inbox` table. -/
abbrev RecordInbox := Table RecordInboxEvent RecordInboxEvent.eventId

namespace RecordInbox

/-- `insert_received`; the statement does not name `failed_at_iso`. -/
def insertReceived (inbox : RecordInbox) (rec : RecordInboxEvent) : RecordInbox :=
  inbox.insertOrIgnore { rec with failedAtIso := none }

def markSent (inbox : RecordInbox) (eventId mkDateCommitted sentAtIso : String) : RecordInbox :=
  inbox.update eventId (fun row => row.asSent mkDateCommitted sentAtIso) fun _ => rfl

def markFailed (inbox : RecordInbox) (eventId failedAtIso lastError : String) : RecordInbox :=
  inbox.update eventId (fun row => row.asFailed failedAtIso lastError) fun _ => rfl

def updateRetry (inbox : RecordInbox) (eventId : String) (retryCount : Int)
    (nextRetryAtIso lastError : String) : RecordInbox :=
  inbox.update eventId (fun row => row.withRetry retryCount nextRetryAtIso lastError)
    fun _ => rfl

/-- The `WHERE` clause of `iter_received_due`. -/
def isDue (nowIso : String) (row : RecordInboxEvent) : Bool :=
  row.status = .received ∧ ∀ next ∈ row.nextRetryAtIso, next ≤ nowIso

def iterReceivedDue (inbox : RecordInbox) (nowIso : String) : List RecordInboxEvent :=
  inbox.select (isDue nowIso) fun left right => left.receivedAtIso ≤ right.receivedAtIso

/-- The ids `delete_sent` drops. -/
def deleteSentIds (inbox : RecordInbox) (keepNewest : Int) : List String :=
  sentToDrop inbox (fun row => row.status = .sent)
    (fun row => row.sentAtIso.getD row.receivedAtIso) keepNewest

/-- The ids `ring_evict` deletes. -/
def ringEvictIds (inbox : RecordInbox) (maxRows : Int) : List String :=
  PresenceLogger.ringEvictIds RecordInboxEvent.status RecordInboxEvent.receivedAtIso
    [.sent, .failed, .received] (overflowRows inbox maxRows) inbox

theorem get_markSent (inbox : RecordInbox) (eventId mkDateCommitted sentAtIso query : String) :
    (inbox.markSent eventId mkDateCommitted sentAtIso).get query =
      if query = eventId then
        (inbox.get query).map fun row => row.asSent mkDateCommitted sentAtIso
      else inbox.get query :=
  Table.get_update ..

theorem get_markFailed (inbox : RecordInbox) (eventId failedAtIso lastError query : String) :
    (inbox.markFailed eventId failedAtIso lastError).get query =
      if query = eventId then (inbox.get query).map fun row => row.asFailed failedAtIso lastError
      else inbox.get query :=
  Table.get_update ..

theorem get_updateRetry (inbox : RecordInbox) (eventId : String) (retryCount : Int)
    (nextRetryAtIso lastError query : String) :
    (inbox.updateRetry eventId retryCount nextRetryAtIso lastError).get query =
      if query = eventId then
        (inbox.get query).map fun row => row.withRetry retryCount nextRetryAtIso lastError
      else inbox.get query :=
  Table.get_update ..

theorem mem_iterReceivedDue {inbox : RecordInbox} {nowIso : String} {row : RecordInboxEvent} :
    row ∈ inbox.iterReceivedDue nowIso ↔ row ∈ inbox.rows ∧ isDue nowIso row = true :=
  Table.mem_select

/-- A due row is the one a lookup by its id finds. -/
theorem get_of_due {inbox : RecordInbox} {nowIso : String} {row : RecordInboxEvent}
    (due : row ∈ inbox.iterReceivedDue nowIso) : inbox.get row.eventId = some row :=
  Table.get_of_mem (mem_iterReceivedDue.mp due).1

theorem status_of_due {inbox : RecordInbox} {nowIso : String} {row : RecordInboxEvent}
    (due : row ∈ inbox.iterReceivedDue nowIso) : row.status = .received := by
  have guard := (mem_iterReceivedDue.mp due).2
  simp only [isDue, decide_eq_true_eq] at guard
  exact guard.1

theorem nodup_due (inbox : RecordInbox) (nowIso : String) :
    ((inbox.iterReceivedDue nowIso).map RecordInboxEvent.eventId).Nodup :=
  Table.nodup_map_select _ _ _

end RecordInbox

end PresenceLogger.Bridge
