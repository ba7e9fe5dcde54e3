import PresenceLogger.Storage
import PresenceLogger.Library.Calendar

/-!
# The event inbox

`InboxRepository`: presence events that wait for their MERGE.  Columns that only
document a row (device, score, raw payload) are left out.
-/

namespace PresenceLogger.Bridge

open Library

/-- The values the `status` column of `inbox` admits. -/
inductive InboxStatus where
  | received
  | sent
  deriving DecidableEq, Repr

structure InboxEvent where
  eventId : String
  eventType : EventType
  mkDate : Option String
  monotonicNs : Int
  wallSynced : Bool
  status : InboxStatus
  ssidAtReceive : Option String
  profileAtSend : Option String
  mkDateCommitted : Option String
  receivedAtIso : String
  sentAtIso : Option String
  retryCount : Int
  nextRetryAtIso : Option String
  lastError : Option String
  deriving DecidableEq, Repr

/-- The assignments of `mark_sent`. -/
def InboxEvent.asSent (row : InboxEvent) (mkDateCommitted profileAtSend sentAtIso : String) :
    InboxEvent :=
  { row with
    status := .sent
    mkDateCommitted := some mkDateCommitted
    profileAtSend := some profileAtSend
    sentAtIso := some sentAtIso }

/-- The assignments of `update_retry`. -/
def InboxEvent.withRetry (row : InboxEvent) (retryCount : Int)
    (nextRetryAtIso lastError : String) : InboxEvent :=
  { row with
    retryCount := retryCount
    nextRetryAtIso := some nextRetryAtIso
    lastError := some lastError }

/-- The `inbox` table. -/
abbrev Inbox := Table InboxEvent InboxEvent.eventId

namespace Inbox

def insertReceived (inbox : Inbox) (event : InboxEvent) : Inbox := inbox.insertOrIgnore event

def markSent (inbox : Inbox) (eventId mkDateCommitted profileAtSend sentAtIso : String) : Inbox :=
  inbox.update eventId (fun row => row.asSent mkDateCommitted profileAtSend sentAtIso)
    fun _ => rfl

def updateRetry (inbox : Inbox) (eventId : String) (retryCount : Int)
    (nextRetryAtIso lastError : String) : Inbox :=
  inbox.update eventId (fun row => row.withRetry retryCount nextRetryAtIso lastError)
    fun _ => rfl

/-- The `WHERE` clause of `iter_received_due`. -/
def isDue (nowIso : String) (row : InboxEvent) : Bool :=
  row.status = .received ∧ ∀ next ∈ row.nextRetryAtIso, next ≤ nowIso

def iterReceivedDue (inbox : Inbox) (nowIso : String) : List InboxEvent :=
  inbox.select (isDue nowIso) fun left right => left.receivedAtIso ≤ right.receivedAtIso

/-- The ids `delete_sent` drops. -/
def deleteSentIds (inbox : Inbox) (keepNewest : Int) : List String :=
  sentToDrop inbox (fun row => row.status = .sent)
    (fun row => row.sentAtIso.getD row.receivedAtIso) keepNewest

/-- The ids `ring_evict` deletes. -/
def ringEvictIds (inbox : Inbox) (maxRows : Int) : List String :=
  PresenceLogger.ringEvictIds InboxEvent.status InboxEvent.receivedAtIso [.sent, .received]
    (overflowRows inbox maxRows) inbox

theorem get_markSent (inbox : Inbox)
    (eventId mkDateCommitted profileAtSend sentAtIso query : String) :
    (inbox.markSent eventId mkDateCommitted profileAtSend sentAtIso).get query =
      if query = eventId then
        (inbox.get query).map fun row => row.asSent mkDateCommitted profileAtSend sentAtIso
      else inbox.get query :=
  Table.get_update ..

theorem get_updateRetry (inbox : Inbox) (eventId : String) (retryCount : Int)
    (nextRetryAtIso lastError query : String) :
    (inbox.updateRetry eventId retryCount nextRetryAtIso lastError).get query =
      if query = eventId then
        (inbox.get query).map fun row => row.withRetry retryCount nextRetryAtIso lastError
      else inbox.get query :=
  Table.get_update ..

theorem mem_iterReceivedDue {inbox : Inbox} {nowIso : String} {row : InboxEvent} :
    row ∈ inbox.iterReceivedDue nowIso ↔ row ∈ inbox.rows ∧ isDue nowIso row = true :=
  Table.mem_select

/-- A due row is the one a lookup by its id finds. -/
theorem get_of_due {inbox : Inbox} {nowIso : String} {row : InboxEvent}
    (due : row ∈ inbox.iterReceivedDue nowIso) : inbox.get row.eventId = some row :=
  Table.get_of_mem (mem_iterReceivedDue.mp due).1

theorem status_of_due {inbox : Inbox} {nowIso : String} {row : InboxEvent}
    (due : row ∈ inbox.iterReceivedDue nowIso) : row.status = .received := by
  have guard := (mem_iterReceivedDue.mp due).2
  simp only [isDue, decide_eq_true_eq] at guard
  exact guard.1

theorem nodup_due (inbox : Inbox) (nowIso : String) :
    ((inbox.iterReceivedDue nowIso).map InboxEvent.eventId).Nodup :=
  Table.nodup_map_select _ _ _

end Inbox

end PresenceLogger.Bridge
