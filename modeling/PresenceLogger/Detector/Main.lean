import PresenceLogger.Bridge.Retry
import PresenceLogger.Detector.Buffer
import PresenceLogger.Library.Json
import PresenceLogger.Library.Threads

/-!
# The detector's two threads

The main thread stores, publishes and marks an event in three separate steps,
and re-publishes what a scan of the buffer finds due.  The MQTT thread handles
the bridge's ACKs at any moment in between.
-/

namespace PresenceLogger.Detector

open Library

/-- The fields of a `Transition` that `_emit_transition` stores or publishes. -/
structure Transition where
  eventType : EventType
  confirmedAtMonotonicNs : Int
  latestScore : Number
  deriving DecidableEq, Repr

/-- The body of `publish_event`. -/
structure EventMessage where
  eventId : String
  event : EventType
  eventTime : Option String
  eventTimeIso : Option String
  monotonicNs : Int
  wallClockSynced : Bool
  deviceId : String
  score : Number
  schemaVersion : Int := 1
  deriving DecidableEq, Repr

/-- The configuration part of `RuntimeContext`. -/
structure RuntimeContext where
  deviceId : String
  retryPolicy : Bridge.BackoffPolicy

/-- What `_emit_transition` reads of its environment: a new `uuid4`, whether the
clock is synchronised, and the time. -/
structure Emission where
  transition : Transition
  eventId : String
  synced : Bool
  now : LocalTime
  deriving DecidableEq, Repr

namespace Emission

/-- `event_time` and `mk_date` -/
def mkDate (emission : Emission) : Option String :=
  if emission.synced then some emission.now.compactText else none

def toRow (emission : Emission) : PendingEvent where
  eventId := emission.eventId
  eventType := emission.transition.eventType
  mkDate := emission.mkDate
  monotonicNs := emission.transition.confirmedAtMonotonicNs
  wallSynced := emission.synced
  score := some emission.transition.latestScore
  status := .pending
  createdAtIso := emission.now.isoformatMilliseconds
  retryCount := 0
  nextRetryAtIso := none
  lastPublishAtIso := none

def toMessage (emission : Emission) (deviceId : String) : EventMessage where
  eventId := emission.eventId
  event := emission.transition.eventType
  eventTime := emission.mkDate
  eventTimeIso := if emission.synced then some emission.now.isoformatMilliseconds else none
  monotonicNs := emission.transition.confirmedAtMonotonicNs
  wallClockSynced := emission.synced
  deviceId := deviceId
  score := emission.transition.latestScore

end Emission

/-- `_build_resend_payload` -/
def buildResendPayload (deviceId : String) (row : PendingEvent) : EventMessage where
  eventId := row.eventId
  event := row.eventType
  eventTime := row.mkDate
  eventTimeIso := if row.wallSynced then some row.createdAtIso else none
  monotonicNs := row.monotonicNs
  wallClockSynced := row.wallSynced
  deviceId := deviceId
  score := (row.score.filter fun score => score.value ≠ 0).getD (.float 0)

/-- The id `_on_ack` binds for a message, if it is called. -/
def ackedId : Decoded → Except PyError (Option (Option String))
  | .invalid | .tooDeep => .ok none
  | .value data => do
      let eventId ← data.get "event_id"
      let mkDate ← data.get "mk_date_committed"
      if eventId.truthy && mkDate.truthy then
        let bound ← eventId.bindText
        return some bound
      else return none

inductive DetectorThread where
  | main
  | mqtt
  deriving DecidableEq, Repr

inductive DetectorRoutine where
  | emitTransition (emission : Emission)
  | retryPending (now : LocalTime)
  | onAckMessage (payload : Decoded)

/-- Where the main thread stands. -/
inductive DetectorPoint where
  | publishEvent (message : EventMessage)
  | markSent (eventId : String)
  | scan (now : LocalTime) (status : BufferStatus) (later : List BufferStatus)
  | republish (now : LocalTime) (row : PendingEvent) (rows : List PendingEvent)
      (later : List BufferStatus)
  | updateRetry (now : LocalTime) (row : PendingEvent) (rows : List PendingEvent)
      (later : List BufferStatus)
  /-- An exception has left the main loop. -/
  | ended
  deriving DecidableEq, Repr

/-- How `publish_event` ends. -/
inductive PublishOutcome where
  | returned
  | raised (error : PyError)
  deriving DecidableEq, Repr

inductive DetectorOutput where
  | published (message : EventMessage)
  /-- A retry scan has selected these rows for re-publication. -/
  | selected (rows : List PendingEvent)
  | raised (error : PyError)
  deriving DecidableEq, Repr

/-- The next point of the two loops of `retry_pending`. -/
def nextRow (now : LocalTime) (rows : List PendingEvent) (later : List BufferStatus) :
    Option DetectorPoint :=
  match rows, later with
  | row :: rows, later => some (.republish now row rows later)
  | [], status :: later => some (.scan now status later)
  | [], [] => none

namespace RuntimeContext

variable (context : RuntimeContext)

/-- `iter_due_for_retry` fetches all its rows before the first is handled. -/
def scanBuffer (buffer : Buffer) (now : LocalTime) (status : BufferStatus)
    (later : List BufferStatus) : Outcome Buffer DetectorPoint DetectorOutput :=
  let rows := buffer.iterDueForRetry now.isoformatMilliseconds status
  { memory := buffer, point := nextRow now rows later, emits := [.selected rows] }

/-- The callback of `subscribe_ack` and `_on_ack`. -/
def onAckMessage (buffer : Buffer) (payload : Decoded) :
    Outcome Buffer DetectorPoint DetectorOutput :=
  match ackedId payload with
  | .ok none => { memory := buffer, point := none, emits := [] }
  | .ok (some eventId) => { memory := buffer.markAcked eventId, point := none, emits := [] }
  | .error error => { memory := buffer, point := none, emits := [.raised error] }

def start (buffer : Buffer) : DetectorRoutine → Outcome Buffer DetectorPoint DetectorOutput
  | .emitTransition emission =>
      { memory := buffer.insertPending emission.toRow
        point := some (.publishEvent (emission.toMessage context.deviceId))
        emits := [] }
  | .retryPending now => scanBuffer buffer now .pending [.sent]
  | .onAckMessage payload => onAckMessage buffer payload

def resume (buffer : Buffer) (point : DetectorPoint) (publish : PublishOutcome) :
    Outcome Buffer DetectorPoint DetectorOutput :=
  match point with
  | .publishEvent message =>
      match publish with
      | .returned =>
          { memory := buffer
            point := some (.markSent message.eventId)
            emits := [.published message] }
      | .raised error => { memory := buffer, point := some .ended, emits := [.raised error] }
  | .markSent eventId => { memory := buffer.markSent eventId, point := none, emits := [] }
  | .scan now status later => scanBuffer buffer now status later
  | .republish now row rows later =>
      match publish with
      | .returned =>
          { memory := buffer
            point := some (.updateRetry now row rows later)
            emits := [.published (buildResendPayload context.deviceId row)] }
      | .raised error => { memory := buffer, point := some .ended, emits := [.raised error] }
  | .updateRetry now row rows later =>
      match Bridge.nextRetryAt now.wall (row.retryCount + 1) context.retryPolicy with
      | .ok next =>
          { memory := buffer.updateRetryMetadata row.eventId (row.retryCount + 1)
              { now with wall := next }.isoformatMilliseconds
            point := nextRow now rows later
            emits := [] }
      | .error error => { memory := buffer, point := some .ended, emits := [.raised error] }
  | .ended => { memory := buffer, point := some .ended, emits := [] }

/-- The detector; a crash ends both threads and keeps the database. -/
def program : Program DetectorThread DetectorRoutine DetectorPoint Buffer PublishOutcome
    DetectorOutput Unit where
  thread
    | .emitTransition _ | .retryPending _ => .main
    | .onAckMessage _ => .mqtt
  start := context.start
  resume := context.resume
  ends _ _ := true
  restart buffer _ := buffer

end RuntimeContext

end PresenceLogger.Detector
