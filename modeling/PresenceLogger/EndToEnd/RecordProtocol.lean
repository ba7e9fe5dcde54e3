import PresenceLogger.Bridge.Runs
import PresenceLogger.Child.AckSession

/-!
# The record protocol

One child, the bridge, Oracle, and the messages between them.  The bridge runs
its main loop and its MQTT callbacks on two threads, as the child does.  A
message stays in the channel for good and is delivered at any time, any number
of times and in any order, or never; either process may crash between any two
of its steps.
-/

namespace PresenceLogger.EndToEnd

open Library Bridge Child

/-- The table of the MERGE, of which only the columns of its `ON` clause count. -/
abbrev OracleTable := Table MergeKey id

/-- What a step of the bridge does to Oracle. -/
def OracleTable.exec (oracle : OracleTable) : Command → OracleTable
  | .merge attempt =>
      if attempt.reply.durable then oracle.insertOrIgnore attempt.key else oracle
  | _ => oracle

def oracleMachine : Machine OracleTable Command Empty where
  step oracle command := (oracle.exec command, [])

/-! ## The messages -/

/-- The MERGE key of a record. -/
def mergeKey (rec : Record) : MergeKey where
  mkDate := rec.mkDate
  staNo1 := rec.staNo1
  staNo2 := rec.staNo2
  staNo3 := rec.staNo3
  t1Status := rec.t1Status

/-- What `parse_record_payload` makes of a published record; a record it refuses
is one that the channel loses. -/
def parseRecordPayload (rec : Record) : RecordPayload where
  eventId := rec.eventId
  mkDate := rec.mkDate
  staNo1 := rec.staNo1
  staNo2 := rec.staNo2
  staNo3 := rec.staNo3
  t1Status := rec.t1Status
  deviceId := some rec.deviceId

def jsonOf (text : Option String) : Json := text.elim .null .str

/-- What the child receives after `publish_ack`. -/
def ackMessage (ack : Ack) : Message where
  topic := ack.topic
  retain := false
  payload := .value (.obj [("event_id", .str ack.eventId),
    ("mk_date_committed", jsonOf ack.mkDateCommitted),
    ("committed_at_iso", jsonOf ack.committedAtIso), ("schema_version", .int 1)])

/-- What the child receives after `publish_nack`. -/
def nackMessage (nack : Nack) : Message where
  topic := nack.topic
  retain := false
  payload := .value (.obj [("event_id", .str nack.eventId), ("reason", .str nack.reason),
    ("failed_at_iso", .str nack.failedAtIso), ("schema_version", .int 1)])

/-! ## The system -/

inductive Party where
  | bridge
  | child
  deriving DecidableEq, Repr

inductive SystemThread where
  | bridgeMain
  | bridgeMqtt
  | child (thread : ChildThread)
  deriving DecidableEq, Repr

def SystemThread.party : SystemThread → Party
  | .bridgeMain | .bridgeMqtt => .bridge
  | .child _ => .child

/-- The two processes, Oracle, and everything that was ever published. -/
structure SystemMemory where
  bridge : BridgeState
  oracle : OracleTable
  child : ChildMemory
  records : List Record
  acks : List Ack
  nacks : List Nack

def isCallback : Routine → Bool
  | .onEvent _ _ | .onRecord _ _ => true
  | _ => false

/-- The routines of the bridge's main loop. -/
abbrev MainRoutine := { routine : Routine // isCallback routine = false }

inductive SystemRoutine where
  | main (routine : MainRoutine)
  | onEvent (payload : EventPayload) (receivedAt : Instant)
  /-- The bridge receives the record published at this position. -/
  | onRecord (position : Nat) (receivedAt : Instant)
  | send (rec : Record) (now : ℚ)
  | onConnect (mid : Option Int)
  | onSubscribe (mid : Int) (granted : List Int)
  | onDisconnect
  /-- The child receives the ACK published at this position. -/
  | onAck (position : Nat)
  | onNack (position : Nat)

/-- A routine of one of the two processes. -/
inductive ProcessRoutine where
  | bridge (routine : Routine)
  | child (routine : ChildRoutine)

namespace SystemRoutine

def thread : SystemRoutine → SystemThread
  | .main _ => .bridgeMain
  | .onEvent _ _ | .onRecord _ _ => .bridgeMqtt
  | .send _ _ => .child .main
  | .onConnect _ | .onSubscribe _ _ | .onDisconnect | .onAck _ | .onNack _ => .child .network

/-- The routine that runs, if its message is there. -/
def called (memory : SystemMemory) : SystemRoutine → Option ProcessRoutine
  | .main routine => some (.bridge routine.val)
  | .onEvent payload receivedAt => some (.bridge (.onEvent payload receivedAt))
  | .onRecord position receivedAt =>
      memory.records[position]?.map fun rec =>
        .bridge (.onRecord (parseRecordPayload rec) receivedAt)
  | .send rec now => some (.child (.send rec now))
  | .onConnect mid => some (.child (.onConnect mid))
  | .onSubscribe mid granted => some (.child (.onSubscribe mid granted))
  | .onDisconnect => some (.child .onDisconnect)
  | .onAck position =>
      memory.acks[position]?.map fun ack => .child (.onMessage (ackMessage ack))
  | .onNack position =>
      memory.nacks[position]?.map fun nack => .child (.onMessage (nackMessage nack))

end SystemRoutine

/-- Where a thread stands; the bridge has its remaining steps before it. -/
inductive SystemPoint where
  | bridge (remaining : List Command)
  | child (point : ChildPoint)

abbrev SystemOutcome := Outcome SystemMemory SystemPoint Empty

namespace SystemMemory

/-- The bridge stands before these steps. -/
def before (memory : SystemMemory) (remaining : List Command) : SystemOutcome where
  memory := memory
  point := if remaining.isEmpty then none else some (.bridge remaining)
  emits := []

/-- One step of the bridge. -/
def exec (memory : SystemMemory) (command : Command) : SystemMemory where
  bridge := memory.bridge.exec command
  oracle := memory.oracle.exec command
  child := memory.child
  records := memory.records
  acks :=
    match command with
    | .publishRecordAck ack => memory.acks ++ [ack]
    | _ => memory.acks
  nacks :=
    match command with
    | .publishRecordNack nack => memory.nacks ++ [nack]
    | _ => memory.nacks

/-- An action of the child. -/
def after (memory : SystemMemory) (outcome : ChildOutcome) : SystemOutcome where
  memory :=
    { memory with
      child := outcome.memory
      records := memory.records ++ (published outcome.emits).map Prod.fst }
  point := outcome.point.map .child
  emits := []

end SystemMemory

section Protocol

variable (deps : BridgeDeps) (config : AckSession)

def start (memory : SystemMemory) (routine : SystemRoutine) : SystemOutcome :=
  match routine.called memory with
  | none => memory.before []
  | some (.bridge routine) => memory.before (routine.performed deps memory.bridge)
  | some (.child routine) => memory.after (config.start memory.child routine)

/-- The threads of the bridge stop when its process has ended. -/
def resume (memory : SystemMemory) (point : SystemPoint) (input : ChildInput) : SystemOutcome :=
  match point with
  | .bridge [] => memory.before []
  | .bridge (command :: remaining) =>
      if memory.bridge.running then (memory.exec command).before remaining
      else memory.before []
  | .child point => memory.after (config.resume memory.child point input)

/-- The two processes; a crash ends the threads of one of them, and it starts
again on its database. -/
def protocol : Program SystemThread SystemRoutine SystemPoint SystemMemory ChildInput Empty
    Party where
  thread := SystemRoutine.thread
  start := start deps config
  resume := resume config
  ends party thread := thread.party = party
  restart memory
    | .bridge => { memory with bridge := memory.bridge.restarted }
    | .child => { memory with child := { memory.child with session := {} } }

end Protocol

abbrev SystemState := ThreadState SystemThread SystemPoint SystemMemory

abbrev SystemStep := ThreadStep SystemThread SystemRoutine ChildInput Party

end PresenceLogger.EndToEnd
