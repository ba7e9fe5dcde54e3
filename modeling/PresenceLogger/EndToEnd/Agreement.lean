import PresenceLogger.EndToEnd.RecordProtocol

/-!
# Acknowledged records are in Oracle

Every row and every message carries a record that was sent, and a confirmation
of any kind stands only where the key of its record is in Oracle.  Oracle never
loses a key, so no thread can take a confirmation back from another.
-/

namespace PresenceLogger.EndToEnd

open Library Bridge Child

/-- Oracle has the key of the sent record with this id. -/
def Confirmed (sent : Set Record) (oracle : OracleTable) (eventId : String) : Prop :=
  ∃ rec ∈ sent, rec.eventId = eventId ∧ mergeKey rec ∈ oracle.rows

/-- An inbox row that holds a record. -/
structure Holds (rec : Record) (row : RecordInboxEvent) : Prop where
  eventId : row.eventId = rec.eventId
  key : row.mergeKey = mergeKey rec

def InboxAgrees (sent : Set Record) (oracle : OracleTable) (inbox : RecordInbox) : Prop :=
  ∀ eventId row, inbox.get eventId = some row →
    (∃ rec ∈ sent, Holds rec row) ∧ (row.status = .sent → Confirmed sent oracle eventId)

def LedgerAgrees (sent : Set Record) (oracle : OracleTable) (ledger : Ledger) : Prop :=
  ∀ key row, ledger.get key = some row →
    row.payload ∈ sent ∧ row.payload.eventId = key.2 ∧
      (row.status = .acked → mergeKey row.payload ∈ oracle.rows)

/-- What a step of the bridge may say in view of Oracle. -/
def Sound (sent : Set Record) (oracle : OracleTable) : Command → Prop
  | .insertRecord row => (∃ rec ∈ sent, Holds rec row) ∧ row.status = .received
  | .markRecordSent eventId _ _ => Confirmed sent oracle eventId
  | .publishRecordAck ack => Confirmed sent oracle ack.eventId
  | _ => True

/-- Steps that are sound one after the other. -/
abbrev SoundFrom (sent : Set Record) (oracle : OracleTable) (commands : List Command) : Prop :=
  oracleMachine.Meets (Sound sent) oracle commands

/-- What a thread of the child relies on. -/
def Relies (sent : Set Record) (oracle : OracleTable) : ChildPoint → Prop
  | .lookup rec _ | .savePending rec _ | .touchPending rec _ | .publish rec _ => rec ∈ sent
  | .ackLookup eventId mkDate _ =>
      ∀ text id, mkDate = .str text → eventId.bindText = .ok (some id) →
        Confirmed sent oracle id
  | .ackUpdate eventId _ => Confirmed sent oracle eventId
  | .poll _ | .nackLookup _ _ _ | .nackUpdate _ _ _ => True

structure Agrees (sent : Set Record) (memory : SystemMemory) : Prop where
  inbox : InboxAgrees sent memory.oracle memory.bridge.recordInbox
  ledger : LedgerAgrees sent memory.oracle memory.child.ledger
  records : ∀ rec ∈ memory.records, rec ∈ sent
  acks : ∀ ack ∈ memory.acks, Confirmed sent memory.oracle ack.eventId

def assertions (sent : Set Record) :
    Program.Assertions SystemThread SystemPoint SystemMemory where
  always := Agrees sent
  knows
    | _, .bridge remaining, memory => SoundFrom sent memory.oracle remaining
    | _, .child point, memory => Relies sent memory.oracle point

/-! ## Oracle only grows -/

section Growth

variable {sent : Set Record} {oracle larger : OracleTable}

theorem mem_insert {key stored : MergeKey} :
    stored ∈ (oracle.insertOrIgnore key).rows ↔ stored ∈ oracle.rows ∨ stored = key := by
  rw [Table.mem_insertOrIgnore, List.map_id, id]
  constructor
  · rintro (old | ⟨new, -⟩)
    · exact .inl old
    · exact .inr new
  · rintro (old | rfl)
    · exact .inl old
    · by_cases present : stored ∈ oracle.rows
      · exact .inl present
      · exact .inr ⟨rfl, present⟩

theorem subset_exec (oracle : OracleTable) (command : Command) :
    oracle.rows ⊆ (oracle.exec command).rows := by
  cases command with
  | merge attempt =>
      rw [OracleTable.exec]
      split
      · intro key member
        exact mem_insert.mpr (.inl member)
      · exact List.Subset.refl _
  | _ => exact List.Subset.refl _

/-- A MERGE that commits leaves its key behind in either table. -/
theorem exec_subset_exec (grows : oracle.rows ⊆ larger.rows) (command : Command) :
    (oracle.exec command).rows ⊆ (larger.exec command).rows := by
  cases command with
  | merge attempt =>
      simp only [OracleTable.exec]
      split
      · intro key member
        exact mem_insert.mpr ((mem_insert.mp member).imp_left fun old => grows old)
      · exact grows
  | _ => exact grows

theorem Confirmed.mono {eventId : String} (grows : oracle.rows ⊆ larger.rows)
    (confirmed : Confirmed sent oracle eventId) : Confirmed sent larger eventId := by
  rcases confirmed with ⟨rec, known, same, stored⟩
  exact ⟨rec, known, same, grows stored⟩

theorem Sound.mono {command : Command} (grows : oracle.rows ⊆ larger.rows)
    (sound : Sound sent oracle command) : Sound sent larger command := by
  cases command with
  | markRecordSent eventId mkDateCommitted sentAtIso => exact Confirmed.mono grows sound
  | publishRecordAck ack => exact Confirmed.mono grows sound
  | _ => exact sound

theorem SoundFrom.mono {commands : List Command} (grows : oracle.rows ⊆ larger.rows)
    (sound : SoundFrom sent oracle commands) : SoundFrom sent larger commands := by
  refine Machine.Meets.lift (fun low high => low.rows ⊆ high.rows) ?_ ?_ grows sound
  · intro low high command within
    exact exec_subset_exec within command
  · intro low high command within here
    exact here.mono within

theorem Relies.mono {point : ChildPoint} (grows : oracle.rows ⊆ larger.rows)
    (relies : Relies sent oracle point) : Relies sent larger point := by
  cases point with
  | ackLookup eventId mkDate committedAt =>
      intro text id isText bound
      exact (relies text id isText bound).mono grows
  | ackUpdate eventId committedAt => exact Confirmed.mono grows relies
  | _ => exact relies

theorem InboxAgrees.mono {inbox : RecordInbox} (grows : oracle.rows ⊆ larger.rows)
    (agrees : InboxAgrees sent oracle inbox) : InboxAgrees sent larger inbox := by
  intro eventId row found
  rcases agrees eventId row found with ⟨held, confirmed⟩
  exact ⟨held, fun isSent => (confirmed isSent).mono grows⟩

theorem LedgerAgrees.mono {ledger : Ledger} (grows : oracle.rows ⊆ larger.rows)
    (agrees : LedgerAgrees sent oracle ledger) : LedgerAgrees sent larger ledger := by
  intro key row found
  rcases agrees key row found with ⟨known, same, stored⟩
  exact ⟨known, same, fun acked => grows (stored acked)⟩

end Growth

/-! ## The bridge -/

section BridgeSide

variable {sent : Set Record} {oracle : OracleTable}

/-- The oracle dependency reports neither a code nor a message only after a
commit. -/
def Honest (call : RecordSenderCall) : Prop :=
  ∀ profile rec, (call.oracle profile rec).result.oraCode = none →
    (call.oracle profile rec).result.errorMessage = none →
    (call.oracle profile rec).durable = true

theorem sound_of_not_concernsRecords {command : Command}
    (elsewhere : command.concernsRecords = false) (oracle : OracleTable) :
    Sound sent oracle command := by
  cases command with
  | insertRecord | markRecordSent | publishRecordAck => cases elsewhere
  | _ => trivial

/-- A row is confirmed after its own MERGE only. -/
theorem soundFrom_sendOne {deps : RecordSenderDeps} {profileName : String} {now : Instant}
    {row : RecordInboxEvent} {reply : MergeReply} {rec : Record} (known : rec ∈ sent)
    (holds : Holds rec row)
    (honest : reply.result.oraCode = none → reply.result.errorMessage = none →
      reply.durable = true) :
    SoundFrom sent oracle (deps.sendOne profileName now row reply) := by
  refine ⟨trivial, ?_⟩
  rw [RecordSenderDeps.settle]
  split
  next committed =>
    rcases deps.verdict_eq_committed_iff.mp committed with ⟨noCode, noMessage⟩
    have confirmed : Confirmed sent (oracle.insertOrIgnore row.mergeKey) row.eventId :=
      ⟨rec, known, holds.eventId.symm, mem_insert.mpr (.inr holds.key.symm)⟩
    have kept : reply.durable = true := honest noCode noMessage
    simp only [oracleMachine, OracleTable.exec, kept, if_true]
    refine ⟨confirmed, trivial, ?_⟩
    cases usableTopic deps.topicAck with
    | none => trivial
    | some topic => exact ⟨confirmed, trivial⟩
  next =>
    cases usableTopic deps.topicNack with
    | none => exact ⟨trivial, trivial⟩
    | some topic => exact ⟨trivial, trivial, trivial⟩
  next => split <;> exact ⟨trivial, trivial, trivial⟩

theorem soundFrom_runOnce {deps : RecordSenderDeps} {bridge : BridgeState}
    {call : RecordSenderCall} (agrees : InboxAgrees sent oracle bridge.recordInbox)
    (honest : Honest call) : SoundFrom sent oracle (upToRaise (deps.runOnce bridge call)) := by
  by_cases admitted : ∃ profileName profile, call.Admits bridge profileName profile
  · rcases admitted with ⟨profileName, profile, admits⟩
    rw [deps.upToRaise_runOnce admits]
    refine ⟨trivial, Machine.Meets.flatMap ?_ _⟩
    intro row reached later
    have due := (deps.visited_sublist bridge call profileName profile).mem reached
    rcases (agrees row.eventId row (RecordInbox.get_of_due due)).1 with ⟨rec, known, holds⟩
    exact soundFrom_sendOne known holds (honest profile row)
  · apply Machine.Meets.of_forall
    intro command member
    apply sound_of_not_concernsRecords
    apply Command.IsOpening.concernsRecords
    apply deps.isOpening_of_not_admitted _ member
    intro profileName profile admits
    exact admitted ⟨profileName, profile, admits⟩

theorem holds_toRow (rec : Record) (receivedAt : Instant) :
    Holds rec ((parseRecordPayload rec).toRow receivedAt) :=
  ⟨rfl, rfl⟩

/-- A record that arrives is stored, or answered as its row says. -/
theorem soundFrom_receive {deps : RecordSenderDeps} {bridge : BridgeState} {rec : Record}
    (known : rec ∈ sent) (agrees : InboxAgrees sent oracle bridge.recordInbox)
    (receivedAt : Instant) :
    SoundFrom sent oracle
      (upToRaise (deps.receive bridge ((parseRecordPayload rec).toRow receivedAt))) := by
  simp only [RecordSenderDeps.receive, RecordSenderDeps.receiveAfter]
  split
  next =>
    rw [upToRaise_of_calm rfl]
    exact ⟨⟨⟨rec, known, holds_toRow rec receivedAt⟩, rfl⟩, trivial⟩
  next existing found =>
    split
    · split
      · cases usableTopic deps.topicNack with
        | none => trivial
        | some topic => exact ⟨trivial, trivial⟩
      · trivial
    · trivial
    next isSent =>
      split
      · cases usableTopic deps.topicAck with
        | none => trivial
        | some topic =>
            have confirmed := (agrees _ existing found).2 isSent
            rw [← Table.key_of_get found] at confirmed
            exact ⟨confirmed, trivial⟩
      · trivial

/-- A routine of the bridge is sound when what it receives was sent and its
oracle is honest. -/
theorem soundFrom_performed {deps : BridgeDeps} {bridge : BridgeState} {routine : Routine}
    (agrees : InboxAgrees sent oracle bridge.recordInbox)
    (honest : ∀ call, routine = .recordRunOnce call → Honest call)
    (delivered : ∀ payload receivedAt, routine = .onRecord payload receivedAt →
      ∃ rec ∈ sent, payload = parseRecordPayload rec) :
    SoundFrom sent oracle (routine.performed deps bridge) := by
  cases routine with
  | recordRunOnce call =>
      rcases Routine.performed_cases deps bridge (.recordRunOnce call) with performs | nothing
      · rw [performs]
        exact soundFrom_runOnce agrees (honest call rfl)
      · rw [nothing]
        trivial
  | onRecord payload receivedAt =>
      rcases delivered payload receivedAt rfl with ⟨rec, known, rfl⟩
      rcases Routine.performed_cases deps bridge (.onRecord (parseRecordPayload rec) receivedAt)
        with performs | nothing
      · rw [performs]
        exact soundFrom_receive known agrees receivedAt
      · rw [nothing]
        trivial
  | _ =>
      apply Machine.Meets.of_forall
      intro command member reached
      rcases Routine.concernsRecords_of_mem_performed member rfl with elsewhere | ⟨id, rfl⟩
      · exact sound_of_not_concernsRecords elsewhere reached
      · trivial

/-- A sound step keeps the inbox in agreement. -/
theorem inboxAgrees_exec {bridge : BridgeState} {command : Command}
    (agrees : InboxAgrees sent oracle bridge.recordInbox) (sound : Sound sent oracle command) :
    InboxAgrees sent oracle (bridge.exec command).recordInbox := by
  intro eventId row found
  by_cases touched : command.touchedRecord = some eventId
  · cases command with
    | insertRecord new =>
        simp only [BridgeState.exec, RecordInbox.insertReceived, Table.get_insertOrIgnore] at found
        split at found
        · cases Option.some.inj found
          rcases sound.1 with ⟨rec, known, holds⟩
          refine ⟨⟨rec, known, holds.eventId, holds.key⟩, ?_⟩
          intro isSent
          cases sound.2.symm.trans isSent
        · exact agrees eventId row found
    | markRecordSent id mkDateCommitted sentAtIso =>
        cases Option.some.inj touched
        simp only [BridgeState.exec, RecordInbox.get_markSent, if_true] at found
        rcases Option.map_eq_some_iff.mp found with ⟨old, wasThere, rfl⟩
        rcases (agrees _ old wasThere).1 with ⟨rec, known, holds⟩
        exact ⟨⟨rec, known, holds.eventId, holds.key⟩, fun _ => sound⟩
    | markRecordFailed id failedAtIso lastError =>
        cases Option.some.inj touched
        simp only [BridgeState.exec, RecordInbox.get_markFailed, if_true] at found
        rcases Option.map_eq_some_iff.mp found with ⟨old, wasThere, rfl⟩
        rcases (agrees _ old wasThere).1 with ⟨rec, known, holds⟩
        refine ⟨⟨rec, known, holds.eventId, holds.key⟩, ?_⟩
        intro isSent
        cases isSent
    | updateRecordRetry id retryCount nextRetryAtIso lastError =>
        cases Option.some.inj touched
        simp only [BridgeState.exec, RecordInbox.get_updateRetry, if_true] at found
        rcases Option.map_eq_some_iff.mp found with ⟨old, wasThere, rfl⟩
        rcases agrees _ old wasThere with ⟨⟨rec, known, holds⟩, confirmed⟩
        exact ⟨⟨rec, known, holds.eventId, holds.key⟩, confirmed⟩
    | deleteRecord id =>
        cases Option.some.inj touched
        simp only [BridgeState.exec, Table.get_delete, if_true] at found
        cases found
    | _ => cases touched
  · rw [bridge.exec_recordInbox_get touched] at found
    exact agrees eventId row found

/-- A sound step of the bridge keeps the system in agreement. -/
theorem agrees_exec {memory : SystemMemory} {command : Command} (agrees : Agrees sent memory)
    (sound : Sound sent memory.oracle command) : Agrees sent (memory.exec command) := by
  have grows := subset_exec memory.oracle command
  constructor
  · exact (inboxAgrees_exec agrees.inbox sound).mono grows
  · exact agrees.ledger.mono grows
  · exact agrees.records
  · intro ack published
    have old : ack ∈ memory.acks → Confirmed sent (memory.oracle.exec command) ack.eventId :=
      fun member => (agrees.acks ack member).mono grows
    cases command with
    | publishRecordAck new =>
        rcases List.mem_append.mp published with member | fresh
        · exact old member
        · rw [List.mem_singleton.mp fresh]
          exact sound
    | _ => exact old published

end BridgeSide

/-! ## The child -/

section ChildSide

variable {sent : Set Record} {oracle : OracleTable} {config : AckSession}

/-- A change of the ledger keeps it in agreement; a confirmed id belongs to the one
record that has it. -/
theorem ledgerAgrees_change (distinct : sent.InjOn Record.eventId) {ledger next : Ledger}
    {point : ChildPoint} (agrees : LedgerAgrees sent oracle ledger)
    (relies : Relies sent oracle point) (change : config.LedgerChange ledger point next) :
    LedgerAgrees sent oracle next := by
  intro key row found
  cases change with
  | none => exact agrees key row found
  | save rec now =>
      rw [Ledger.get_savePending] at found
      split at found
      next same =>
        cases before : ledger.get key with
        | none =>
            rw [before] at found
            cases Option.some.inj found
            refine ⟨relies, congrArg Prod.snd same, ?_⟩
            intro acked
            cases acked
        | some old =>
            rw [before] at found
            cases Option.some.inj found
            exact agrees key old before
      next => exact agrees key row found
  | touch rec now =>
      rw [Ledger.get_touchPending] at found
      split at found
      · rcases Option.map_eq_some_iff.mp found with ⟨old, before, rfl⟩
        exact agrees key old before
      · exact agrees key row found
  | ack eventId committedAt bound =>
      rw [Ledger.get_markAcked] at found
      split at found
      next here =>
        rcases Option.map_eq_some_iff.mp found with ⟨old, before, rfl⟩
        rcases agrees key old before with ⟨known, same, -⟩
        refine ⟨known, same, ?_⟩
        intro _
        rcases relies with ⟨rec, knownRec, sameId, stored⟩
        have one : rec = old.payload := by
          apply distinct knownRec known
          rw [sameId, same, here]
        exact one ▸ stored
      next => exact agrees key row found
  | nack eventId reason failedAt text bound =>
      rw [Ledger.get_markNacked] at found
      split at found
      · rcases Option.map_eq_some_iff.mp found with ⟨old, before, rfl⟩
        rcases agrees key old before with ⟨known, same, stored⟩
        split
        · refine ⟨known, same, ?_⟩
          intro acked
          cases acked
        · exact ⟨known, same, stored⟩
      · exact agrees key row found

/-- What an action of the child establishes. -/
structure ChildAction (sent : Set Record) (oracle : OracleTable) (outcome : ChildOutcome) :
    Prop where
  ledger : LedgerAgrees sent oracle outcome.memory.ledger
  published : ∀ rec now, .published rec now ∈ outcome.emits → rec ∈ sent
  relies : ∀ point ∈ outcome.point, Relies sent oracle point

theorem childAction_finish {memory : ChildMemory} {emits : List ChildOutput}
    (agrees : LedgerAgrees sent oracle memory.ledger)
    (unpublished : ∀ rec now, .published rec now ∉ emits) :
    ChildAction sent oracle (finish memory emits) := by
  refine ⟨agrees, ?_, ?_⟩
  · intro rec now member
    exact absurd member (unpublished rec now)
  · intro point follows
    cases follows

theorem childAction_proceed {memory : ChildMemory} {point : ChildPoint}
    (agrees : LedgerAgrees sent oracle memory.ledger) (relies : Relies sent oracle point) :
    ChildAction sent oracle (proceed memory point) := by
  refine ⟨agrees, nofun, ?_⟩
  intro next follows
  cases follows
  exact relies

/-- A message that passes for an ACK confirms its record. -/
def Receipt (sent : Set Record) (oracle : OracleTable) (message : Message) : Prop :=
  ∀ data eventId text id, message.payload = .value data → data.get "event_id" = .ok eventId →
    data.get "mk_date_committed" = .ok (.str text) → eventId.bindText = .ok (some id) →
    Confirmed sent oracle id

theorem receipt_ackMessage {ack : Ack} (confirmed : Confirmed sent oracle ack.eventId) :
    Receipt sent oracle (ackMessage ack) := by
  rintro data eventId text id same gotId - bound
  cases same
  cases gotId
  cases bound
  exact confirmed

/-- A NACK has no MK_DATE, so it does not pass for an ACK on any topic. -/
theorem receipt_nackMessage (nack : Nack) : Receipt sent oracle (nackMessage nack) := by
  rintro data eventId text id same - gotDate -
  cases same
  cases gotDate

theorem childAction_start {memory : ChildMemory} {routine : ChildRoutine}
    (agrees : LedgerAgrees sent oracle memory.ledger)
    (sends : ∀ rec now, routine = .send rec now → rec ∈ sent)
    (receives : ∀ message, routine = .onMessage message → Receipt sent oracle message) :
    ChildAction sent oracle (config.start memory routine) := by
  cases routine with
  | send rec now =>
      rw [AckSession.start]
      split
      · exact childAction_proceed agrees (sends rec now rfl)
      · exact childAction_finish agrees (by simp)
  | onMessage message =>
      rw [AckSession.start]
      rcases config.onMessage_cases memory message with
        ⟨emits, ends, quiet⟩ |
        ⟨data, eventId, mkDate, committedAt, -, payload, gotId, gotDate, goesOn⟩ |
        ⟨eventId, reason, failedAt, -, -, goesOn⟩
      · rw [ends]
        apply childAction_finish agrees
        intro rec now member
        cases quiet _ member
      · rw [goesOn]
        apply childAction_proceed agrees
        rintro text id rfl bound
        exact receives message rfl data eventId text id payload gotId gotDate bound
      · rw [goesOn]
        exact childAction_proceed agrees trivial
  | _ => exact childAction_finish agrees fun _ _ => List.not_mem_nil

theorem childAction_resume (distinct : sent.InjOn Record.eventId) {memory : ChildMemory}
    {point : ChildPoint} (input : ChildInput) (agrees : LedgerAgrees sent oracle memory.ledger)
    (relies : Relies sent oracle point) :
    ChildAction sent oracle (config.resume memory point input) := by
  have change := ledgerAgrees_change distinct agrees relies
    (config.ledgerChange_resume memory point input)
  have resumed := config.resumed memory point input
  generalize config.resume memory point input = outcome at change resumed
  cases resumed with
  | ends _ emits unpublished whose => exact childAction_finish change unpublished
  | absent | due | save | touch => exact childAction_proceed change relies
  | wait | nackFound => exact childAction_proceed change trivial
  | ackFound eventId mkDate committedAt id row bound found pending matched =>
      exact childAction_proceed change (relies row.mkDate id matched bound)
  | ack | nack => exact childAction_finish change nofun
  | refused rec now =>
      refine ⟨change, ?_, nofun⟩
      intro other time member
      rcases List.mem_cons.mp member with same | later
      · cases same
        exact relies
      · cases List.mem_singleton.mp later
  | publish rec now =>
      refine ⟨change, ?_, ?_⟩
      · intro other time member
        cases List.mem_singleton.mp member
        exact relies
      · intro next follows
        cases follows
        trivial

/-- An action of the child keeps the system in agreement. -/
theorem agrees_after {memory : SystemMemory} {outcome : ChildOutcome}
    (agrees : Agrees sent memory) (action : ChildAction sent memory.oracle outcome) :
    Agrees sent (memory.after outcome).memory := by
  refine ⟨agrees.inbox, action.ledger, ?_, agrees.acks⟩
  intro rec member
  rcases List.mem_append.mp member with old | new
  · exact agrees.records rec old
  · rcases List.mem_map.mp new with ⟨publication, isPublished, rfl⟩
    rcases List.mem_filterMap.mp isPublished with ⟨output, emitted, same⟩
    cases output with
    | published other now =>
        cases same
        exact action.published other now emitted
    | _ => cases same

end ChildSide

/-! ## Whole runs -/

section Runs

variable {sent : Set Record} {deps : BridgeDeps} {config : AckSession}

/-- The condition on one step: the oracle is honest, and what the child sends is one
of the records. -/
structure Allowed (sent : Set Record) (step : SystemStep) : Prop where
  honest : ∀ routine call, step = .call (.main routine) → routine.val = .recordRunOnce call →
    Honest call
  sends : ∀ rec now, step = .call (.send rec now) → rec ∈ sent

/-- What a called routine of the bridge receives was sent. -/
theorem soundFrom_called {memory : SystemMemory} {routine : SystemRoutine}
    {called : Routine} (agrees : Agrees sent memory) (allowed : Allowed sent (.call routine))
    (runs : routine.called memory = some (.bridge called)) :
    SoundFrom sent memory.oracle (called.performed deps memory.bridge) := by
  apply soundFrom_performed agrees.inbox
  · rintro call rfl
    cases routine with
    | main own =>
        have same : own.val = .recordRunOnce call :=
          ProcessRoutine.bridge.inj (Option.some.inj runs)
        exact allowed.honest own call rfl same
    | onRecord position receivedAt =>
        rcases Option.map_eq_some_iff.mp runs with ⟨rec, -, same⟩
        cases same
    | onAck position | onNack position =>
        rcases Option.map_eq_some_iff.mp runs with ⟨_, -, same⟩
        cases same
    | _ => cases runs
  · rintro payload receivedAt rfl
    cases routine with
    | main own =>
        have same : own.val = .onRecord payload receivedAt :=
          ProcessRoutine.bridge.inj (Option.some.inj runs)
        have noCallback := own.property
        rw [same] at noCallback
        cases noCallback
    | onRecord position time =>
        rcases Option.map_eq_some_iff.mp runs with ⟨rec, found, same⟩
        cases same
        exact ⟨rec, agrees.records rec (List.mem_of_getElem? found), rfl⟩
    | onAck position | onNack position =>
        rcases Option.map_eq_some_iff.mp runs with ⟨_, -, same⟩
        cases same
    | _ => cases runs

theorem childAction_called {memory : SystemMemory} {routine : SystemRoutine}
    {called : ChildRoutine} (agrees : Agrees sent memory)
    (allowed : Allowed sent (.call routine))
    (runs : routine.called memory = some (.child called)) :
    ChildAction sent memory.oracle (config.start memory.child called) := by
  apply childAction_start agrees.ledger
  · rintro rec now rfl
    cases routine with
    | send other time =>
        cases runs
        exact allowed.sends rec now rfl
    | onRecord position receivedAt | onAck position | onNack position =>
        rcases Option.map_eq_some_iff.mp runs with ⟨_, -, same⟩
        cases same
    | _ => cases runs
  · rintro message rfl
    cases routine with
    | onAck position =>
        rcases Option.map_eq_some_iff.mp runs with ⟨ack, found, same⟩
        cases same
        exact receipt_ackMessage (agrees.acks ack (List.mem_of_getElem? found))
    | onNack position =>
        rcases Option.map_eq_some_iff.mp runs with ⟨nack, -, same⟩
        cases same
        exact receipt_nackMessage nack
    | onRecord position receivedAt =>
        rcases Option.map_eq_some_iff.mp runs with ⟨_, -, same⟩
        cases same
    | _ => cases runs

theorem knows_before {thread : SystemThread} {memory : SystemMemory} {remaining : List Command}
    (sound : SoundFrom sent memory.oracle remaining) :
    ∀ point ∈ (memory.before remaining).point,
      (assertions sent).knows thread point (memory.before remaining).memory := by
  intro point follows
  simp only [SystemMemory.before] at follows
  split at follows
  · cases follows
  · cases follows
    exact sound

theorem knows_after {thread : SystemThread} {memory : SystemMemory} {outcome : ChildOutcome}
    (action : ChildAction sent memory.oracle outcome) :
    ∀ point ∈ (memory.after outcome).point,
      (assertions sent).knows thread point (memory.after outcome).memory := by
  intro point follows
  rcases Option.map_eq_some_iff.mp follows with ⟨next, here, rfl⟩
  exact action.relies next here

/-- No thread takes from another what it knows, as long as Oracle keeps its rows. -/
theorem knows_mono {thread : SystemThread} {point : SystemPoint} {memory next : SystemMemory}
    (grows : memory.oracle.rows ⊆ next.oracle.rows)
    (known : (assertions sent).knows thread point memory) :
    (assertions sent).knows thread point next := by
  cases point with
  | bridge remaining => exact SoundFrom.mono grows known
  | child point => exact Relies.mono grows known

/-- Each action keeps the agreement, establishes what its thread knows next, and
leaves every key in Oracle. -/
theorem acts_sound (distinct : sent.InjOn Record.eventId) {state : SystemState}
    {step : SystemStep} {thread : SystemThread} {outcome : SystemOutcome}
    (holds : (assertions sent).Holds state) (allowed : Allowed sent step)
    (acts : (protocol deps config).Acts state step thread outcome) :
    (Agrees sent outcome.memory ∧
      ∀ point ∈ outcome.point, (assertions sent).knows thread point outcome.memory) ∧
    state.memory.oracle.rows ⊆ outcome.memory.oracle.rows := by
  cases acts with
  | call routine free =>
      simp only [protocol, start]
      split
      next => exact ⟨⟨holds.1, knows_before trivial⟩, List.Subset.refl _⟩
      next called runs =>
        exact ⟨⟨holds.1, knows_before (soundFrom_called holds.1 allowed runs)⟩,
          List.Subset.refl _⟩
      next called runs =>
        have action : ChildAction sent state.memory.oracle
            (config.start state.memory.child called) := childAction_called holds.1 allowed runs
        exact ⟨⟨agrees_after holds.1 action, knows_after action⟩, List.Subset.refl _⟩
  | resume thread input point stands =>
      have known := holds.2 thread point stands
      cases point with
      | bridge remaining =>
          cases remaining with
          | nil => exact ⟨⟨holds.1, knows_before trivial⟩, List.Subset.refl _⟩
          | cons command remaining =>
              simp only [protocol, resume]
              split
              · exact ⟨⟨agrees_exec holds.1 known.1, knows_before known.2⟩,
                  subset_exec _ command⟩
              · exact ⟨⟨holds.1, knows_before trivial⟩, List.Subset.refl _⟩
      | child point =>
          have action : ChildAction sent state.memory.oracle
              (config.resume state.memory.child point input) :=
            childAction_resume distinct input holds.1.ledger known
          exact ⟨⟨agrees_after holds.1 action, knows_after action⟩, List.Subset.refl _⟩

/-- The four threads, and what none of them can take from another. -/
def outline (deps : BridgeDeps) (config : AckSession) (distinct : sent.InjOn Record.eventId) :
    (protocol deps config).Outline fun _ step => Allowed sent step where
  toAssertions := assertions sent
  own _ _ _ _ holds allowed acts := (acts_sound distinct holds allowed acts).1
  other _ _ _ _ holds allowed acts bystander point _ stands :=
    knows_mono (acts_sound distinct holds allowed acts).2 (holds.2 bystander point stands)
  crash state party holds _ := by
    cases party with
    | bridge | child =>
        refine ⟨⟨holds.1.inbox, holds.1.ledger, holds.1.records, holds.1.acks⟩, ?_⟩
        intro thread point _ stands
        refine knows_mono ?_ (holds.2 thread point stands)
        exact List.Subset.refl state.memory.oracle.rows

/-- Nothing has been sent yet. -/
structure Fresh (memory : SystemMemory) : Prop where
  inbox : memory.bridge.recordInbox = Table.empty
  ledger : memory.child.ledger = Table.empty
  records : memory.records = []
  acks : memory.acks = []

theorem Fresh.agrees {memory : SystemMemory} (fresh : Fresh memory) : Agrees sent memory := by
  constructor
  · rw [fresh.inbox]
    intro eventId row found
    cases found
  · rw [fresh.ledger]
    intro key row found
    cases found
  · rw [fresh.records]
    nofun
  · rw [fresh.acks]
    nofun

/-- What a run from idle processes comes to. -/
def reached (deps : BridgeDeps) (config : AckSession) (memory : SystemMemory)
    (steps : List SystemStep) : SystemMemory :=
  ((protocol deps config).machine.final (Program.idle memory) steps).memory

/-- The records that the child sends in a run. -/
def sentIn (steps : List SystemStep) : Set Record :=
  { rec | ∃ now, .call (.send rec now) ∈ steps }

/-- In every state a run reaches, a record that the child's ledger has as
acknowledged is in Oracle. -/
theorem acknowledged_mem_oracle (deps : BridgeDeps) (config : AckSession)
    (memory : SystemMemory) (fresh : Fresh memory) (steps : List SystemStep)
    (honest : ∀ routine call, .call (.main routine) ∈ steps →
      routine.val = .recordRunOnce call → Honest call)
    (distinct : (sentIn steps).InjOn Record.eventId) :
    ∀ row ∈ (reached deps config memory steps).child.ledger.rows, row.status = .acked →
      row.payload ∈ sentIn steps ∧ row.eventId = row.payload.eventId ∧
        mergeKey row.payload ∈ (reached deps config memory steps).oracle.rows := by
  have starts : (outline deps config distinct).Holds (Program.idle memory) :=
    ⟨fresh.agrees, nofun⟩
  have meets : (protocol deps config).machine.Meets (fun _ step => Allowed (sentIn steps) step)
      (Program.idle memory) steps := by
    apply Machine.Meets.of_forall
    intro step member _
    constructor
    · rintro routine call rfl
      exact honest routine call member
    · rintro rec now rfl
      exact ⟨now, member⟩
  have holds := (outline deps config distinct).run starts meets
  intro row member acked
  rcases holds.1.ledger row.key row (Table.get_of_mem member) with ⟨known, same, stored⟩
  exact ⟨known, same.symm, stored acked⟩

end Runs

/-! ## A delivery -/

namespace Site

/-- The site's processes before anything happens. -/
def memory : SystemMemory where
  bridge := Bridge.Site.bridge [] []
  oracle := Table.empty
  child := Child.Site.empty
  records := []
  acks := []
  nacks := []

/-- A call whose MERGEs all commit and are reported so. -/
def committing : RecordSenderCall where
  now := Bridge.Site.time 10
  oracle _ _ := { result := ⟨1, none, none⟩, durable := true }

def act (thread : SystemThread) : SystemStep := .resume thread {}

/-- A record is sent, stored, committed and acknowledged. -/
def delivery : List SystemStep :=
  [.call (.onConnect (some 1)), .call (.onSubscribe 1 [2, 2]),
    .call (.send Child.Site.record 0), act (.child .main), act (.child .main), act (.child .main),
    .call (.onRecord 0 (Bridge.Site.time 0)), act .bridgeMqtt,
    .call (.main ⟨.recordRunOnce committing, rfl⟩), act .bridgeMain, act .bridgeMain,
    act .bridgeMain, act .bridgeMain, act .bridgeMain,
    .call (.onAck 0), act (.child .network), act (.child .network)]

end Site

theorem acknowledged_mem_oracle_delivery :
    (∃ row ∈
        (reached Bridge.Site.deps Child.Site.config Site.memory Site.delivery).child.ledger.rows,
      row.status = .acked) ∧
    ∀ row ∈
        (reached Bridge.Site.deps Child.Site.config Site.memory Site.delivery).child.ledger.rows,
      row.status = .acked →
      row.payload ∈ sentIn Site.delivery ∧ row.eventId = row.payload.eventId ∧
        mergeKey row.payload ∈
          (reached Bridge.Site.deps Child.Site.config Site.memory Site.delivery).oracle.rows := by
  constructor
  · decide +kernel
  · apply acknowledged_mem_oracle Bridge.Site.deps Child.Site.config Site.memory
      ⟨rfl, rfl, rfl, rfl⟩ Site.delivery
    · intro routine call member runs profile rec _ _
      have same : routine = ⟨.recordRunOnce Site.committing, rfl⟩ := by
        simpa [Site.delivery, Site.act] using member
      rw [same] at runs
      cases runs
      rfl
    · have only : ∀ rec ∈ sentIn Site.delivery, rec = Child.Site.record := by
        rintro rec ⟨now, member⟩
        have same : rec = Child.Site.record ∧ now = 0 := by
          simpa [Site.delivery, Site.act] using member
        exact same.1
      intro left isSent right alsoSent _
      rw [only left isSent, only right alsoSent]

end PresenceLogger.EndToEnd
