import Mathlib.Data.List.Induction
import PresenceLogger.Bridge.Runs

/-!
# Answers that stay

The bridge answers a record with an ACK or a NACK and remembers the answer in
the status of its row.  Retention may drop the row, and a re-delivery then begins
anew; where that does not happen, no answer is ever taken back.
-/

namespace PresenceLogger.Bridge

open Library

/-- The record a publication answers, and the status the answer stands for. -/
def Command.answer : Command → Option (String × RecordStatus)
  | .publishRecordAck ack => some (ack.eventId, .sent)
  | .publishRecordNack nack => some (nack.eventId, .failed)
  | _ => none

/-- The later answer takes back the earlier one. -/
def Contradicts (earlier later : Command) : Prop :=
  ∃ eventId status other, earlier.answer = some (eventId, status) ∧
    later.answer = some (eventId, other) ∧ status ≠ other

/-- No ACK follows a NACK of the same record, and no NACK an ACK. -/
def AnswersFinal (trace : List Command) : Prop :=
  trace.Pairwise fun earlier later => ¬Contradicts earlier later

def Answered (history : List Command) (eventId : String) : Prop :=
  ∃ command ∈ history, ∃ status, command.answer = some (eventId, status)

/-- A record that arrives after it has been answered finds its row. -/
def Remembers (deps : BridgeDeps) (bridge : BridgeState) (steps : List BridgeStep) : Prop :=
  ∀ earlier step later payload receivedAt, steps = earlier ++ step :: later →
    step.routine = .onRecord payload receivedAt →
    Answered ((bridgeMachine deps).trace bridge earlier) payload.eventId →
    ((bridgeMachine deps).final bridge earlier).recordInbox.get payload.eventId ≠ none

theorem not_answered_append {left right : List Command} {eventId : String}
    (unanswered : ¬Answered left eventId)
    (silent : ∀ command ∈ right, ∀ status, command.answer ≠ some (eventId, status)) :
    ¬Answered (left ++ right) eventId := by
  intro answered
  rcases answered with ⟨command, member, status, tells⟩
  rcases List.mem_append.mp member with before | after
  · exact unanswered ⟨command, before, status, tells⟩
  · exact silent command after status tells

/-! ## One step -/

/-- The rows of answered records still say so. -/
structure Remembered (history : List Command) (bridge : BridgeState) : Prop where
  kept : ∀ command ∈ history, ∀ eventId status, command.answer = some (eventId, status) →
    ∀ row, bridge.recordInbox.get eventId = some row → row.status = status
  agree : ∀ command ∈ history, ∀ other ∈ history, ¬Contradicts command other

theorem remembered_nil (bridge : BridgeState) : Remembered [] bridge where
  kept _ member := absurd member List.not_mem_nil
  agree _ member := absurd member List.not_mem_nil

theorem Remembered.answersFinal {history : List Command} {bridge : BridgeState}
    (remembered : Remembered history bridge) : AnswersFinal history :=
  List.pairwise_of_forall_mem_list remembered.agree

/-- What the bridge may do next: it answers as its row says, and gives a row a new
outcome only while the record is unanswered. -/
def Allowed (reached : BridgeState × List Command) (command : Command) : Prop :=
  match command with
  | .publishRecordAck ack =>
      ∃ row, reached.1.recordInbox.get ack.eventId = some row ∧ row.status = .sent
  | .publishRecordNack nack =>
      ∃ row, reached.1.recordInbox.get nack.eventId = some row ∧ row.status = .failed
  | .markRecordSent eventId _ _ | .markRecordFailed eventId _ _ => ¬Answered reached.2 eventId
  | .insertRecord rec =>
      reached.1.recordInbox.get rec.eventId = none → ¬Answered reached.2 rec.eventId
  | _ => True

variable {history : List Command} {bridge : BridgeState}

/-- A step changes the status of no answered record. -/
theorem status_exec_of_answered {command : Command} (allowed : Allowed (bridge, history) command)
    {eventId : String} (answered : Answered history eventId) {row : RecordInboxEvent}
    (after : (bridge.exec command).recordInbox.get eventId = some row) :
    ∃ before, bridge.recordInbox.get eventId = some before ∧ before.status = row.status := by
  have mapped {other : String} {set : RecordInboxEvent → RecordInboxEvent}
      (changed : (bridge.exec command).recordInbox.get eventId =
        if eventId = other then (bridge.recordInbox.get eventId).map set
        else bridge.recordInbox.get eventId)
      (keeps : eventId = other → ∀ row, (set row).status = row.status) :
      ∃ before, bridge.recordInbox.get eventId = some before ∧ before.status = row.status := by
    rw [changed] at after
    split at after
    next here =>
      rcases Option.map_eq_some_iff.mp after with ⟨before, found, rfl⟩
      exact ⟨before, found, (keeps here before).symm⟩
    · exact ⟨row, after, rfl⟩
  cases command with
  | insertRecord rec =>
      simp only [BridgeState.exec, RecordInbox.insertReceived, Table.get_insertOrIgnore] at after
      split at after
      next fresh =>
        rcases fresh with ⟨rfl, absent⟩
        exact absurd answered (allowed absent)
      · exact ⟨row, after, rfl⟩
  | markRecordSent id mkDateCommitted sentAtIso =>
      apply mapped (RecordInbox.get_markSent bridge.recordInbox id mkDateCommitted sentAtIso _)
      intro here
      exact absurd answered (here ▸ allowed)
  | markRecordFailed id failedAtIso lastError =>
      apply mapped (RecordInbox.get_markFailed bridge.recordInbox id failedAtIso lastError _)
      intro here
      exact absurd answered (here ▸ allowed)
  | updateRecordRetry id retryCount nextRetryAtIso lastError =>
      apply mapped (RecordInbox.get_updateRetry bridge.recordInbox id retryCount nextRetryAtIso
        lastError _)
      intro _ _
      rfl
  | deleteRecord id =>
      simp only [BridgeState.exec, Table.get_delete] at after
      split at after
      · cases after
      · exact ⟨row, after, rfl⟩
  | _ => exact ⟨row, after, rfl⟩

/-- An allowed answer is what the row says, and leaves the row alone. -/
theorem Allowed.answer {command : Command} (allowed : Allowed (bridge, history) command)
    {eventId : String} {status : RecordStatus} (tells : command.answer = some (eventId, status)) :
    (∃ row, bridge.recordInbox.get eventId = some row ∧ row.status = status) ∧
      bridge.exec command = bridge := by
  cases command with
  | publishRecordAck ack =>
      cases tells
      exact ⟨allowed, rfl⟩
  | publishRecordNack nack =>
      cases tells
      exact ⟨allowed, rfl⟩
  | _ => cases tells

theorem Remembered.exec (remembered : Remembered history bridge) {command : Command}
    (allowed : Allowed (bridge, history) command) :
    Remembered (history ++ [command]) (bridge.exec command) where
  kept := by
    intro said member eventId status tells row found
    rcases List.mem_append.mp member with earlier | last
    · rcases status_exec_of_answered allowed ⟨said, earlier, status, tells⟩ found with
        ⟨before, was, same⟩
      rw [← same]
      exact remembered.kept said earlier eventId status tells before was
    · rw [List.mem_singleton.mp last] at tells
      rcases allowed.answer tells with ⟨⟨stored, wasFound, same⟩, still⟩
      rw [still, wasFound] at found
      cases found
      exact same
  agree := by
    have consistent {said : Command} (earlier : said ∈ history) {eventId : String}
        {status other : RecordStatus} (tells : said.answer = some (eventId, status))
        (answers : command.answer = some (eventId, other)) : status = other := by
      rcases (allowed.answer answers).1 with ⟨row, found, same⟩
      rw [← same]
      exact (remembered.kept said earlier eventId status tells row found).symm
    intro left leftMember right rightMember contradicts
    rcases contradicts with ⟨eventId, status, other, leftTells, rightTells, differ⟩
    rcases List.mem_append.mp leftMember with leftEarlier | leftLast
    · rcases List.mem_append.mp rightMember with rightEarlier | rightLast
      · exact remembered.agree left leftEarlier right rightEarlier
          ⟨eventId, status, other, leftTells, rightTells, differ⟩
      · rw [List.mem_singleton.mp rightLast] at rightTells
        exact differ (consistent leftEarlier leftTells rightTells)
    · rw [List.mem_singleton.mp leftLast] at leftTells
      rcases List.mem_append.mp rightMember with rightEarlier | rightLast
      · exact differ (consistent rightEarlier rightTells leftTells).symm
      · rw [List.mem_singleton.mp rightLast, leftTells] at rightTells
        cases rightTells
        exact differ rfl

/-- The bridge with everything it has done so far. -/
def historyMachine : Machine (BridgeState × List Command) Command Empty where
  step reached command := ((reached.1.exec command, reached.2 ++ [command]), [])

theorem final_historyMachine (bridge : BridgeState) (history trace : List Command) :
    historyMachine.final (bridge, history) trace = (bridge.replay trace, history ++ trace) := by
  induction trace generalizing bridge history with
  | nil => simp only [Machine.final, BridgeState.replay_nil, List.append_nil]
  | cons command trace ih =>
      rw [Machine.final, BridgeState.replay_cons, List.append_cons]
      exact ih _ _

theorem Remembered.replay {trace : List Command} (remembered : Remembered history bridge)
    (meets : historyMachine.Meets Allowed (bridge, history) trace) :
    Remembered (history ++ trace) (bridge.replay trace) := by
  induction trace generalizing bridge history with
  | nil => rwa [List.append_nil]
  | cons command trace ih =>
      rw [BridgeState.replay_cons, List.append_cons]
      exact ih (remembered.exec meets.1) meets.2

/-! ## One routine -/

theorem allowed_of_elsewhere {command : Command} (elsewhere : command.concernsRecords = false)
    (reached : BridgeState × List Command) : Allowed reached command := by
  cases command <;> trivial

theorem answer_ne_received (command : Command) (eventId : String) :
    command.answer ≠ some (eventId, .received) := by
  cases command <;> simp [Command.answer]

/-- A row that is sent is answered for itself only. -/
theorem answer_of_mem_sendOne {deps : RecordSenderDeps} {profileName : String} {now : Instant}
    {rec : RecordInboxEvent} {reply : MergeReply} {command : Command}
    (member : command ∈ deps.sendOne profileName now rec reply) {eventId : String}
    {status : RecordStatus} (tells : command.answer = some (eventId, status)) :
    eventId = rec.eventId := by
  rcases List.mem_cons.mp member with rfl | inSettle
  · cases tells
  · rw [RecordSenderDeps.settle] at inSettle
    split at inSettle
    · simp only [List.mem_cons, List.mem_map] at inSettle
      rcases inSettle with rfl | rfl | ⟨topic, -, rfl⟩
      · cases tells
      · cases tells
      · cases tells
        rfl
    · simp only [List.mem_cons, List.mem_map] at inSettle
      rcases inSettle with rfl | ⟨topic, -, rfl⟩
      · cases tells
      · cases tells
        rfl
    · rcases List.mem_cons.mp inSettle with rfl | later
      · cases tells
      · split at later
        · rw [List.mem_singleton.mp later] at tells
          cases tells
        · rw [List.mem_singleton.mp later] at tells
          cases tells

/-- A publication on one topic at most, in a state in which it is allowed. -/
theorem meets_published {condition : BridgeState × List Command → Command → Prop}
    {reached : BridgeState × List Command} (topic : Option String) {publish : String → Command}
    (allowed : ∀ name, condition reached (publish name)) :
    historyMachine.Meets condition reached (topic.toList.map publish) := by
  cases topic with
  | none => trivial
  | some name => exact ⟨allowed name, trivial⟩

/-- An unanswered row is sent and answered as its new status says. -/
theorem meets_sendOne (deps : RecordSenderDeps) {rec : RecordInboxEvent}
    (found : bridge.recordInbox.get rec.eventId = some rec)
    (unanswered : ¬Answered history rec.eventId) (profileName : String) (now : Instant)
    (reply : MergeReply) :
    historyMachine.Meets Allowed (bridge, history) (deps.sendOne profileName now rec reply) := by
  have still : ¬Answered (history ++ [.merge
      { path := .record, profileName := profileName, eventId := rec.eventId,
        key := rec.mergeKey, now := now, reply := reply }]) rec.eventId := by
    apply not_answered_append unanswered
    intro command member status tells
    rw [List.mem_singleton.mp member] at tells
    cases tells
  refine ⟨trivial, ?_⟩
  rw [RecordSenderDeps.settle]
  split
  · refine ⟨still, trivial, meets_published _ fun topic => ?_⟩
    refine ⟨rec.asSent rec.mkDate now.isoformat, ?_, rfl⟩
    simp only [historyMachine, BridgeState.exec, RecordInbox.get_markSent, found, if_true,
      Option.map_some]
  next code _ =>
    refine ⟨still, meets_published _ fun topic => ?_⟩
    refine ⟨rec.asFailed now.isoformat
      (oraText (some code) reply.result.errorMessage ++ " (諦め)"), ?_, rfl⟩
    simp only [historyMachine, BridgeState.exec, RecordInbox.get_markFailed, found, if_true,
      Option.map_some]
  · refine ⟨trivial, ?_⟩
    split
    · exact ⟨trivial, trivial⟩
    · exact ⟨trivial, trivial⟩

/-- The loop over unanswered rows of different records. -/
theorem meets_batch (deps : RecordSenderDeps) (profileName : String) (now : Instant)
    (reply : RecordInboxEvent → MergeReply) {recs : List RecordInboxEvent}
    (nodup : (recs.map RecordInboxEvent.eventId).Nodup)
    (waiting : ∀ rec ∈ recs, bridge.recordInbox.get rec.eventId = some rec ∧
      ¬Answered history rec.eventId) :
    historyMachine.Meets Allowed (bridge, history)
      (recs.flatMap fun rec => deps.sendOne profileName now rec (reply rec)) := by
  induction recs generalizing bridge history with
  | nil => trivial
  | cons rec recs ih =>
      rw [List.map_cons, List.nodup_cons] at nodup
      rcases waiting rec List.mem_cons_self with ⟨found, unanswered⟩
      rw [List.flatMap_cons, Machine.meets_append, final_historyMachine]
      refine ⟨meets_sendOne deps found unanswered _ _ _, ih nodup.2 ?_⟩
      intro other member
      rcases waiting other (List.mem_cons_of_mem _ member) with ⟨otherFound, otherUnanswered⟩
      have different : rec.eventId ≠ other.eventId :=
        fun same => nodup.1 (same ▸ List.mem_map_of_mem member)
      constructor
      · rw [← otherFound]
        apply (BridgeState.recordFrame other.eventId).replay
        intro command inRow
        exact deps.touchedRecord_of_mem_sendOne inRow different
      · apply not_answered_append otherUnanswered
        intro command inRow status tells
        exact different (answer_of_mem_sendOne inRow tells).symm

/-- A row that waits is unanswered. -/
theorem Remembered.not_answered_of_due (remembered : Remembered history bridge)
    {nowIso : String} {rec : RecordInboxEvent}
    (due : rec ∈ bridge.recordInbox.iterReceivedDue nowIso) : ¬Answered history rec.eventId := by
  intro answered
  rcases answered with ⟨command, member, status, tells⟩
  have told := remembered.kept command member rec.eventId status tells rec
    (RecordInbox.get_of_due due)
  rw [RecordInbox.status_of_due due] at told
  rw [← told] at tells
  exact answer_ne_received command rec.eventId tells

theorem Remembered.meets_runOnce (remembered : Remembered history bridge)
    (deps : RecordSenderDeps) (call : RecordSenderCall) :
    historyMachine.Meets Allowed (bridge, history) (upToRaise (deps.runOnce bridge call)) := by
  by_cases admitted : ∃ profileName profile, call.Admits bridge profileName profile
  · rcases admitted with ⟨profileName, profile, admits⟩
    rw [deps.upToRaise_runOnce admits]
    refine ⟨trivial, meets_batch deps profileName call.now _
      (deps.nodup_visited bridge call profileName profile) ?_⟩
    intro rec visited
    have due := (deps.visited_sublist bridge call profileName profile).mem visited
    refine ⟨RecordInbox.get_of_due due, ?_⟩
    apply not_answered_append (remembered.not_answered_of_due due)
    intro command member status tells
    rw [List.mem_singleton.mp member] at tells
    cases tells
  · apply Machine.Meets.of_forall
    intro command member reached
    have opening := deps.isOpening_of_not_admitted
      (fun profileName profile admits => admitted ⟨profileName, profile, admits⟩) member
    exact allowed_of_elsewhere opening.concernsRecords reached

theorem RecordSenderDeps.upToRaise_receive (deps : RecordSenderDeps) (rec : RecordInboxEvent) :
    upToRaise (deps.receive bridge rec) = deps.receive bridge rec := by
  apply upToRaise_of_calm
  rw [List.any_eq_false]
  intro command member
  rcases deps.mem_receive member with rfl | ⟨ack, rfl⟩ | ⟨nack, rfl⟩ <;> simp [Command.isRaise]

/-- A delivery is answered as its row says, or inserted where it is new. -/
theorem meets_receive (deps : RecordSenderDeps) (rec : RecordInboxEvent)
    (known : Answered history rec.eventId → bridge.recordInbox.get rec.eventId ≠ none) :
    historyMachine.Meets Allowed (bridge, history) (deps.receive bridge rec) := by
  simp only [RecordSenderDeps.receive, RecordSenderDeps.receiveAfter]
  split
  next absent => exact ⟨fun _ answered => known answered absent, trivial⟩
  next existing found =>
    have bears := Table.key_of_get found
    rw [← bears] at found
    split
    next status =>
      split
      · exact meets_published _ fun _ => ⟨existing, found, status⟩
      · trivial
    · trivial
    next status =>
      split
      · exact meets_published _ fun _ => ⟨existing, found, status⟩
      · trivial

theorem Remembered.meets_performed (remembered : Remembered history bridge) (deps : BridgeDeps)
    (routine : Routine)
    (known : ∀ payload receivedAt, routine = .onRecord payload receivedAt →
      Answered history payload.eventId → bridge.recordInbox.get payload.eventId ≠ none) :
    historyMachine.Meets Allowed (bridge, history) (routine.performed deps bridge) := by
  cases routine with
  | recordRunOnce call =>
      rw [Routine.performed]
      split
      · exact remembered.meets_runOnce deps.recordSender call
      · trivial
  | onRecord payload receivedAt =>
      rw [Routine.performed]
      split
      · rw [Routine.plan, deps.recordSender.upToRaise_receive]
        exact meets_receive deps.recordSender _ (known payload receivedAt rfl)
      · trivial
  | _ =>
      apply Machine.Meets.of_forall
      intro command member reached
      rcases Routine.concernsRecords_of_mem_performed member rfl with elsewhere | ⟨id, rfl⟩
      · exact allowed_of_elsewhere elsewhere reached
      · trivial

/-! ## Whole runs -/

theorem Remembered.step (remembered : Remembered history bridge) (deps : BridgeDeps)
    (step : BridgeStep)
    (known : ∀ payload receivedAt, step.routine = .onRecord payload receivedAt →
      Answered history payload.eventId → bridge.recordInbox.get payload.eventId ≠ none) :
    Remembered (history ++ step.trace deps bridge) (bridge.replay (step.trace deps bridge)) := by
  have meets := remembered.meets_performed deps step.routine known
  cases step with
  | complete routine => exact remembered.replay meets
  | cut routine performed =>
      apply remembered.replay
      rw [BridgeStep.trace, Machine.meets_append]
      have split := List.take_append_drop performed (routine.performed deps bridge)
      rw [BridgeStep.routine, ← split, Machine.meets_append] at meets
      exact ⟨meets.1, trivial, trivial⟩

/-- No answer is taken back in a run in which every answered record that arrives
again finds its row. -/
theorem answersFinal_of_remembers (deps : BridgeDeps) (bridge : BridgeState)
    (steps : List BridgeStep) (remembers : Remembers deps bridge steps) :
    AnswersFinal ((bridgeMachine deps).trace bridge steps) := by
  have remembered : Remembered ((bridgeMachine deps).trace bridge steps)
      ((bridgeMachine deps).final bridge steps) := by
    induction steps using List.reverseRecOn with
    | nil => exact remembered_nil bridge
    | append_singleton steps step ih =>
        have before := ih fun earlier other later payload receivedAt split =>
          remembers earlier other (later ++ [step]) payload receivedAt
            (by rw [split, List.append_assoc, List.cons_append])
        rw [Machine.trace_append, Machine.final_append]
        have single : (bridgeMachine deps).trace ((bridgeMachine deps).final bridge steps) [step] =
            step.trace deps ((bridgeMachine deps).final bridge steps) := List.append_nil _
        rw [single]
        exact before.step deps step fun payload receivedAt =>
          remembers steps step [] payload receivedAt rfl
  exact remembered.answersFinal

/-! ## An answer that is taken back -/

namespace Site

/-- The site gives up on ORA-1. -/
def givesUp : BridgeDeps :=
  { deps with recordSender := { deps.recordSender with unretryableOraCodes := [1] } }

/-- A call of the record sender whose MERGEs all have this result. -/
def recordCallWith (seconds : Int) (result : MergeResult) : RecordSenderCall where
  now := time seconds
  oracle _ _ := { result := result, durable := result.oraCode.isNone }

def refused : MergeResult where
  rowsAffected := 0
  oraCode := some 1
  errorMessage := some "unique constraint violated"

def merged : MergeResult where
  rowsAffected := 1
  oraCode := none
  errorMessage := none

/-- The first record is refused and its row dropped to make room for a second. -/
def refusedAndDropped : List BridgeStep :=
  [.complete (.recordRunOnce (recordCallWith 10 refused)),
    .complete (.onRecord (record "r2") (time 20)), .complete (.ringEvictRecords 1)]

/-- Then the first record arrives again and is committed. -/
def deliveredAnew : List BridgeStep :=
  [.complete (.onRecord (record "r1") (time 700)),
    .complete (.recordRunOnce (recordCallWith 710 merged))]

end Site

theorem not_answersFinal_deliveredAnew :
    ¬∀ deps bridge steps, AnswersFinal ((bridgeMachine deps).trace bridge steps) := by
  intro always
  have final := always Site.givesUp Site.oneRecord (Site.refusedAndDropped ++ Site.deliveredAnew)
  rw [Machine.trace_append] at final
  have apart := (List.pairwise_append.mp final).2.2
  have refused : ∃ command ∈ (bridgeMachine Site.givesUp).trace Site.oneRecord
      Site.refusedAndDropped, command.answer = some ("r1", .failed) := by decide +kernel
  have committed : ∃ command ∈ (bridgeMachine Site.givesUp).trace
      ((bridgeMachine Site.givesUp).final Site.oneRecord Site.refusedAndDropped)
      Site.deliveredAnew, command.answer = some ("r1", .sent) := by decide +kernel
  rcases refused with ⟨nack, nacked, nackTells⟩
  rcases committed with ⟨ack, acked, ackTells⟩
  exact apart nack nacked ack acked ⟨"r1", .failed, .sent, nackTells, ackTells, nofun⟩

/-- The record is refused and delivered again, and its row is still there. -/
theorem answersFinal_of_remembers_refused :
    AnswersFinal ((bridgeMachine Site.givesUp).trace Site.oneRecord
      [.complete (.recordRunOnce (Site.recordCallWith 10 Site.refused)),
        .complete (.onRecord (Site.record "r1") (Site.time 700))]) := by
  apply answersFinal_of_remembers
  intro earlier step later payload receivedAt split delivered answered
  match earlier, split with
  | [], split =>
      cases split
      cases delivered
  | [first], split =>
      cases split
      cases delivered
      decide +kernel
  | first :: second :: rest, split =>
      have lengths := congrArg List.length split
      simp only [List.length_cons, List.length_append, List.length_nil] at lengths
      omega

end PresenceLogger.Bridge
