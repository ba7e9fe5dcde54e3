import PresenceLogger.Bridge.Finality

/-!
# Records that are given up on

A NACK is published for a record whose row says that it failed, and a row says so
only after `_send_one` has given the record up.
-/

namespace PresenceLogger.Bridge

open Library

/-- The record that a step gives up on. -/
def Command.givesUp : Command → Option String
  | .markRecordFailed eventId _ _ => some eventId
  | _ => none

def GivenUp (history : List Command) (eventId : String) : Prop :=
  ∃ command ∈ history, command.givesUp = some eventId

instance (history : List Command) (eventId : String) : Decidable (GivenUp history eventId) :=
  inferInstanceAs (Decidable (∃ command ∈ history, command.givesUp = some eventId))

theorem givenUp_append {left right : List Command} {eventId : String} :
    GivenUp (left ++ right) eventId ↔ GivenUp left eventId ∨ GivenUp right eventId := by
  simp only [GivenUp, List.mem_append, or_and_right, exists_or]

theorem not_givenUp {history : List Command} (none : ∀ command ∈ history, command.givesUp = none)
    (eventId : String) : ¬GivenUp history eventId := by
  intro given
  rcases given with ⟨command, member, gives⟩
  rw [none command member] at gives
  cases gives

/-- Failed rows and NACKs are of records given up on. -/
structure Told (history : List Command) (bridge : BridgeState) : Prop where
  failed : ∀ eventId row, bridge.recordInbox.get eventId = some row → row.status = .failed →
    GivenUp history eventId
  nacked : ∀ nack, .publishRecordNack nack ∈ history → GivenUp history nack.eventId

/-- A NACK is for a record given up on, and a new row has not failed. -/
def Permitted (reached : BridgeState × List Command) (command : Command) : Prop :=
  match command with
  | .publishRecordNack nack => GivenUp reached.2 nack.eventId
  | .insertRecord rec => rec.status ≠ .failed
  | _ => True

variable {history : List Command} {bridge : BridgeState}

theorem permitted_of_elsewhere {command : Command} (elsewhere : command.concernsRecords = false)
    (reached : BridgeState × List Command) : Permitted reached command := by
  cases command <;> trivial

theorem givesUp_of_elsewhere {command : Command} (elsewhere : command.concernsRecords = false) :
    command.givesUp = none := by
  cases command <;> first | rfl | cases elsewhere

/-- A row that says it failed said so before, or the step gave it up. -/
theorem failed_of_exec {command : Command} (permitted : Permitted (bridge, history) command)
    {eventId : String} {row : RecordInboxEvent}
    (found : (bridge.exec command).recordInbox.get eventId = some row)
    (failed : row.status = .failed) :
    command.givesUp = some eventId ∨
      ∃ before, bridge.recordInbox.get eventId = some before ∧ before.status = .failed := by
  cases command with
  | insertRecord rec =>
      simp only [BridgeState.exec, RecordInbox.insertReceived, Table.get_insertOrIgnore] at found
      split at found
      · cases found
        exact absurd failed permitted
      · exact .inr ⟨row, found, failed⟩
  | markRecordSent id mkDateCommitted sentAtIso =>
      simp only [BridgeState.exec, RecordInbox.get_markSent] at found
      split at found
      · rcases Option.map_eq_some_iff.mp found with ⟨before, -, rfl⟩
        cases failed
      · exact .inr ⟨row, found, failed⟩
  | markRecordFailed id failedAtIso lastError =>
      simp only [BridgeState.exec, RecordInbox.get_markFailed] at found
      split at found
      next same => exact .inl (congrArg some same.symm)
      · exact .inr ⟨row, found, failed⟩
  | updateRecordRetry id retryCount nextRetryAtIso lastError =>
      simp only [BridgeState.exec, RecordInbox.get_updateRetry] at found
      split at found
      · rcases Option.map_eq_some_iff.mp found with ⟨before, was, rfl⟩
        exact .inr ⟨before, was, failed⟩
      · exact .inr ⟨row, found, failed⟩
  | deleteRecord id =>
      simp only [BridgeState.exec, Table.get_delete] at found
      split at found
      · cases found
      · exact .inr ⟨row, found, failed⟩
  | _ => exact .inr ⟨row, found, failed⟩

theorem Told.exec (told : Told history bridge) {command : Command}
    (permitted : Permitted (bridge, history) command) :
    Told (history ++ [command]) (bridge.exec command) where
  failed := by
    intro eventId row found failed
    apply givenUp_append.mpr
    rcases failed_of_exec permitted found failed with gives | ⟨before, was, wasFailed⟩
    · exact .inr ⟨command, List.mem_singleton_self _, gives⟩
    · exact .inl (told.failed eventId before was wasFailed)
  nacked := by
    intro nack member
    apply givenUp_append.mpr
    left
    rcases List.mem_append.mp member with earlier | last
    · exact told.nacked nack earlier
    · rw [← List.mem_singleton.mp last] at permitted
      exact permitted

theorem Told.replay {trace : List Command} (told : Told history bridge)
    (meets : historyMachine.Meets Permitted (bridge, history) trace) :
    Told (history ++ trace) (bridge.replay trace) := by
  induction trace generalizing bridge history with
  | nil => rwa [List.append_nil]
  | cons command trace ih =>
      rw [BridgeState.replay_cons, List.append_cons]
      exact ih (told.exec meets.1) meets.2

/-! ## Routines -/

/-- `_send_one` gives up on its own record, for an unretryable code. -/
theorem RecordSenderDeps.givesUp_of_mem_sendOne {deps : RecordSenderDeps} {profileName : String}
    {now : Instant} {rec : RecordInboxEvent} {reply : MergeReply} {command : Command}
    (member : command ∈ deps.sendOne profileName now rec reply) {eventId : String}
    (gives : command.givesUp = some eventId) :
    eventId = rec.eventId ∧ ∃ code ∈ reply.result.oraCode, code ∈ deps.unretryableOraCodes := by
  rcases List.mem_cons.mp member with rfl | inSettle
  · cases gives
  · rw [settle] at inSettle
    split at inSettle
    · simp only [List.mem_cons, List.mem_map] at inSettle
      rcases inSettle with rfl | rfl | ⟨topic, -, rfl⟩ <;> cases gives
    next code unretryable =>
      have listed : ∃ code ∈ reply.result.oraCode, code ∈ deps.unretryableOraCodes := by
        rw [verdict] at unretryable
        split at unretryable
        · cases unretryable
        · cases unretryable
        next answered named =>
          split at unretryable
          next listed => exact ⟨answered, named, listed⟩
          · cases unretryable
      simp only [List.mem_cons, List.mem_map] at inSettle
      rcases inSettle with rfl | ⟨topic, -, rfl⟩
      · exact ⟨(Option.some.inj gives).symm, listed⟩
      · cases gives
    · rcases List.mem_cons.mp inSettle with rfl | later
      · cases gives
      · split at later <;> (rw [List.mem_singleton.mp later] at gives; cases gives)

/-- `_send_one` publishes its NACK after it has given the record up. -/
theorem RecordSenderDeps.permitted_sendOne (deps : RecordSenderDeps)
    (reached : BridgeState × List Command) (profileName : String) (now : Instant)
    (rec : RecordInboxEvent) (reply : MergeReply) :
    historyMachine.Meets Permitted reached (deps.sendOne profileName now rec reply) := by
  refine ⟨trivial, ?_⟩
  rw [settle]
  split
  · exact ⟨trivial, trivial, meets_published _ fun _ => trivial⟩
  · refine ⟨trivial, meets_published _ fun _ => ?_⟩
    exact givenUp_append.mpr (.inr ⟨_, List.mem_singleton_self _, rfl⟩)
  · refine ⟨trivial, ?_⟩
    split <;> exact ⟨trivial, trivial⟩

/-- A step that is permitted and gives up on no record. -/
def Unobtrusive (reached : BridgeState × List Command) (command : Command) : Prop :=
  Permitted reached command ∧ command.givesUp = none

theorem unobtrusive_of_elsewhere {command : Command}
    (elsewhere : command.concernsRecords = false) (reached : BridgeState × List Command) :
    Unobtrusive reached command :=
  ⟨permitted_of_elsewhere elsewhere reached, givesUp_of_elsewhere elsewhere⟩

theorem Told.meets_receive (told : Told history bridge) (deps : RecordSenderDeps)
    {rec : RecordInboxEvent} (fresh : rec.status ≠ .failed) :
    historyMachine.Meets Unobtrusive (bridge, history) (deps.receive bridge rec) := by
  simp only [RecordSenderDeps.receive, RecordSenderDeps.receiveAfter]
  split
  · exact ⟨⟨fresh, rfl⟩, trivial⟩
  next existing found =>
    have bears := Table.key_of_get found
    split
    next failed =>
      have given : GivenUp history existing.eventId := by
        rw [bears]
        exact told.failed _ existing found failed
      split
      · exact meets_published _ fun _ => ⟨given, rfl⟩
      · trivial
    · trivial
    · split
      · exact meets_published _ fun _ => ⟨trivial, rfl⟩
      · trivial

/-- The loop of the record sender. -/
def Routine.isRecordRun : Routine → Bool
  | .recordRunOnce _ => true
  | _ => false

theorem Told.meets_performed (told : Told history bridge) (deps : BridgeDeps) {routine : Routine}
    (other : routine.isRecordRun = false) :
    historyMachine.Meets Unobtrusive (bridge, history) (routine.performed deps bridge) := by
  cases routine with
  | recordRunOnce call => cases other
  | onRecord payload receivedAt =>
      rw [Routine.performed]
      split
      · rw [Routine.plan, deps.recordSender.upToRaise_receive]
        exact told.meets_receive deps.recordSender (by simp [RecordPayload.toRow])
      · trivial
  | _ =>
      apply Machine.Meets.of_forall
      intro command member reached
      rcases Routine.concernsRecords_of_mem_performed member rfl with elsewhere | ⟨id, rfl⟩
      · exact unobtrusive_of_elsewhere elsewhere reached
      · exact ⟨trivial, rfl⟩

/-- A crash after so many steps of a trace. -/
theorem meets_cut {condition : BridgeState × List Command → Command → Prop}
    {reached : BridgeState × List Command} {trace : List Command}
    (meets : historyMachine.Meets condition reached trace)
    (restarts : ∀ reached, condition reached .restart) (performed : Nat) :
    historyMachine.Meets condition reached (trace.take performed ++ [.restart]) := by
  have split := List.take_append_drop performed trace
  rw [← split, Machine.meets_append] at meets
  rw [Machine.meets_append]
  exact ⟨meets.1, restarts _, trivial⟩

theorem Told.meets_step (told : Told history bridge) (deps : BridgeDeps) {step : BridgeStep}
    (other : step.routine.isRecordRun = false) :
    historyMachine.Meets Unobtrusive (bridge, history) (step.trace deps bridge) := by
  have meets := told.meets_performed deps other
  cases step with
  | complete routine => exact meets
  | cut routine performed => exact meets_cut meets (unobtrusive_of_elsewhere rfl) performed

end PresenceLogger.Bridge
