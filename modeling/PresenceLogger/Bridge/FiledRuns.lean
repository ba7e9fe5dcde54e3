import PresenceLogger.Bridge.Ingest
import PresenceLogger.Bridge.Runs
import PresenceLogger.Retention

/-!
# Runs over rows without an id

`inbox` keeps any number of rows whose id is `NULL`, because `"event_id": null` is stored.
The sender takes them like any other row, but a statement that looks for their id changes
nothing.  The runs below take the steps of the event path over both kinds of rows.
-/

namespace PresenceLogger.Bridge

open Library

/-- An atomic step for a row with its id, or for one without. -/
abbrev FiledCommand := Filed Command

/-- What a step does to the rows with an id and to the rest of the bridge. -/
def FiledCommand.effective : FiledCommand → Option Command
  | .named command => some command
  | .unnamed command => if command.concernsEvents then none else some command

namespace IngestState

/-- The `inbox` table.  Which of two rows of one time comes first is left open by SQL. -/
def table (state : IngestState) : FiledInbox where
  rows := state.bridge.inbox.rows.map .named ++ state.unnamed.map .unnamed
  nodup := by
    have unnamed : (state.unnamed.map Filed.unnamed).filterMap (Filed.key InboxEvent.eventId) =
        [] := by
      simp [List.filterMap_map, Filed.key]
    rw [List.filterMap_append, unnamed, List.append_nil]
    exact (NullableTable.ofTable state.bridge.inbox).nodup

theorem named_mem_table {state : IngestState} {row : InboxEvent} :
    .named row ∈ state.table.rows ↔ row ∈ state.bridge.inbox.rows := by
  simp [table]

theorem unnamed_mem_table {state : IngestState} {row : InboxEvent} :
    .unnamed row ∈ state.table.rows ↔ row ∈ state.unnamed := by
  simp [table]

/-- The effect of one step; a statement for a `NULL` id inserts a row or changes nothing. -/
def exec (state : IngestState) : FiledCommand → IngestState
  | .unnamed (.insertEvent event) => { state with unnamed := state.unnamed ++ [event] }
  | command =>
      { state with
        bridge := (FiledCommand.effective command).elim state.bridge state.bridge.exec }

/-- The state after a whole trace. -/
def replay (state : IngestState) (trace : List FiledCommand) : IngestState :=
  trace.foldl exec state

@[simp] theorem replay_append (state : IngestState) (left right : List FiledCommand) :
    state.replay (left ++ right) = (state.replay left).replay right :=
  List.foldl_append

@[simp] theorem exec_named (state : IngestState) (command : Command) :
    state.exec (.named command) = { state with bridge := state.bridge.exec command } := rfl

theorem bridge_exec (state : IngestState) (command : FiledCommand) :
    (state.exec command).bridge =
      (FiledCommand.effective command).elim state.bridge state.bridge.exec := by
  cases command with
  | named command => rfl
  | unnamed command => cases command <;> rfl

/-- The bridge after a trace is the bridge after the steps that reach it. -/
theorem bridge_replay (state : IngestState) (trace : List FiledCommand) :
    (state.replay trace).bridge =
      state.bridge.replay (trace.filterMap FiledCommand.effective) := by
  induction trace generalizing state with
  | nil => rfl
  | cons command trace ih =>
      change ((state.exec command).replay trace).bridge = _
      rw [ih, bridge_exec, List.filterMap_cons]
      cases FiledCommand.effective command <;> rfl

/-- Rows without an id are only added. -/
theorem mem_unnamed_exec {state : IngestState} {command : FiledCommand} {row : InboxEvent}
    (member : row ∈ (state.exec command).unnamed) :
    row ∈ state.unnamed ∨ command = .unnamed (.insertEvent row) := by
  cases command with
  | named command => exact .inl member
  | unnamed command =>
      cases command with
      | insertEvent event =>
          rcases List.mem_append.mp member with before | inserted
          · exact .inl before
          · exact .inr (List.mem_singleton.mp inserted ▸ rfl)
      | _ => exact .inl member

theorem mem_unnamed_replay {state : IngestState} {trace : List FiledCommand} {row : InboxEvent}
    (member : row ∈ (state.replay trace).unnamed) :
    row ∈ state.unnamed ∨ .unnamed (.insertEvent row) ∈ trace := by
  induction trace generalizing state with
  | nil => exact .inl member
  | cons command trace ih =>
      rcases ih member with before | later
      · rcases mem_unnamed_exec before with before | rfl
        · exact .inl before
        · exact .inr List.mem_cons_self
      · exact .inr (List.mem_cons_of_mem _ later)

/-- `iter_received_due` -/
def due (state : IngestState) (nowIso : String) : List (Filed InboxEvent) :=
  state.table.select (fun filed => Inbox.isDue nowIso filed.row)
    fun left right => left.row.receivedAtIso ≤ right.row.receivedAtIso

theorem mem_due {state : IngestState} {nowIso : String} {filed : Filed InboxEvent} :
    filed ∈ state.due nowIso ↔
      filed ∈ state.table.rows ∧ Inbox.isDue nowIso filed.row = true :=
  NullableTable.mem_select

/-- The ids among the due rows differ. -/
theorem nodup_due (state : IngestState) (nowIso : String) :
    ((state.due nowIso).filterMap (Filed.key InboxEvent.eventId)).Nodup := by
  refine ((state.table.select_perm _ _).filterMap _).nodup_iff.mpr ?_
  exact state.table.nodup.sublist (List.filter_sublist.filterMap _)

end IngestState

/-! ## One call of the sender -/

/-- One call of `Sender.run_once`.  Oracle answers by the place of the row among the due
ones, because two rows without an id may be alike. -/
structure FiledCall where
  now : Instant
  nmcli : CommandOutcome
  oracle : Nat → Profile → InboxEvent → MergeReply

/-- The call as the row at this place sees it. -/
def FiledCall.at (call : FiledCall) (place : Nat) : SenderCall where
  now := call.now
  nmcli := call.nmcli
  oracle := call.oracle place

namespace SenderDeps

variable (deps : SenderDeps)

/-- The body of the loop in `run_once`. -/
def sendFiled (baseline : Option SyncBaseline) (profile : Profile) (profileName : String)
    (call : FiledCall) (item : Filed InboxEvent × Nat) : List Command :=
  deps.sendRow baseline profile profileName (call.at item.2) item.1.row

/-- The rows the loop of `run_once` gets to, with their places. -/
def visitedFiled (state : IngestState) (call : FiledCall) (profileName : String)
    (profile : Profile) : List (Filed InboxEvent × Nat) :=
  untilRaise (deps.sendFiled state.bridge.timeWatcher.baseline profile profileName call)
    (state.due call.now.isoformat).zipIdx

/-- `Sender.run_once`, up to an exception. -/
def runFiled (state : IngestState) (call : FiledCall) : List FiledCommand :=
  let network := state.bridge.network.getCurrentSsid call.nmcli
  .named (.getCurrentSsid call.nmcli) :: .named .resolveSsid ::
    match (state.bridge.resolver.resolve network.cachedSsid).2 with
    | .hold | .drop => []
    | .send profileName =>
        .named (.queryBreaker profileName call.now) ::
          if (state.bridge.breaker.stateFor profileName (some call.now)).2 = .open then []
          else
            match state.bridge.resolver.get profileName with
            | none => [.named (.raise .keyError)]
            | some profile =>
                (deps.visitedFiled state call profileName profile).flatMap fun item =>
                  (deps.sendFiled state.bridge.timeWatcher.baseline profile profileName call
                    item).map item.1.like

/-- `run_once` sends this row with this MK_DATE. -/
structure AttemptsFiled (state : IngestState) (call : FiledCall) (profileName : String)
    (profile : Profile) (item : Filed InboxEvent × Nat) (mkDate : String) : Prop
    extends (call.at item.2).Admits state.bridge profileName profile where
  reached : item ∈ deps.visitedFiled state call profileName profile
  dated : resolveMkDate state.bridge.timeWatcher.baseline item.1.row = some mkDate

/-- The steps of an admitted call. -/
theorem runFiled_of_admits {state : IngestState} {call : FiledCall} {place : Nat}
    {profileName : String} {profile : Profile}
    (admits : (call.at place).Admits state.bridge profileName profile) :
    deps.runFiled state call =
      [.named (.getCurrentSsid call.nmcli), .named .resolveSsid,
        .named (.queryBreaker profileName call.now)] ++
        (deps.visitedFiled state call profileName profile).flatMap fun item =>
          (deps.sendFiled state.bridge.timeWatcher.baseline profile profileName call item).map
            item.1.like := by
  have send := admits.send
  have allowed := admits.allowed
  simp only [FiledCall.at] at send allowed
  simp only [runFiled, send, if_neg allowed, admits.configured]
  rfl

/-- Every step of a call asks a guard or belongs to a row that is sent. -/
theorem mem_runFiled {state : IngestState} {call : FiledCall} {command : FiledCommand}
    (member : command ∈ deps.runFiled state call) :
    (∃ opening : Command, opening.IsOpening ∧ command = .named opening) ∨
      ∃ profileName profile item mkDate,
        deps.AttemptsFiled state call profileName profile item mkDate ∧
        ∃ step ∈ deps.sendOne profile profileName mkDate call.now item.1.row
          (call.oracle item.2 profile item.1.row), command = item.1.like step := by
  simp only [runFiled, List.mem_cons] at member
  rcases member with rfl | rfl | member
  · exact .inl ⟨.getCurrentSsid call.nmcli, trivial, rfl⟩
  · exact .inl ⟨.resolveSsid, trivial, rfl⟩
  · split at member
    · exact absurd member List.not_mem_nil
    · exact absurd member List.not_mem_nil
    next profileName send =>
      rcases List.mem_cons.mp member with rfl | member
      · exact .inl ⟨.queryBreaker profileName call.now, trivial, rfl⟩
      · split at member
        next => exact absurd member List.not_mem_nil
        next allowed =>
          split at member
          next =>
            rw [List.mem_singleton.mp member]
            exact .inl ⟨.raise .keyError, trivial, rfl⟩
          next profile configured =>
            right
            obtain ⟨item, reached, inRow⟩ := List.mem_flatMap.mp member
            obtain ⟨step, sent, rfl⟩ := List.mem_map.mp inRow
            unfold sendFiled sendRow at sent
            split at sent
            next => exact absurd sent List.not_mem_nil
            next mkDate dated =>
              exact ⟨profileName, profile, item, mkDate,
                ⟨⟨send, allowed, configured⟩, reached, dated⟩, step, sent, rfl⟩

theorem visitedFiled_sublist (state : IngestState) (call : FiledCall) (profileName : String)
    (profile : Profile) :
    (deps.visitedFiled state call profileName profile).Sublist
      (state.due call.now.isoformat).zipIdx :=
  untilRaise_sublist _ _

theorem AttemptsFiled.due {deps : SenderDeps} {state : IngestState} {call : FiledCall}
    {profileName mkDate : String} {profile : Profile} {item : Filed InboxEvent × Nat}
    (attempts : deps.AttemptsFiled state call profileName profile item mkDate) :
    item.1 ∈ state.due call.now.isoformat := by
  have listed := (deps.visitedFiled_sublist state call profileName profile).mem attempts.reached
  exact List.fst_mem_of_mem_zipIdx listed

/-- The ids among the rows that the loop gets to differ. -/
theorem nodup_visitedFiled (state : IngestState) (call : FiledCall) (profileName : String)
    (profile : Profile) :
    ((deps.visitedFiled state call profileName profile).filterMap fun item =>
      Filed.key InboxEvent.eventId item.1).Nodup := by
  have listed := (deps.visitedFiled_sublist state call profileName profile).map Prod.fst
  rw [List.zipIdx_map_fst] at listed
  have nodup := (state.nodup_due call.now.isoformat).sublist (listed.filterMap _)
  rwa [List.filterMap_map] at nodup

/-- The steps for one row do not touch the row with another id. -/
theorem not_touches_of_sendFiled {baseline : Option SyncBaseline} {profile : Profile}
    {profileName eventId : String} {call : FiledCall} {item : Filed InboxEvent × Nat}
    (differs : Filed.key InboxEvent.eventId item.1 ≠ some eventId) :
    ∀ command ∈ ((deps.sendFiled baseline profile profileName call item).map
      item.1.like).filterMap FiledCommand.effective,
      ¬(BridgeState.inboxFrame eventId).touches command := by
  intro command member
  obtain ⟨step, sent, effective⟩ := List.mem_filterMap.mp member
  obtain ⟨plain, inRow, rfl⟩ := List.mem_map.mp sent
  rcases item with ⟨row | row, position⟩
  · obtain rfl := Option.some.inj effective
    exact deps.touchedEvent_of_mem_sendRow inRow fun same => differs (congrArg some same)
  · simp only [Filed.like, FiledCommand.effective] at effective
    split at effective
    · cases effective
    next quiet =>
      obtain rfl := Option.some.inj effective
      have untouched := Command.touchedEvent_eq_none (Bool.eq_false_iff.mpr quiet)
      simp [BridgeState.inboxFrame, untouched]

/-- A row with an id ends as `_send_one` leaves it, whatever the rest of the batch does. -/
theorem get_runFiled_of_attempts {state : IngestState} {call : FiledCall}
    {profileName mkDate : String} {profile : Profile} {event : InboxEvent} {place : Nat}
    (attempts : deps.AttemptsFiled state call profileName profile (.named event, place) mkDate) :
    (state.replay (deps.runFiled state call)).bridge.inbox.get event.eventId =
      some (deps.settledRow profileName mkDate call.now event
        (call.oracle place profile event).result) := by
  have found : state.bridge.inbox.get event.eventId = some event :=
    Table.get_of_mem (IngestState.named_mem_table.mp (IngestState.mem_due.mp attempts.due).1)
  obtain ⟨before, after, split⟩ := List.append_of_mem attempts.reached
  have distinct := deps.nodup_visitedFiled state call profileName profile
  simp only [split, List.filterMap_append, List.filterMap_cons, Filed.key_named,
    List.nodup_append, List.nodup_cons] at distinct
  obtain ⟨-, ⟨later, -⟩, earlier⟩ := distinct
  have apart : ∀ other, other ∈ before ∨ other ∈ after →
      ∀ command ∈ ((deps.sendFiled state.bridge.timeWatcher.baseline profile profileName call
        other).map other.1.like).filterMap FiledCommand.effective,
        ¬(BridgeState.inboxFrame event.eventId).touches command := by
    intro other elsewhere
    refine deps.not_touches_of_sendFiled fun same => ?_
    rcases elsewhere with first | last
    · exact earlier event.eventId (List.mem_filterMap.mpr ⟨other, first, same⟩) event.eventId
        List.mem_cons_self rfl
    · exact later (List.mem_filterMap.mpr ⟨other, last, same⟩)
  rw [deps.runFiled_of_admits attempts.toAdmits, IngestState.bridge_replay, split,
    List.filterMap_append, BridgeState.replay_append, List.filterMap_flatMap]
  obtain ⟨reached, same, ends⟩ := (BridgeState.inboxFrame event.eventId).loop_of_apart
    (state.bridge.replay [.getCurrentSsid call.nmcli, .resolveSsid,
      .queryBreaker profileName call.now]) apart
  simp only [BridgeState.inboxFrame] at same ends
  refine ends.trans ?_
  have own : ((deps.sendFiled state.bridge.timeWatcher.baseline profile profileName call
      (.named event, place)).map Filed.named).filterMap FiledCommand.effective =
        deps.sendOne profile profileName mkDate call.now event (call.oracle place profile event) := by
    rw [List.filterMap_map, sendFiled, sendRow, attempts.dated]
    exact List.filterMap_some
  change (reached.replay (((deps.sendFiled state.bridge.timeWatcher.baseline profile profileName
    call (.named event, place)).map Filed.named).filterMap FiledCommand.effective)).inbox.get
      event.eventId = _
  rw [own, sendOne, BridgeState.replay_cons]
  exact deps.get_replay_settle (same.trans found) ..

end SenderDeps

/-! ## Runs -/

/-- The routines that read or write `inbox`. -/
def Routine.ofEvents : Routine → Bool
  | .senderRunOnce _ | .onEvent .. | .deleteSentEvents _ | .ringEvictEvents _ => true
  | _ => false

inductive FiledRoutine where
  | senderRunOnce (call : FiledCall)
  | onEvent (payload : Filed EventPayload) (receivedAt : Instant)
  | deleteSentEvents (keepNewest : Int)
  | ringEvictEvents (maxRows : Int)
  | elsewhere (routine : Routine) (apart : routine.ofEvents = false)

/-- `DELETE FROM inbox WHERE event_id=?` -/
def deleteFiled : Option String → FiledCommand
  | some eventId => .named (.deleteEvent eventId)
  | none => .unnamed (.deleteEvent "")

section Machine

variable (deps : BridgeDeps)

/-- The steps of a routine, up to an exception. -/
def FiledRoutine.plan (state : IngestState) : FiledRoutine → List FiledCommand
  | .senderRunOnce call => deps.sender.runFiled state call
  | .onEvent payload receivedAt =>
      (state.bridge.onEvent payload.row receivedAt).map payload.like
  | .deleteSentEvents keepNewest => (state.table.deleteSent keepNewest).2.map deleteFiled
  | .ringEvictEvents maxRows => (state.table.ringEvictIds maxRows).map deleteFiled
  | .elsewhere routine _ => (upToRaise (routine.plan deps state.bridge)).map .named

/-- What a routine performs: nothing while no process runs. -/
def FiledRoutine.performed (state : IngestState) (routine : FiledRoutine) : List FiledCommand :=
  if state.bridge.running then routine.plan deps state else []

inductive FiledStep where
  | complete (routine : FiledRoutine)
  /-- The process dies after so many atomic steps, and a new one starts. -/
  | cut (routine : FiledRoutine) (performed : Nat)

def FiledStep.routine : FiledStep → FiledRoutine
  | .complete routine | .cut routine _ => routine

def FiledStep.trace (state : IngestState) : FiledStep → List FiledCommand
  | .complete routine => routine.performed deps state
  | .cut routine performed => (routine.performed deps state).take performed ++ [.named .restart]

/-- The bridge with both kinds of rows as a machine. -/
def filedMachine : Machine IngestState FiledStep FiledCommand where
  step state step := (state.replay (step.trace deps state), step.trace deps state)

/-- The state a run ends in is the effect of its trace. -/
theorem filedFinal_eq_replay (state : IngestState) (steps : List FiledStep) :
    (filedMachine deps).final state steps =
      state.replay ((filedMachine deps).trace state steps) := by
  induction steps generalizing state with
  | nil => rfl
  | cons step steps ih =>
      rw [Machine.final, Machine.trace, IngestState.replay_append]
      exact ih _

end Machine

/-! ## Messages that arrive -/

/-- What the parser binds, with the id or without. -/
def filePayload (eventId : Option String) (payload : EventPayload) : Filed EventPayload :=
  eventId.elim (.unnamed payload) fun _ => .named payload

/-- An event is stored as its callback stores it. -/
theorem storeEvent_filed (deps : BridgeDeps) {state : IngestState} {parsed : ParsedEvent}
    {eventId : Option String} {payload : EventPayload}
    (bound : bindEvent parsed = .ok (eventId, payload)) (receivedAt : Instant) :
    (state.storeEvent parsed receivedAt).state =
      state.replay ((FiledRoutine.onEvent (filePayload eventId payload) receivedAt).plan deps
        state) := by
  cases eventId with
  | none =>
      simp only [IngestState.storeEvent, IngestState.insertEvent, bound, FiledRoutine.plan,
        filePayload, BridgeState.onEvent, Option.elim_none, Filed.row]
      cases state.bridge.resolver.peek state.bridge.network.cachedSsid <;> rfl
  | some eventId =>
      simp only [IngestState.storeEvent, IngestState.insertEvent, bound, FiledRoutine.plan,
        filePayload, BridgeState.onEvent, Option.elim_some, Filed.row_named]
      cases state.bridge.resolver.peek state.bridge.network.cachedSsid <;> rfl

/-! ## Runs in which every row has its id -/

/-- The same routine over both kinds of rows. -/
def Routine.filed : Routine → FiledRoutine
  | .senderRunOnce call =>
      .senderRunOnce { now := call.now, nmcli := call.nmcli, oracle := fun _ => call.oracle }
  | .onEvent payload receivedAt => .onEvent (.named payload) receivedAt
  | .deleteSentEvents keepNewest => .deleteSentEvents keepNewest
  | .ringEvictEvents maxRows => .ringEvictEvents maxRows
  | .recordRunOnce call => .elsewhere (.recordRunOnce call) rfl
  | .onRecord payload receivedAt => .elsewhere (.onRecord payload receivedAt) rfl
  | .pollNetwork nmcli => .elsewhere (.pollNetwork nmcli) rfl
  | .pollTime reading => .elsewhere (.pollTime reading) rfl
  | .deleteSentRecords keepNewest => .elsewhere (.deleteSentRecords keepNewest) rfl
  | .ringEvictRecords maxRows => .elsewhere (.ringEvictRecords maxRows) rfl

def BridgeStep.filed : BridgeStep → FiledStep
  | .complete routine => .complete routine.filed
  | .cut routine performed => .cut routine.filed performed

/-- The bridge as a state without rows whose id is `NULL`. -/
def BridgeState.filed (bridge : BridgeState) : IngestState := { bridge := bridge, unnamed := [] }

theorem table_filed (bridge : BridgeState) :
    bridge.filed.table = NullableTable.ofTable bridge.inbox := by
  simp [IngestState.table, BridgeState.filed, NullableTable.ofTable]

theorem due_filed (bridge : BridgeState) (nowIso : String) :
    bridge.filed.due nowIso = (bridge.inbox.iterReceivedDue nowIso).map .named := by
  rw [IngestState.due, table_filed]
  exact NullableTable.select_ofTable bridge.inbox (Inbox.isDue nowIso)
    fun left right => left.receivedAtIso ≤ right.receivedAtIso

theorem replay_map_named (bridge : BridgeState) (trace : List Command) :
    bridge.filed.replay (trace.map .named) = (bridge.replay trace).filed := by
  induction trace generalizing bridge with
  | nil => rfl
  | cons command trace ih => exact ih (bridge.exec command)

/-- A loop that goes by a part of its items gets equally far. -/
theorem map_untilRaise {α β : Type*} (body : β → List Command) (part : α → β)
    (items : List α) :
    (untilRaise (fun item => body (part item)) items).map part =
      untilRaise body (items.map part) := by
  induction items with
  | nil => rfl
  | cons item items ih =>
      rw [List.map_cons, untilRaise, untilRaise]
      split
      · rfl
      · rw [List.map_cons, ih]

/-- A call that asks Oracle by the row alone. -/
abbrev SenderCall.filed (call : SenderCall) : FiledCall where
  now := call.now
  nmcli := call.nmcli
  oracle _ := call.oracle

/-- The batch of a call over the rows with their ids. -/
theorem batch_filed (deps : SenderDeps) (bridge : BridgeState) (call : SenderCall)
    (profileName : String) (profile : Profile) :
    ((deps.visitedFiled bridge.filed call.filed profileName profile).flatMap fun item =>
      (deps.sendFiled bridge.timeWatcher.baseline profile profileName call.filed item).map
        item.1.like) =
      (upToRaise ((bridge.inbox.iterReceivedDue call.now.isoformat).flatMap
        (deps.sendRow bridge.timeWatcher.baseline profile profileName call))).map .named := by
  have places : ((bridge.filed.due call.now.isoformat).zipIdx.map fun item => item.1.row) =
      bridge.inbox.iterReceivedDue call.now.isoformat := by
    have rows : (fun item : Filed InboxEvent × Nat => item.1.row) = Filed.row ∘ Prod.fst := rfl
    rw [rows, ← List.map_map, List.zipIdx_map_fst, due_filed, List.map_map]
    exact List.map_id _
  have visited := map_untilRaise
    (deps.sendRow bridge.timeWatcher.baseline profile profileName call)
    (fun item : Filed InboxEvent × Nat => item.1.row)
    (bridge.filed.due call.now.isoformat).zipIdx
  rw [places] at visited
  rw [upToRaise_flatMap fun event _ => deps.upToRaise_sendRow _ _ _ _ _, ← visited,
    List.flatMap_map, List.map_flatMap]
  refine List.flatMap_congr fun item reached => ?_
  have listed := (deps.visitedFiled_sublist bridge.filed call.filed profileName profile).mem
    reached
  have isDue := List.fst_mem_of_mem_zipIdx listed
  simp only [due_filed, List.mem_map] at isDue
  obtain ⟨event, -, named⟩ := isDue
  rw [← named]
  simp only [SenderDeps.sendFiled, ← named]
  rfl

theorem runFiled_filed (deps : SenderDeps) (bridge : BridgeState) (call : SenderCall) :
    deps.runFiled bridge.filed call.filed =
      (upToRaise (deps.runOnce bridge call)).map .named := by
  have batch := batch_filed deps bridge call
  set filedCall := call.filed with isCall
  simp only [SenderDeps.runFiled, SenderDeps.runOnce, BridgeState.filed, isCall, SenderCall.filed]
  cases (bridge.resolver.resolve (bridge.network.getCurrentSsid call.nmcli).cachedSsid).2 with
  | hold => rfl
  | drop => rfl
  | send profileName =>
      by_cases isOpen :
          (bridge.breaker.stateFor profileName (some call.now)).2 = CircuitState.open
      · simp only [if_pos isOpen]
        rfl
      · simp only [if_neg isOpen]
        cases bridge.resolver.get profileName with
        | none => rfl
        | some profile =>
            exact congrArg (fun later => .named (.getCurrentSsid call.nmcli) ::
              .named .resolveSsid :: .named (.queryBreaker profileName call.now) :: later)
                (batch profileName profile)

theorem performed_filed (deps : BridgeDeps) (bridge : BridgeState) (routine : Routine) :
    routine.filed.performed deps bridge.filed = (routine.performed deps bridge).map .named := by
  have same : bridge.filed.bridge.running = bridge.running := rfl
  unfold FiledRoutine.performed Routine.performed
  rw [same]
  split
  next =>
    have calm {ids : List String} : upToRaise (ids.map Command.deleteEvent) =
        ids.map .deleteEvent := by
      apply upToRaise_of_calm
      simp [Command.isRaise]
    cases routine with
    | senderRunOnce call => exact runFiled_filed deps.sender bridge call
    | onEvent payload receivedAt =>
        simp only [Routine.filed, FiledRoutine.plan, Routine.plan, BridgeState.onEvent,
          BridgeState.filed, Filed.row_named]
        cases bridge.resolver.peek bridge.network.cachedSsid <;> rfl
    | deleteSentEvents keepNewest =>
        have ids := congrArg Prod.snd (deleteSent_ofTable (fun row => row.status = .sent)
          InboxEvent.recency keepNewest bridge.inbox)
        simp only [Routine.filed, FiledRoutine.plan, Routine.plan, table_filed, calm]
        rw [FiledInbox.deleteSent, ids, List.map_map, List.map_map]
        rfl
    | ringEvictEvents maxRows =>
        have ids := ringEvictIds_ofTable InboxEvent.status InboxEvent.receivedAtIso
          [.sent, .received] (overflowRows bridge.inbox maxRows) bridge.inbox
        have rows : NullableTable.overflow (NullableTable.ofTable bridge.inbox) maxRows =
            overflowRows bridge.inbox maxRows := by
          simp only [NullableTable.overflow, overflowRows, NullableTable.ofTable,
            List.length_map]
        simp only [Routine.filed, FiledRoutine.plan, Routine.plan, table_filed, calm]
        rw [FiledInbox.ringEvictIds, rows, ids, List.map_map, List.map_map]
        rfl
    | _ => rfl
  next => rfl

theorem trace_filed (deps : BridgeDeps) (bridge : BridgeState) (step : BridgeStep) :
    step.filed.trace deps bridge.filed = (step.trace deps bridge).map .named := by
  cases step with
  | complete routine => exact performed_filed deps bridge routine
  | cut routine performed =>
      simp only [BridgeStep.filed, FiledStep.trace, BridgeStep.trace, performed_filed,
        List.map_append, List.map_take, List.map_cons, List.map_nil]

/-- From a state without `NULL` ids the runs of the bridge are the runs of this machine. -/
theorem filedRun_of_bridge (deps : BridgeDeps) (bridge : BridgeState)
    (steps : List BridgeStep) :
    (filedMachine deps).final bridge.filed (steps.map BridgeStep.filed) =
        ((bridgeMachine deps).final bridge steps).filed ∧
      (filedMachine deps).trace bridge.filed (steps.map BridgeStep.filed) =
        ((bridgeMachine deps).trace bridge steps).map .named := by
  induction steps generalizing bridge with
  | nil => exact ⟨rfl, rfl⟩
  | cons step steps ih =>
      have here := trace_filed deps bridge step
      have next : bridge.filed.replay (step.filed.trace deps bridge.filed) =
          (bridge.replay (step.trace deps bridge)).filed := by
        rw [here, replay_map_named]
      obtain ⟨ends, emits⟩ := ih (bridge.replay (step.trace deps bridge))
      constructor
      · rw [List.map_cons, Machine.final, Machine.final]
        exact (congrArg (fun state => (filedMachine deps).final state _) next).trans ends
      · have later : (filedMachine deps).trace
            (bridge.filed.replay (step.filed.trace deps bridge.filed))
              (steps.map BridgeStep.filed) =
                ((bridgeMachine deps).trace (bridge.replay (step.trace deps bridge)) steps).map
                  .named := by
          rw [next]
          exact emits
        rw [List.map_cons, Machine.trace, Machine.trace, List.map_append]
        exact congrArg₂ (· ++ ·) here later

end PresenceLogger.Bridge
