import PresenceLogger.Bridge.FiledRuns

/-!
# Acknowledged events are committed

The event sender takes a result without an ORA code for a commit.  An acknowledgement is
therefore sound in every run in which each MERGE that Oracle does not keep is answered with
an ORA code and is of a row that has an id.  A transport failure of the sidecar has no ORA
code, and the retry of a row whose id is `NULL` is written to no row.
-/

namespace PresenceLogger.Bridge

open Library

/-- The event a step declares to be in Oracle. -/
def Command.confirms : Command → Option String
  | .markSent eventId .. => some eventId
  | .publishAck ack => some ack.eventId
  | _ => none

/-- The event whose MERGE Oracle kept. -/
def Command.commits : Command → Option String
  | .merge attempt =>
      if attempt.path = .event ∧ attempt.reply.durable = true then some attempt.eventId else none
  | _ => none

/-- The id that a step declares to be in Oracle; the id itself may be `NULL`. -/
def FiledCommand.confirms (command : FiledCommand) : Option (Option String) :=
  command.row.confirms.map fun eventId => command.key fun _ => eventId

/-- The id of the event whose MERGE Oracle kept. -/
def FiledCommand.commits (command : FiledCommand) : Option (Option String) :=
  command.row.commits.map fun eventId => command.key fun _ => eventId

/-- A step of the event path asks Oracle to keep a row. -/
def Command.IsEventMerge : Command → Prop
  | .merge attempt => attempt.path = .event
  | _ => False

/-- A row is confirmed after a MERGE of it that Oracle has kept, and no other row's MERGE
comes in between; rows whose id is `NULL` are told apart by that alone. -/
abbrev ConfirmedIn (trace : List FiledCommand) : Prop :=
  Attributed (fun effect => FiledCommand.confirms effect ≠ none)
    (fun cause effect => FiledCommand.commits cause = FiledCommand.confirms effect)
    (fun other => other.row.IsEventMerge) trace

/-- What the event path promises of a run. -/
structure NoFalseAck (deps : BridgeDeps) (init : IngestState) (steps : List FiledStep) :
    Prop where
  /-- A row is marked and its ACK published only after its commit. -/
  confirmed : ConfirmedIn ((filedMachine deps).trace init steps)
  /-- A row that is `sent` was committed, unless it was `sent` from the start. -/
  sent : ∀ filed ∈ ((filedMachine deps).final init steps).table.rows, filed.row.status = .sent →
    (∃ cause ∈ (filedMachine deps).trace init steps,
      FiledCommand.commits cause = some (filed.key InboxEvent.eventId)) ∨
      ∃ old ∈ init.table.rows, old.key InboxEvent.eventId = filed.key InboxEvent.eventId ∧
        old.row.status = .sent
  /-- A MERGE without a commit leaves its row `received`, with a retry scheduled. -/
  retried : ∀ earlier call later command attempt,
    steps = earlier ++ .complete (.senderRunOnce call) :: later →
    command ∈ (FiledStep.complete (.senderRunOnce call)).trace deps
      ((filedMachine deps).final init earlier) →
    command.row = .merge attempt → attempt.reply.durable = false →
    ∃ row next lastError, row.eventId = attempt.eventId ∧
      command.like row ∈ ((filedMachine deps).final init earlier).table.rows ∧
      row.status = .received ∧
      nextRetryAt call.now (row.retryCount + 1) deps.sender.backoffPolicy = .ok next ∧
      command.like (row.withRetry (row.retryCount + 1) next.isoformat lastError) ∈
        ((filedMachine deps).final init
          (earlier ++ [.complete (.senderRunOnce call)])).table.rows

/-- The Oracle dependency of this call is the adapter on these back ends. -/
def FiledCall.ThroughAdapter (call : FiledCall)
    (backend : Nat → Profile → InboxEvent → BackendOutcome) : Prop :=
  ∀ place profile event,
    call.oracle place profile event =
      executeMergeForProfile profile (backend place profile event)

/-- Every MERGE of this call that Oracle does not keep is of a row with an id, it is
answered with an ORA code, and the delay before its next attempt can be computed. -/
def SenderDeps.NamesFailures (deps : SenderDeps) (state : IngestState) (call : FiledCall)
    (backend : Nat → Profile → InboxEvent → BackendOutcome) : Prop :=
  ∀ profileName profile filed place mkDate,
    deps.AttemptsFiled state call profileName profile (filed, place) mkDate →
    (backend place profile filed.row).durable profile = false →
    (filed.key InboxEvent.eventId).isSome ∧
      (backend place profile filed.row).CarriesCode profile ∧
      ∃ next, nextRetryAt call.now (filed.row.retryCount + 1) deps.backoffPolicy = .ok next

/-- The condition on one step of a run; only the event sender is restricted. -/
def NamesFailures (deps : BridgeDeps) (state : IngestState) (step : FiledStep) : Prop :=
  ∀ call, step.routine = .senderRunOnce call →
    ∃ backend, call.ThroughAdapter backend ∧ deps.sender.NamesFailures state call backend

/-! ## One step -/

theorem confirms_of_not_concernsEvents {command : Command}
    (elsewhere : command.concernsEvents = false) : command.confirms = none := by
  cases command <;> first | rfl | cases elsewhere

theorem confirms_eq_none {command : FiledCommand} (none : command.row.confirms = none) :
    FiledCommand.confirms command = Option.none := by
  rw [FiledCommand.confirms, none, Option.map_none]

theorem confirms_like {ρ : Type} (filed : Filed ρ) (command : Command) :
    FiledCommand.confirms (filed.like command) =
      command.confirms.map fun eventId => filed.key fun _ => eventId := by
  cases filed <;> rfl

/-- After the MERGE of a row nothing but this row is confirmed. -/
theorem confirms_of_mem_settle {deps : SenderDeps} {profileName mkDate : String} {now : Instant}
    {event : InboxEvent} {result : MergeResult} {command : Command}
    (member : command ∈ deps.settle profileName mkDate now event result) :
    command.confirms = none ∨ command.confirms = some event.eventId ∧ result.oraCode = none := by
  unfold SenderDeps.settle at member
  split at member
  next accepted =>
    simp only [List.mem_cons, List.not_mem_nil, or_false] at member
    rcases member with rfl | rfl | rfl
    · exact .inr ⟨rfl, accepted⟩
    · exact .inl rfl
    · exact .inr ⟨rfl, accepted⟩
  next =>
    rcases List.mem_cons.mp member with rfl | later
    · exact .inl rfl
    · split at later <;> (rw [List.mem_singleton.mp later]; exact .inl rfl)

/-- A row that is sent is confirmed only when its MERGE was kept. -/
theorem confirmedIn_sendOne {deps : SenderDeps} {profile : Profile}
    {profileName mkDate : String} {now : Instant} {filed : Filed InboxEvent}
    {reply : MergeReply} (named : reply.durable = false → reply.result.oraCode.isSome) :
    ConfirmedIn ((deps.sendOne profile profileName mkDate now filed.row reply).map
      filed.like) := by
  rw [SenderDeps.sendOne, List.map_cons]
  apply Attributed.of_attempt
  · rw [confirms_like]
    simp [Command.confirms]
  · intro effect member confirmed
    obtain ⟨command, settled, rfl⟩ := List.mem_map.mp member
    rw [confirms_like] at confirmed ⊢
    rcases confirms_of_mem_settle settled with none | ⟨own, accepted⟩
    · rw [none] at confirmed
      exact absurd rfl confirmed
    · have durable : reply.durable = true := by
        rw [← Bool.not_eq_false]
        intro lost
        have code := named lost
        rw [accepted] at code
        cases code
      rw [own, FiledCommand.commits, Filed.row_like]
      cases filed <;> simp [Command.commits, durable, Filed.key, Filed.like, Filed.row]
  · intro other member isMerge
    obtain ⟨command, settled, rfl⟩ := List.mem_map.mp member
    have follows := deps.followsMerge_of_mem_settle settled
    rw [Filed.row_like] at isMerge
    cases command <;> first | exact isMerge | cases follows

theorem confirmedIn_runFiled {deps : SenderDeps} {state : IngestState} {call : FiledCall}
    {backend : Nat → Profile → InboxEvent → BackendOutcome}
    (adapter : call.ThroughAdapter backend) (named : deps.NamesFailures state call backend) :
    ConfirmedIn (deps.runFiled state call) := by
  have opening {command : Command} (isOpening : command.IsOpening) :
      ¬FiledCommand.confirms (.named command) ≠ none := by
    rw [not_not]
    exact confirms_eq_none (confirms_of_not_concernsEvents isOpening.concernsEvents)
  by_cases admitted : ∃ profileName profile, (call.at 0).Admits state.bridge profileName profile
  · obtain ⟨profileName, profile, admits⟩ := admitted
    rw [deps.runFiled_of_admits admits]
    apply Attributed.append
    · apply Attributed.of_needless
      simp only [List.forall_mem_cons, List.not_mem_nil, false_imp_iff, implies_true, and_true]
      exact ⟨opening trivial, opening trivial, opening trivial⟩
    · apply Attributed.flatMap
      rintro ⟨filed, place⟩ reached
      unfold SenderDeps.sendFiled SenderDeps.sendRow
      split
      next => exact .of_needless (List.forall_mem_nil _)
      next mkDate dated =>
        apply confirmedIn_sendOne
        intro lost
        have through := adapter place profile filed.row
        simp only [FiledCall.at, through] at lost ⊢
        have attempts : deps.AttemptsFiled state call profileName profile (filed, place) mkDate :=
          ⟨⟨admits.send, admits.allowed, admits.configured⟩, reached, dated⟩
        exact (executeMergeForProfile_oraCode_isSome_iff profile _).mpr
          (named profileName profile filed place mkDate attempts lost).2.1
  · apply Attributed.of_needless
    intro command member
    rcases deps.mem_runFiled member with ⟨plain, isOpening, rfl⟩ |
      ⟨profileName, profile, item, mkDate, attempts, -⟩
    · exact opening isOpening
    · exact absurd ⟨profileName, profile, attempts.send, attempts.allowed, attempts.configured⟩
        admitted

/-- Only the sender confirms. -/
theorem confirms_of_mem_performed {deps : BridgeDeps} {state : IngestState}
    {routine : FiledRoutine} (apart : ∀ call, routine ≠ .senderRunOnce call)
    {command : FiledCommand} (member : command ∈ routine.performed deps state) :
    FiledCommand.confirms command = none := by
  unfold FiledRoutine.performed at member
  split at member
  next running =>
    cases routine with
    | senderRunOnce call => exact absurd rfl (apart call)
    | onEvent payload receivedAt =>
        obtain ⟨step, planned, rfl⟩ := List.mem_map.mp member
        apply confirms_eq_none
        rw [Filed.row_like]
        unfold BridgeState.onEvent at planned
        split at planned
        · exact absurd planned List.not_mem_nil
        · rw [List.mem_singleton.mp planned]
          rfl
        · rw [List.mem_singleton.mp planned]
          rfl
    | deleteSentEvents keepNewest | ringEvictEvents maxRows =>
        obtain ⟨eventId, -, rfl⟩ := List.mem_map.mp member
        cases eventId <;> rfl
    | elsewhere routine elsewhere =>
        obtain ⟨step, inPlan, rfl⟩ := List.mem_map.mp member
        apply confirms_eq_none
        cases concerns : step.concernsEvents with
        | false => exact confirms_of_not_concernsEvents concerns
        | true =>
            have performed : step ∈ routine.performed deps state.bridge := by
              rwa [Routine.performed, if_pos running]
            rcases Routine.of_concernsEvents performed concerns with
              ⟨call, rfl, -⟩ | ⟨payload, receivedAt, -, rfl⟩ | ⟨eventId, rfl, -⟩
            · cases elsewhere
            · rfl
            · rfl
  next => exact absurd member List.not_mem_nil

theorem confirmedIn_performed {deps : BridgeDeps} {state : IngestState} {step : FiledStep}
    (named : NamesFailures deps state step) :
    ConfirmedIn (step.routine.performed deps state) := by
  by_cases isSender : ∃ call, step.routine = .senderRunOnce call
  · obtain ⟨call, routine⟩ := isSender
    obtain ⟨backend, adapter, names⟩ := named call routine
    rw [routine, FiledRoutine.performed]
    split
    · exact confirmedIn_runFiled adapter names
    · exact .of_needless (List.forall_mem_nil _)
  · apply Attributed.of_needless
    intro command member
    rw [ne_eq, not_not]
    exact confirms_of_mem_performed (fun call routine => isSender ⟨call, routine⟩) member

theorem confirmedIn_trace {deps : BridgeDeps} {state : IngestState} {step : FiledStep}
    (named : NamesFailures deps state step) : ConfirmedIn (step.trace deps state) := by
  have performed := confirmedIn_performed named
  cases step with
  | complete routine => exact performed
  | cut routine length =>
      apply (performed.take length).append
      apply Attributed.of_needless
      simp [FiledCommand.confirms, Filed.row, Command.confirms]

/-! ## Where a `sent` row comes from -/

/-- A step turns a row `sent` only by `mark_sent`, or by inserting it so. -/
theorem exec_sent {bridge : BridgeState} {command : Command} {eventId : String}
    {row : InboxEvent} (found : (bridge.exec command).inbox.get eventId = some row)
    (sent : row.status = .sent) :
    (∃ old, bridge.inbox.get eventId = some old ∧ old.status = .sent) ∨
      command.confirms = some eventId ∨
      ∃ event, command = .insertEvent event ∧ event.status = .sent := by
  by_cases touched : command.touchedEvent = some eventId
  · cases command with
    | insertEvent event =>
        simp only [BridgeState.exec, Inbox.insertReceived, Table.get_insertOrIgnore] at found
        split at found
        · right
          right
          exact ⟨event, rfl, (Option.some.inj found) ▸ sent⟩
        · exact .inl ⟨row, found, sent⟩
    | markSent id mkDateCommitted profileAtSend sentAtIso => exact .inr (.inl touched)
    | updateRetry id retryCount nextRetryAtIso lastError =>
        simp only [BridgeState.exec, Inbox.get_updateRetry] at found
        split at found
        · obtain ⟨old, wasThere, rfl⟩ := Option.map_eq_some_iff.mp found
          exact .inl ⟨old, wasThere, sent⟩
        · exact .inl ⟨row, found, sent⟩
    | deleteEvent id =>
        simp only [BridgeState.exec, Table.get_delete] at found
        split at found
        · cases found
        · exact .inl ⟨row, found, sent⟩
    | _ => cases touched
  · rw [bridge.exec_inbox_get touched] at found
    exact .inl ⟨row, found, sent⟩

theorem replay_sent {bridge : BridgeState} {trace : List Command} {eventId : String}
    {row : InboxEvent} (found : (bridge.replay trace).inbox.get eventId = some row)
    (sent : row.status = .sent) :
    (∃ old, bridge.inbox.get eventId = some old ∧ old.status = .sent) ∨
      (∃ command ∈ trace, command.confirms = some eventId) ∨
      ∃ event, .insertEvent event ∈ trace ∧ event.status = .sent := by
  induction trace generalizing bridge with
  | nil => exact .inl ⟨row, found, sent⟩
  | cons command trace ih =>
      rcases ih found with ⟨old, wasThere, wasSent⟩ | ⟨other, member, confirms⟩ |
        ⟨event, member, isSent⟩
      · rcases exec_sent wasThere wasSent with before | confirms | ⟨event, rfl, isSent⟩
        · exact .inl before
        · exact .inr (.inl ⟨command, List.mem_cons_self, confirms⟩)
        · exact .inr (.inr ⟨event, List.mem_cons_self, isSent⟩)
      · exact .inr (.inl ⟨other, List.mem_cons_of_mem _ member, confirms⟩)
      · exact .inr (.inr ⟨event, List.mem_cons_of_mem _ member, isSent⟩)

/-- No step inserts a row that is already `sent`. -/
theorem status_of_insert_performed {deps : BridgeDeps} {state : IngestState}
    {routine : FiledRoutine} {command : FiledCommand} {event : InboxEvent}
    (member : command ∈ routine.performed deps state)
    (inserts : command.row = .insertEvent event) : event.status = .received := by
  unfold FiledRoutine.performed at member
  split at member
  next running =>
    cases routine with
    | senderRunOnce call =>
        rcases deps.sender.mem_runFiled member with ⟨opening, isOpening, rfl⟩ |
          ⟨profileName, profile, item, mkDate, -, step, inRow, rfl⟩
        · rw [Filed.row_named] at inserts
          subst inserts
          exact absurd isOpening id
        · rw [Filed.row_like] at inserts
          subst inserts
          rcases List.mem_cons.mp inRow with merge | settled
          · cases merge
          · cases deps.sender.followsMerge_of_mem_settle settled
    | onEvent payload receivedAt =>
        obtain ⟨step, planned, rfl⟩ := List.mem_map.mp member
        rw [Filed.row_like] at inserts
        subst inserts
        unfold BridgeState.onEvent at planned
        split at planned
        · exact absurd planned List.not_mem_nil
        · rw [Command.insertEvent.inj (List.mem_singleton.mp planned)]
          rfl
        · rw [Command.insertEvent.inj (List.mem_singleton.mp planned)]
          rfl
    | deleteSentEvents keepNewest | ringEvictEvents maxRows =>
        obtain ⟨eventId, -, rfl⟩ := List.mem_map.mp member
        cases eventId <;> cases inserts
    | elsewhere routine elsewhere =>
        obtain ⟨step, inPlan, rfl⟩ := List.mem_map.mp member
        rw [Filed.row_named] at inserts
        subst inserts
        have performed : .insertEvent event ∈ routine.performed deps state.bridge := by
          rwa [Routine.performed, if_pos running]
        obtain ⟨payload, receivedAt, -, rfl⟩ := Routine.of_insertEvent performed
        rfl
  next => exact absurd member List.not_mem_nil

theorem status_of_insert {deps : BridgeDeps} {init : IngestState} {steps : List FiledStep}
    {command : FiledCommand} {event : InboxEvent}
    (member : command ∈ (filedMachine deps).trace init steps)
    (inserts : command.row = .insertEvent event) : event.status = .received := by
  obtain ⟨earlier, step, later, -, emitted⟩ := (filedMachine deps).mem_trace.mp member
  cases step with
  | complete routine => exact status_of_insert_performed emitted inserts
  | cut routine length =>
      rcases List.mem_append.mp emitted with inPart | last
      · exact status_of_insert_performed (List.mem_of_mem_take inPart) inserts
      · rw [List.mem_singleton.mp last] at inserts
        cases inserts

/-! ## Whole runs -/

theorem confirmedIn_run {deps : BridgeDeps} {init : IngestState} {steps : List FiledStep}
    (named : (filedMachine deps).Meets (NamesFailures deps) init steps) :
    ConfirmedIn ((filedMachine deps).trace init steps) := by
  induction steps generalizing init with
  | nil => exact .of_needless (List.forall_mem_nil _)
  | cons step steps ih => exact (confirmedIn_trace named.1).append (ih named.2)

/-- Only the steps for rows with an id reach the rows with an id. -/
theorem named_of_effective {command : FiledCommand} {step : Command}
    (effective : FiledCommand.effective command = some step)
    (concerns : step.concernsEvents = true) : command = .named step := by
  cases command with
  | named command => exact congrArg Filed.named (Option.some.inj effective)
  | unnamed command =>
      simp only [FiledCommand.effective] at effective
      split at effective
      · cases effective
      next quiet =>
        obtain rfl := Option.some.inj effective
        exact absurd concerns quiet

/-- A row with an id that is `sent` was committed. -/
theorem named_sent {deps : BridgeDeps} {init : IngestState} {steps : List FiledStep}
    (named : (filedMachine deps).Meets (NamesFailures deps) init steps) {row : InboxEvent}
    (member : row ∈ ((filedMachine deps).final init steps).bridge.inbox.rows)
    (isSent : row.status = .sent) :
    (∃ cause ∈ (filedMachine deps).trace init steps,
      FiledCommand.commits cause = some (some row.eventId)) ∨
      ∃ old ∈ init.bridge.inbox.rows, old.eventId = row.eventId ∧ old.status = .sent := by
  have found := Table.get_of_mem member
  rw [filedFinal_eq_replay, IngestState.bridge_replay] at found
  rcases replay_sent found isSent with ⟨old, wasThere, wasSent⟩ | ⟨effect, reached, confirms⟩ |
    ⟨event, reached, wasSent⟩
  · exact .inr ⟨old, Table.mem_of_get wasThere, Table.key_of_get wasThere, wasSent⟩
  · obtain ⟨command, emitted, effective⟩ := List.mem_filterMap.mp reached
    have concerns : effect.concernsEvents = true := by
      by_contra elsewhere
      rw [confirms_of_not_concernsEvents (Bool.eq_false_iff.mpr elsewhere)] at confirms
      cases confirms
    obtain rfl := named_of_effective effective concerns
    obtain ⟨before, after, split⟩ := List.append_of_mem emitted
    have own : FiledCommand.confirms (.named effect) = some (some row.eventId) :=
      congrArg (Option.map _) confirms
    have confirmed : FiledCommand.confirms (.named effect) ≠ none :=
      fun none => Option.some_ne_none _ (own.symm.trans none)
    obtain ⟨earlier, cause, between, rfl, commits, -⟩ :=
      confirmedIn_run named before _ after split confirmed
    refine .inl ⟨cause, ?_, commits.trans own⟩
    rw [split]
    exact List.mem_append_left _ (List.mem_append_right _ List.mem_cons_self)
  · obtain ⟨command, emitted, effective⟩ := List.mem_filterMap.mp reached
    obtain rfl := named_of_effective effective rfl
    rw [status_of_insert emitted rfl] at wasSent
    cases wasSent

/-- An uncommitted MERGE of a call leaves a scheduled retry. -/
theorem retried_runFiled {deps : SenderDeps} {state : IngestState} {call : FiledCall}
    {backend : Nat → Profile → InboxEvent → BackendOutcome}
    (adapter : call.ThroughAdapter backend) (named : deps.NamesFailures state call backend)
    {command : FiledCommand} {attempt : MergeAttempt}
    (member : command ∈ deps.runFiled state call) (isMerge : command.row = .merge attempt)
    (lost : attempt.reply.durable = false) :
    ∃ row next lastError, row.eventId = attempt.eventId ∧
      command.like row ∈ state.table.rows ∧ row.status = .received ∧
      nextRetryAt call.now (row.retryCount + 1) deps.backoffPolicy = .ok next ∧
      command.like (row.withRetry (row.retryCount + 1) next.isoformat lastError) ∈
        (state.replay (deps.runFiled state call)).table.rows := by
  rcases deps.mem_runFiled member with ⟨opening, isOpening, rfl⟩ |
    ⟨profileName, profile, ⟨filed, place⟩, mkDate, attempts, step, inRow, rfl⟩
  · rw [Filed.row_named] at isMerge
    subst isMerge
    exact absurd isOpening id
  · rw [Filed.row_like] at isMerge
    subst isMerge
    rcases List.mem_cons.mp inRow with same | settled
    · obtain rfl := Command.merge.inj same
      have through := adapter place profile filed.row
      simp only [through] at lost
      obtain ⟨hasId, carries, next, delay⟩ :=
        named profileName profile filed place mkDate attempts lost
      cases filed with
      | unnamed row => cases hasId
      | named row =>
          obtain ⟨code, answered⟩ := Option.isSome_iff_exists.mp
            ((executeMergeForProfile_oraCode_isSome_iff profile _).mpr carries)
          have settled := deps.get_runFiled_of_attempts attempts
          rw [Filed.row_named] at answered through delay
          rw [through] at settled
          simp only [SenderDeps.settledRow, answered, delay] at settled
          have isDue := IngestState.mem_due.mp attempts.due
          have received : row.status = .received := by
            have guard := isDue.2
            rw [Inbox.isDue, decide_eq_true_eq] at guard
            exact guard.1
          exact ⟨row, next, _, rfl, isDue.1, received, delay,
            IngestState.named_mem_table.mpr (Table.mem_of_get settled)⟩
    · exact absurd (deps.followsMerge_of_mem_settle settled) (by simp [Command.followsMerge])

/-- In every run in which each MERGE without a commit is of a row with an id and answered
with an ORA code, an event is marked `sent` and acknowledged only after its commit, and
every other outcome schedules a retry. -/
theorem noFalseAck_of_namesFailures (deps : BridgeDeps) (init : IngestState)
    (steps : List FiledStep)
    (named : (filedMachine deps).Meets (NamesFailures deps) init steps) :
    NoFalseAck deps init steps where
  confirmed := confirmedIn_run named
  sent filed member isSent := by
    cases filed with
    | named row =>
        rcases named_sent named (IngestState.named_mem_table.mp member) isSent with
          committed | ⟨old, wasThere, sameId, wasSent⟩
        · exact .inl committed
        · exact .inr ⟨.named old, IngestState.named_mem_table.mpr wasThere,
            congrArg some sameId, wasSent⟩
    | unnamed row =>
        have final := IngestState.unnamed_mem_table.mp member
        rw [filedFinal_eq_replay] at final
        rcases IngestState.mem_unnamed_replay final with before | inserted
        · exact .inr ⟨.unnamed row, IngestState.unnamed_mem_table.mpr before, rfl, isSent⟩
        · have received := status_of_insert inserted rfl
          cases isSent.symm.trans received
  retried earlier call later command attempt split member isMerge lost := by
    subst split
    obtain ⟨backend, adapter, names⟩ := (filedMachine deps).meets_at named call rfl
    have performed : FiledRoutine.performed deps ((filedMachine deps).final init earlier)
        (.senderRunOnce call) =
          deps.sender.runFiled ((filedMachine deps).final init earlier) call := by
      refine if_pos ?_
      by_contra stopped
      rw [FiledStep.trace, FiledRoutine.performed, if_neg stopped] at member
      exact absurd member List.not_mem_nil
    rw [FiledStep.trace, performed] at member
    have final : (filedMachine deps).final init
        (earlier ++ [.complete (.senderRunOnce call)]) =
          ((filedMachine deps).final init earlier).replay
            (deps.sender.runFiled ((filedMachine deps).final init earlier) call) := by
      rw [Machine.final_append, ← performed]
      rfl
    rw [final]
    exact retried_runFiled adapter names member isMerge lost

/-! ## The condition is needed, and can be met -/

namespace Site

/-- The sidecar gives no answer in time, and Oracle has not kept the row. -/
def timedOut : BackendOutcome where
  connection := .connected (.committed 1)
  http := .unreachable "timed out" false

/-- A row is locked, which Oracle answers with a code. -/
def lockConflict : BackendOutcome := answered (.sqlException 0 54 (some "ORA-00054") false)

/-- A call of the event sender whose MERGEs all end in this way. -/
def filedCall (seconds : Int) (backend : BackendOutcome) : FiledCall where
  now := time seconds
  nmcli := nmcli
  oracle _ profile _ := executeMergeForProfile profile backend

/-- One event that came with `"event_id": null`. -/
def oneUnnamed : IngestState where
  bridge := bridge [] []
  unnamed := [(event "").toRow (some "HIME-H-REAP") (time 0)]

end Site

/-- A timeout of the sidecar is acknowledged as if it were a commit. -/
theorem not_noFalseAck_of_timeout :
    ¬NoFalseAck Site.deps Site.oneEvent.filed
      [.complete (.senderRunOnce (Site.filedCall 10 Site.timedOut))] := by
  intro promise
  let row : InboxEvent := ((Site.event "e1").toRow (some "HIME-H-REAP") (Site.time 0)).asSent
    "20260925120000" "HIME-H-REAP" (Site.time 10).isoformat
  have kept : .named row ∈ ((filedMachine Site.deps).final Site.oneEvent.filed
      [.complete (.senderRunOnce (Site.filedCall 10 Site.timedOut))]).table.rows := by
    decide +kernel
  rcases promise.sent _ kept rfl with ⟨cause, member, commits⟩ | ⟨old, member, -, sent⟩
  · have none : ∀ cause ∈ (filedMachine Site.deps).trace Site.oneEvent.filed
        [.complete (.senderRunOnce (Site.filedCall 10 Site.timedOut))],
        FiledCommand.commits cause = none := by
      decide +kernel
    rw [none cause member] at commits
    cases commits
  · have waiting : ∀ old ∈ Site.oneEvent.filed.table.rows, old.row.status = .received := by
      decide +kernel
    rw [waiting old member] at sent
    cases sent

/-- Without an id, not even a MERGE that is answered with an ORA code is retried. -/
theorem not_noFalseAck_of_unnamed :
    ¬NoFalseAck Site.deps Site.oneUnnamed
      [.complete (.senderRunOnce (Site.filedCall 10 Site.lockConflict))] := by
  intro promise
  let step : FiledStep := .complete (.senderRunOnce (Site.filedCall 10 Site.lockConflict))
  have tried : ∃ attempt ∈ merges ((step.trace Site.deps Site.oneUnnamed).map Filed.row),
      .unnamed (.merge attempt) ∈ step.trace Site.deps Site.oneUnnamed ∧
        attempt.reply.durable = false := by
    decide +kernel
  obtain ⟨attempt, -, member, lost⟩ := tried
  obtain ⟨row, next, lastError, -, -, -, -, scheduled⟩ :=
    promise.retried [] _ [] _ attempt rfl member rfl lost
  have unchanged : ∀ filed ∈ ((filedMachine Site.deps).final Site.oneUnnamed [step]).table.rows,
      filed.row.nextRetryAtIso = none := by
    decide +kernel
  cases unchanged _ scheduled

/-- A lock conflict, answered with its ORA code, and then a commit. -/
theorem noFalseAck_after_lock_conflict :
    NoFalseAck Site.deps Site.oneEvent.filed
      [.complete (.senderRunOnce (Site.filedCall 10 Site.lockConflict)),
       .complete (.senderRunOnce (Site.filedCall 20 (Site.answered (.committed 1))))] := by
  apply noFalseAck_of_namesFailures
  refine ⟨?_, ?_, trivial⟩
  · intro call same
    obtain rfl := FiledRoutine.senderRunOnce.inj same
    refine ⟨fun _ _ _ => _, fun _ _ _ => rfl, ?_⟩
    intro profileName profile filed place mkDate attempts lost
    have fresh : ∀ filed ∈ Site.oneEvent.filed.table.rows,
        filed.row.retryCount = 0 ∧ (filed.key InboxEvent.eventId).isSome := by
      decide +kernel
    obtain ⟨first, hasId⟩ := fresh filed (IngestState.mem_due.mp attempts.due).1
    rw [first]
    obtain rfl := Site.get_eq_profile attempts.configured
    have named : (parseKvBody (mergeResponse
        (.sqlException 0 54 (some "ORA-00054") false))).oraCode.isSome = true := by
      decide +kernel
    exact ⟨hasId, named, Site.time 15, by decide +kernel⟩
  · intro call same
    obtain rfl := FiledRoutine.senderRunOnce.inj same
    refine ⟨fun _ _ _ => _, fun _ _ _ => rfl, ?_⟩
    intro profileName profile filed place mkDate _ lost
    unfold BackendOutcome.durable at lost
    split at lost <;> cases lost

end PresenceLogger.Bridge
