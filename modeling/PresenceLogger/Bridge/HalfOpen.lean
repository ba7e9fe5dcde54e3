import Mathlib.Data.List.Infix
import PresenceLogger.Bridge.BreakerRuns

/-!
# Probing a half-open circuit

A half-open entry stays half-open until a MERGE for its profile is answered.  A
success closes it and a permanent error re-opens it, but any other answer leaves
it half-open, and the batch goes on.
-/

namespace PresenceLogger.Bridge

open Library

/-- The steps that decide about a profile's circuit; a restart resets it. -/
def Command.decidesFor (profileName : String) : Command → Prop
  | .recordSuccess name => name = profileName
  | .recordFailure name _ _ => name = profileName
  | .restart => True
  | _ => False

/-- The profile a MERGE is made for. -/
def Command.mergesFor : Command → Option String
  | .merge attempt => some attempt.profileName
  | _ => none

def BridgeState.circuit (bridge : BridgeState) (profileName : String) : CircuitState :=
  (bridge.breaker.entry profileName).state

/-- The result reports no error. -/
def MergeResult.isSuccess (result : MergeResult) : Prop :=
  result.oraCode = none ∧ (result.errorMessage = none ∨ result.errorMessage = some "")

instance (result : MergeResult) : Decidable result.isSuccess :=
  inferInstanceAs (Decidable (_ ∧ _))

/-- A successful probe closes the circuit, and a failed one opens it from that
moment on. -/
structure MergeAttempt.Decided (attempt : MergeAttempt) (entry : ProfileEntry) : Prop where
  success : attempt.reply.result.isSuccess → entry.state = .closed
  failure : ¬attempt.reply.result.isSuccess →
    entry.state = .open ∧ entry.openedAt = some attempt.now

/-- A MERGE made while its circuit is half-open decides about it before another
MERGE is made. -/
def Decides (init : BridgeState) (trace : List Command) : Prop :=
  ∀ before attempt after, trace = before ++ .merge attempt :: after →
    (init.replay before).circuit attempt.profileName = .halfOpen →
    ∃ settling rest, after = settling ++ rest ∧ (∀ other, .merge other ∉ settling) ∧
      attempt.Decided ((init.replay (before ++ .merge attempt :: settling)).breaker.entry
        attempt.profileName)

/-- From the query that finds a circuit half-open, it stays so until a MERGE is
made for its profile. -/
def Waits (init : BridgeState) (trace : List Command) : Prop :=
  ∀ before profileName now mid after,
    trace = before ++ .queryBreaker profileName now :: (mid ++ after) →
    (init.replay (before ++ [.queryBreaker profileName now])).circuit profileName = .halfOpen →
    (∀ command ∈ mid, command.mergesFor ≠ some profileName) →
    (init.replay (before ++ .queryBreaker profileName now :: mid)).circuit profileName = .halfOpen

/-- Half-open admits one probe. -/
structure OneProbe (deps : BridgeDeps) (init : BridgeState) (steps : List BridgeStep) :
    Prop where
  waits : Waits init ((bridgeMachine deps).trace init steps)
  decides : Decides init ((bridgeMachine deps).trace init steps)

/-- In each call that finds the circuit half-open, the first row sent is
answered with a success or with a permanent error that its sender reports. -/
structure ProbeAnswered (deps : BridgeDeps) (bridge : BridgeState) (step : BridgeStep) :
    Prop where
  event : ∀ call profileName profile, step.routine = .senderRunOnce call →
    bridge.running = true → call.Admits bridge profileName profile →
    (bridge.breaker.stateFor profileName (some call.now)).2 = .halfOpen →
    ∀ event ∈ ((deps.sender.visited bridge call profileName profile).filter fun event =>
        (resolveMkDate bridge.timeWatcher.baseline event).isSome).head?,
      (call.oracle profile event).result.isSuccess ∨
        isPermanentError (call.oracle profile event).result.oraCode
          bridge.breaker.permanentCodes = true
  record : ∀ call profileName profile, step.routine = .recordRunOnce call →
    bridge.running = true → call.Admits bridge profileName profile →
    (bridge.breaker.stateFor profileName (some call.now)).2 = .halfOpen →
    ∀ rec ∈ (deps.recordSender.visited bridge call profileName profile).head?,
      deps.recordSender.verdict (call.oracle profile rec).result = .committed ∨
        (deps.recordSender.verdict (call.oracle profile rec).result = .retry ∧
          isPermanentError (call.oracle profile rec).result.oraCode
            bridge.breaker.permanentCodes = true)

/-! ## Deciding about a circuit -/

/-- The answer decides about the circuit it is reported to. -/
def BridgeDeps.decides (deps : BridgeDeps) (breaker : CircuitBreaker) (attempt : MergeAttempt) :
    Prop :=
  (attempt.reply.result.isSuccess ∧ deps.report attempt = .success) ∨
    deps.opens breaker attempt = true

/-- A sender reports the code it was given. -/
theorem oraCode_of_report {deps : BridgeDeps} {attempt : MergeAttempt} {oraCode : Option Int}
    (report : deps.report attempt = .failure oraCode) :
    oraCode = attempt.reply.result.oraCode := by
  rw [BridgeDeps.report] at report
  split at report
  · split at report
    · cases report
    next code found =>
      rw [found]
      exact (BreakerReport.failure.inj report).symm
  · split at report
    · cases report
    · cases report
    · exact (BreakerReport.failure.inj report).symm

/-- A permanent error is an error. -/
theorem report_of_opens {deps : BridgeDeps} {breaker : CircuitBreaker}
    {attempt : MergeAttempt} (opens : deps.opens breaker attempt = true) :
    deps.report attempt = .failure attempt.reply.result.oraCode ∧
      ¬attempt.reply.result.isSuccess := by
  rw [BridgeDeps.opens] at opens
  cases report : deps.report attempt with
  | success =>
      rw [report] at opens
      cases opens
  | nothing =>
      rw [report] at opens
      cases opens
  | failure oraCode =>
      rw [report] at opens
      rw [oraCode_of_report report] at opens ⊢
      refine ⟨rfl, ?_⟩
      intro success
      rw [success.1] at opens
      cases opens

theorem decided_told {deps : BridgeDeps} {breaker : CircuitBreaker} {attempt : MergeAttempt}
    (decides : deps.decides breaker attempt) :
    attempt.Decided ((breaker.told attempt.profileName attempt.now (deps.report attempt)).entry
      attempt.profileName) := by
  rcases decides with ⟨success, report⟩ | opens
  · rw [report]
    constructor
    · intro _
      exact breaker.recordSuccess_state attempt.profileName
    · intro failed
      exact absurd success failed
  · rcases report_of_opens opens with ⟨report, failed⟩
    rw [BridgeDeps.opens, report] at opens
    rw [report, CircuitBreaker.told, CircuitBreaker.recordFailure_of_permanent opens]
    constructor
    · intro success
      exact absurd success failed
    · intro _
      exact ⟨rfl, rfl⟩

/-- No report makes an entry half-open. -/
theorem told_halfOpen {breaker : CircuitBreaker} {profileName : String} {now : Instant}
    {report : BreakerReport}
    (halfOpen : ((breaker.told profileName now report).entry profileName).state = .halfOpen) :
    (breaker.entry profileName).state = .halfOpen := by
  cases report with
  | success =>
      rw [CircuitBreaker.told, CircuitBreaker.recordSuccess_state] at halfOpen
      cases halfOpen
  | failure oraCode =>
      cases permanent : isPermanentError oraCode breaker.permanentCodes with
      | true =>
          rw [CircuitBreaker.told, CircuitBreaker.recordFailure_of_permanent permanent] at halfOpen
          cases halfOpen
      | false =>
          rwa [CircuitBreaker.told,
            CircuitBreaker.recordFailure_of_not_permanent permanent] at halfOpen
  | nothing => exact halfOpen

theorem MergeAttempt.Decided.not_halfOpen {attempt : MergeAttempt} {entry : ProfileEntry}
    (decided : attempt.Decided entry) : entry.state ≠ .halfOpen := by
  by_cases success : attempt.reply.result.isSuccess
  · rw [decided.success success]
    decide
  · rw [(decided.failure success).1]
    decide

/-! ## The shape of a call -/

/-- What a sender does with one row: a MERGE, and then one report at most. -/
structure Settles (deps : BridgeDeps) (attempt : MergeAttempt) (settling : List Command) :
    Prop where
  follows : ∀ command ∈ settling, command.followsMerge = true
  reports : ∀ command ∈ settling, ∀ profileName, command.decidesFor profileName →
    attempt.profileName = profileName
  breaker : ∀ bridge : BridgeState, (bridge.replay settling).breaker =
    bridge.breaker.told attempt.profileName attempt.now (deps.report attempt)

/-- A batch of rows for one profile. -/
inductive Batch (deps : BridgeDeps) (profileName : String) : List MergeAttempt →
    List Command → Prop where
  | nil : Batch deps profileName [] []
  | cons (attempt : MergeAttempt) (settling : List Command) (attempts : List MergeAttempt)
      (rest : List Command) (name : attempt.profileName = profileName)
      (settles : Settles deps attempt settling) (batch : Batch deps profileName attempts rest) :
      Batch deps profileName (attempt :: attempts) (.merge attempt :: settling ++ rest)

/-- A step that neither sends nor uses the breaker. -/
def Command.isIdle (command : Command) : Prop :=
  command.mergesFor = none ∧ ∀ profileName, ¬command.touchesBreaker profileName

/-- A routine's steps: at most one query, and after it at most one batch. -/
inductive CallShape (deps : BridgeDeps) (bridge : BridgeState) : List Command → Prop where
  | idle (trace : List Command) (quiet : ∀ command ∈ trace, command.isIdle) :
      CallShape deps bridge trace
  | batch (opening : List Command) (profileName : String) (now : Instant)
      (attempts : List MergeAttempt) (rest tail : List Command)
      (quiet : ∀ command ∈ opening ++ tail, command.isIdle)
      (probe : (bridge.breaker.stateFor profileName (some now)).2 = .halfOpen →
        ∀ attempt ∈ attempts.head?, deps.decides bridge.breaker attempt)
      (sends : Batch deps profileName attempts rest) :
      CallShape deps bridge (opening ++ .queryBreaker profileName now :: (rest ++ tail))

theorem settles_sender (deps : BridgeDeps) (profile : Profile) (profileName mkDate : String)
    (call : SenderCall) (event : InboxEvent) :
    Settles deps (deps.sender.attempt profile profileName mkDate call event)
      (deps.sender.settle profileName mkDate call.now event
        (call.oracle profile event).result) where
  follows command member := deps.sender.followsMerge_of_mem_settle member
  reports command member other decides := by
    simp only [SenderDeps.settle] at member
    split at member
    · simp only [List.mem_cons, List.not_mem_nil, or_false] at member
      rcases member with rfl | rfl | rfl
      · cases decides
      · exact decides
      · cases decides
    · rcases List.mem_cons.mp member with rfl | later
      · exact decides
      · split at later <;> (rw [List.mem_singleton.mp later] at decides; cases decides)
  breaker bridge := breaker_replay_sendOne bridge profile profileName mkDate call event

theorem settles_recordSender (deps : BridgeDeps) (profile : Profile) (profileName : String)
    (call : RecordSenderCall) (rec : RecordInboxEvent) :
    Settles deps (RecordSenderDeps.attempt profile profileName call rec)
      (deps.recordSender.settle profileName call.now rec (call.oracle profile rec).result) where
  follows command member := (deps.recordSender.mem_settle member).1
  reports command member other decides := by
    simp only [RecordSenderDeps.settle] at member
    split at member
    · simp only [List.mem_cons, List.mem_map] at member
      rcases member with rfl | rfl | ⟨topic, -, rfl⟩
      · cases decides
      · exact decides
      · cases decides
    · simp only [List.mem_cons, List.mem_map] at member
      rcases member with rfl | ⟨topic, -, rfl⟩
      · cases decides
      · cases decides
    · rcases List.mem_cons.mp member with rfl | later
      · exact decides
      · split at later <;> (rw [List.mem_singleton.mp later] at decides; cases decides)
  breaker bridge := breaker_replay_sendOne_record bridge profile profileName call rec

theorem batch_sender (deps : BridgeDeps) (baseline : Option SyncBaseline) (profile : Profile)
    (profileName : String) (call : SenderCall) (events : List InboxEvent) :
    Batch deps profileName
      (events.filterMap fun event => (resolveMkDate baseline event).map fun mkDate =>
        deps.sender.attempt profile profileName mkDate call event)
      (events.flatMap (deps.sender.sendRow baseline profile profileName call)) := by
  induction events with
  | nil => exact .nil
  | cons event events ih =>
      rw [List.filterMap_cons, List.flatMap_cons]
      cases dated : resolveMkDate baseline event with
      | none => simpa only [SenderDeps.sendRow, dated, List.nil_append, Option.map_none] using ih
      | some mkDate =>
          simp only [SenderDeps.sendRow, dated, Option.map_some]
          exact .cons _ _ _ _ rfl (settles_sender deps profile profileName mkDate call event) ih

theorem batch_recordSender (deps : BridgeDeps) (profile : Profile) (profileName : String)
    (call : RecordSenderCall) (recs : List RecordInboxEvent) :
    Batch deps profileName (recs.map (RecordSenderDeps.attempt profile profileName call))
      (recs.flatMap fun rec =>
        deps.recordSender.sendOne profileName call.now rec (call.oracle profile rec)) := by
  induction recs with
  | nil => exact .nil
  | cons rec recs ih =>
      rw [List.map_cons, List.flatMap_cons]
      exact .cons _ _ _ _ rfl (settles_recordSender deps profile profileName call rec) ih

/-- The first item that a filtered map keeps is the image of the first item its
filter keeps. -/
theorem head_filterMap {α β : Type*} (image : α → Option β) (items : List α) :
    (items.filterMap image).head? =
      (items.filter fun item => (image item).isSome).head?.bind image := by
  induction items with
  | nil => rfl
  | cons item items ih =>
      cases kept : image item with
      | none => simp [kept, ih]
      | some value => simp [kept]

/-- A result that the record sender takes for a commit reports no error. -/
theorem isSuccess_of_committed {deps : RecordSenderDeps} {result : MergeResult}
    (committed : deps.verdict result = .committed) : result.isSuccess := by
  rw [RecordSenderDeps.verdict] at committed
  split at committed
  next noCode noMessage => exact ⟨noCode, .inl noMessage⟩
  next => cases committed
  next =>
    split at committed
    · cases committed
    · cases committed

theorem callShape_sender (deps : BridgeDeps) {bridge : BridgeState} (call : SenderCall)
    (running : bridge.running = true)
    (answered : ProbeAnswered deps bridge (.complete (.senderRunOnce call))) :
    CallShape deps bridge (upToRaise (deps.sender.runOnce bridge call)) := by
  have idleOpening : ∀ command ∈ [Command.getCurrentSsid call.nmcli, .resolveSsid],
      command.isIdle := by
    simp [Command.isIdle, Command.mergesFor, Command.touchesBreaker]
  by_cases admitted : ∃ profileName profile, call.Admits bridge profileName profile
  · rcases admitted with ⟨profileName, profile, admits⟩
    have sends := batch_sender deps bridge.timeWatcher.baseline profile profileName call
      (deps.sender.visited bridge call profileName profile)
    rw [deps.sender.upToRaise_runOnce admits]
    rw [← List.append_nil (List.flatMap _ _)]
    apply CallShape.batch [.getCurrentSsid call.nmcli, .resolveSsid] profileName call.now
      _ _ [] (by simpa using idleOpening) _ sends
    intro halfOpen attempt first
    rw [head_filterMap] at first
    rcases Option.bind_eq_some_iff.mp first with ⟨event, firstRow, made⟩
    simp only [Option.isSome_map] at firstRow
    rcases Option.map_eq_some_iff.mp made with ⟨mkDate, -, rfl⟩
    rcases answered.event call profileName profile rfl running admits halfOpen event firstRow
      with success | permanent
    · left
      refine ⟨success, ?_⟩
      simp only [BridgeDeps.report, SenderDeps.attempt, success.1]
    · right
      rwa [opens_attempt]
  · have refused : ∀ profileName profile, ¬call.Admits bridge profileName profile := by
      intro profileName profile admits
      exact admitted ⟨profileName, profile, admits⟩
    rcases deps.sender.upToRaise_runOnce_refused refused with
      early | ⟨profileName, rest, late, tail⟩
    · rw [early]
      exact .idle _ idleOpening
    · rw [late]
      apply CallShape.batch [.getCurrentSsid call.nmcli, .resolveSsid] profileName call.now
        [] [] rest _ (by simp) .nil
      rcases tail with rfl | rfl
      · simpa using idleOpening
      · simp [Command.isIdle, Command.mergesFor, Command.touchesBreaker]

theorem callShape_recordSender (deps : BridgeDeps) {bridge : BridgeState}
    (call : RecordSenderCall) (running : bridge.running = true)
    (answered : ProbeAnswered deps bridge (.complete (.recordRunOnce call))) :
    CallShape deps bridge (upToRaise (deps.recordSender.runOnce bridge call)) := by
  by_cases admitted : ∃ profileName profile, call.Admits bridge profileName profile
  · rcases admitted with ⟨profileName, profile, admits⟩
    have sends := batch_recordSender deps profile profileName call
      (deps.recordSender.visited bridge call profileName profile)
    rw [deps.recordSender.upToRaise_runOnce admits]
    rw [← List.append_nil (List.flatMap _ _)]
    apply CallShape.batch [] profileName call.now _ _ [] (by simp) _ sends
    intro halfOpen attempt first
    rw [List.head?_map] at first
    rcases Option.map_eq_some_iff.mp first with ⟨rec, firstRow, rfl⟩
    rcases answered.record call profileName profile rfl running admits halfOpen rec firstRow
      with committed | ⟨retry, permanent⟩
    · left
      constructor
      · exact isSuccess_of_committed committed
      · simp only [BridgeDeps.report, RecordSenderDeps.attempt, committed]
    · right
      simp only [BridgeDeps.opens, BridgeDeps.report, RecordSenderDeps.attempt, retry]
      exact permanent
  · have refused : ∀ profileName profile, ¬call.Admits bridge profileName profile := by
      intro profileName profile admits
      exact admitted ⟨profileName, profile, admits⟩
    rcases deps.recordSender.upToRaise_runOnce_refused refused with
      early | ⟨profileName, rest, late, tail⟩
    · rw [early]
      apply CallShape.idle
      intro command member
      exact absurd member List.not_mem_nil
    · rw [late]
      apply CallShape.batch [] profileName call.now [] [] rest _ (by simp) .nil
      rcases tail with rfl | rfl
      · simp
      · simp [Command.isIdle, Command.mergesFor, Command.touchesBreaker]

theorem callShape_performed (deps : BridgeDeps) {bridge : BridgeState} {routine : Routine}
    (answered : ProbeAnswered deps bridge (.complete routine)) :
    CallShape deps bridge (routine.performed deps bridge) := by
  by_cases running : bridge.running = true
  · cases routine with
    | senderRunOnce call =>
        rw [Routine.performed, if_pos running]
        exact callShape_sender deps call running answered
    | recordRunOnce call =>
        rw [Routine.performed, if_pos running]
        exact callShape_recordSender deps call running answered
    | _ =>
        apply CallShape.idle
        intro command member
        have quiet := Routine.quiet_steps rfl (Routine.mem_plan_of_mem_performed member)
        refine ⟨?_, quiet.2⟩
        cases command with
        | merge attempt => exact absurd rfl (quiet.1 attempt)
        | _ => rfl
  · rw [Routine.performed, if_neg running]
    apply CallShape.idle
    intro command member
    exact absurd member List.not_mem_nil

/-! ## Nothing decides before a MERGE -/

/-- Every decision has a MERGE for its profile before it. -/
def ProbedFrom (seen trace : List Command) : Prop :=
  PrecededFrom (fun command => ∃ profileName, command.decidesFor profileName)
    (fun probe decision => ∀ profileName, decision.decidesFor profileName →
      probe.mergesFor = some profileName) seen trace

/-- A trace of whole calls: the decisions after a query follow a MERGE that was
made after it too. -/
structure WholeCalls (trace : List Command) : Prop where
  probed : ProbedFrom [] trace
  afterQuery : ∀ before profileName now rest,
    trace = before ++ .queryBreaker profileName now :: rest → ProbedFrom [] rest

theorem probedFrom_of_isIdle {seen trace : List Command}
    (quiet : ∀ command ∈ trace, command.isIdle) : ProbedFrom seen trace := by
  apply PrecededFrom.of_needless
  rintro command member ⟨profileName, decides⟩
  apply (quiet command member).2 profileName
  cases command <;> first | exact decides | cases decides

theorem Command.isIdle.ne_query {command : Command} (idle : command.isIdle)
    (profileName : String) (now : Instant) : command ≠ .queryBreaker profileName now := by
  rintro rfl
  exact idle.2 profileName rfl

theorem Settles.ne_query {deps : BridgeDeps} {attempt : MergeAttempt} {settling : List Command}
    (settles : Settles deps attempt settling) (profileName : String) (now : Instant) :
    .queryBreaker profileName now ∉ settling := by
  intro member
  cases settles.follows _ member

theorem Settles.ne_merge {deps : BridgeDeps} {attempt : MergeAttempt} {settling : List Command}
    (settles : Settles deps attempt settling) (other : MergeAttempt) :
    .merge other ∉ settling := by
  intro member
  cases settles.follows _ member

section Batch

variable {deps : BridgeDeps} {profileName : String} {attempts : List MergeAttempt}
  {trace : List Command}

theorem Batch.probedFrom (batch : Batch deps profileName attempts trace) (seen : List Command) :
    ProbedFrom seen trace := by
  induction batch generalizing seen with
  | nil => trivial
  | cons attempt settling attempts rest name settles batch ih =>
      apply PrecededFrom.append _ (ih seen)
      constructor
      · rintro ⟨_, decides⟩
        cases decides
      · -- the MERGE of the row has been seen
        apply PrecededFrom.of_causes
        intro command member
        refine ⟨_, List.mem_cons_self, ?_⟩
        intro other decides
        exact congrArg some (settles.reports command member other decides)

theorem Batch.ne_query (batch : Batch deps profileName attempts trace) (name : String)
    (now : Instant) : .queryBreaker name now ∉ trace := by
  induction batch with
  | nil => exact List.not_mem_nil
  | cons attempt settling attempts rest _ settles batch ih =>
      simp only [List.cons_append, List.mem_cons, List.mem_append, not_or]
      exact ⟨Command.noConfusion, settles.ne_query name now, ih⟩

end Batch

theorem CallShape.wholeCalls {deps : BridgeDeps} {bridge : BridgeState} {trace : List Command}
    (shape : CallShape deps bridge trace) : WholeCalls trace := by
  cases shape with
  | idle _ quiet =>
      constructor
      · exact probedFrom_of_isIdle quiet
      · rintro before name now rest rfl
        exact absurd rfl ((quiet _ (by simp)).ne_query name now)
  | batch opening profileName now attempts rest tail quiet probe sends =>
      have afterwards : ProbedFrom [] (rest ++ tail) := by
        apply (sends.probedFrom []).append
        apply probedFrom_of_isIdle
        intro command member
        exact quiet command (List.mem_append_right _ member)
      constructor
      · apply PrecededFrom.append
        · apply probedFrom_of_isIdle
          intro command member
          exact quiet command (List.mem_append_left _ member)
        · constructor
          · rintro ⟨_, decides⟩
            cases decides
          · exact afterwards.mono (List.nil_subset _)
      · intro before name moment suffix split
        have notBefore : .queryBreaker name moment ∉ opening := by
          intro member
          exact (quiet _ (List.mem_append_left _ member)).ne_query name moment rfl
        have notAfter : .queryBreaker name moment ∉ rest ++ tail := by
          intro member
          rcases List.mem_append.mp member with inRest | inTail
          · exact sends.ne_query name moment inRest
          · exact (quiet _ (List.mem_append_right _ inTail)).ne_query name moment rfl
        rw [List.append_cons_inj_of_notMem notBefore notAfter] at split
        rw [← split.2.2]
        exact afterwards

theorem WholeCalls.append {left right : List Command} (onLeft : WholeCalls left)
    (onRight : WholeCalls right) : WholeCalls (left ++ right) := by
  constructor
  · exact onLeft.probed.append onRight.probed
  · intro before profileName now rest split
    rcases List.append_eq_append_iff.mp split with
      ⟨middle, rfl, inRight⟩ | ⟨middle, rfl, inLeft⟩
    · exact onRight.afterQuery middle profileName now rest inRight
    · cases middle with
      | nil => exact onRight.afterQuery [] profileName now rest inLeft.symm
      | cons command middle =>
          rw [List.cons_append] at inLeft
          rcases List.cons.inj inLeft with ⟨rfl, rfl⟩
          exact (onLeft.afterQuery before profileName now middle rfl).append onRight.probed

theorem circuit_query {bridge : BridgeState} {profileName : String}
    (halfOpen : bridge.circuit profileName = .halfOpen) (name : String) (now : Instant) :
    (bridge.exec (.queryBreaker name now)).circuit profileName = .halfOpen := by
  have notOpen : (bridge.breaker.entry profileName).state ≠ .open := by
    intro isOpen
    rw [BridgeState.circuit, isOpen] at halfOpen
    cases halfOpen
  simp only [BridgeState.circuit, BridgeState.exec]
  by_cases here : profileName = name
  · subst here
    rw [CircuitBreaker.stateFor_entry_self, CircuitBreaker.queriedEntry_of_not_open notOpen]
    exact halfOpen
  · rw [CircuitBreaker.stateFor_entry_of_ne _ _ here]
    exact halfOpen

/-- A half-open circuit stays so until a decision. -/
theorem circuit_exec {bridge : BridgeState} {command : Command} {profileName : String}
    (halfOpen : bridge.circuit profileName = .halfOpen)
    (undecided : ¬command.decidesFor profileName) :
    (bridge.exec command).circuit profileName = .halfOpen := by
  by_cases asks : ∃ name now, command = .queryBreaker name now
  · rcases asks with ⟨name, now, rfl⟩
    exact circuit_query halfOpen name now
  · have untouched : ¬command.touchesBreaker profileName := by
      cases command <;> first | exact undecided | exact absurd ⟨_, _, rfl⟩ asks
    rw [BridgeState.circuit, BridgeState.exec_breaker_entry _ untouched]
    exact halfOpen

theorem circuit_replay {bridge : BridgeState} {trace : List Command} {profileName : String}
    (halfOpen : bridge.circuit profileName = .halfOpen)
    (undecided : ∀ command ∈ trace, ¬command.decidesFor profileName) :
    (bridge.replay trace).circuit profileName = .halfOpen := by
  induction trace generalizing bridge with
  | nil => exact halfOpen
  | cons command trace ih =>
      apply ih (circuit_exec halfOpen (undecided command List.mem_cons_self))
      intro later member
      exact undecided later (List.mem_cons_of_mem _ member)

theorem WholeCalls.waits {trace : List Command} (whole : WholeCalls trace) (init : BridgeState) :
    Waits init trace := by
  intro before profileName now mid after split halfOpen noMerge
  have probed := whole.afterQuery before profileName now (mid ++ after) split
  rw [BridgeState.replay_append, BridgeState.replay_cons]
  rw [BridgeState.replay_append] at halfOpen
  apply circuit_replay halfOpen
  intro command member decides
  rcases List.append_of_mem member with ⟨earlier, later, rfl⟩
  rw [List.append_assoc, List.cons_append] at probed
  rcases PrecededFrom.exists_before probed ⟨profileName, decides⟩ with ⟨probe, made, causes⟩
  rcases made with inNil | inEarlier
  · exact absurd inNil List.not_mem_nil
  · exact noMerge probe (by simp [inEarlier]) (causes profileName decides)

/-! ## Each probe decides -/

theorem Decides.append {init : BridgeState} {left right : List Command}
    (onLeft : Decides init left) (onRight : Decides (init.replay left) right) :
    Decides init (left ++ right) := by
  intro before attempt after split halfOpen
  rcases List.append_eq_append_iff.mp split with ⟨middle, rfl, inRight⟩ | ⟨middle, rfl, inLeft⟩
  · rw [BridgeState.replay_append] at halfOpen
    rcases onRight middle attempt after inRight halfOpen with ⟨settling, rest, same, calm, decided⟩
    refine ⟨settling, rest, same, calm, ?_⟩
    rwa [List.append_assoc, BridgeState.replay_append]
  · cases middle with
    | nil =>
        rw [List.append_nil] at onRight
        rcases onRight [] attempt after inLeft.symm halfOpen with
          ⟨settling, rest, same, calm, decided⟩
        refine ⟨settling, rest, same, calm, ?_⟩
        rwa [BridgeState.replay_append]
    | cons command middle =>
        rw [List.cons_append] at inLeft
        rcases List.cons.inj inLeft with ⟨rfl, rfl⟩
        rcases onLeft before attempt middle rfl halfOpen with
          ⟨settling, rest, rfl, calm, decided⟩
        exact ⟨settling, rest ++ right, List.append_assoc _ _ _, calm, decided⟩

theorem decides_of_no_merge {init : BridgeState} {trace : List Command}
    (none : ∀ command ∈ trace, command.mergesFor = none) : Decides init trace := by
  rintro before attempt after rfl
  have merges := none (.merge attempt) (by simp)
  cases merges

/-- A batch whose first answer decides when it finds the circuit half-open. -/
theorem Batch.decides {deps : BridgeDeps} {profileName : String} {attempts : List MergeAttempt}
    {trace : List Command} (batch : Batch deps profileName attempts trace) {bridge : BridgeState}
    (probe : bridge.circuit profileName = .halfOpen →
      ∀ attempt ∈ attempts.head?, deps.decides bridge.breaker attempt) :
    Decides bridge trace := by
  induction batch generalizing bridge with
  | nil =>
      apply decides_of_no_merge
      intro command member
      exact absurd member List.not_mem_nil
  | cons attempt settling attempts rest name settles batch ih =>
      have told := settles.breaker bridge
      rw [← name] at probe
      apply Decides.append
      · intro before other after split halfOpen
        have first : before = [] ∧ other = attempt ∧ after = settling := by
          cases before with
          | nil =>
              rcases List.cons.inj split with ⟨same, rest⟩
              exact ⟨rfl, (Command.merge.inj same).symm, rest.symm⟩
          | cons command before =>
              have inSettling : .merge other ∈ settling := by
                rw [(List.cons.inj split).2]
                simp
              exact absurd inSettling (settles.ne_merge other)
        rcases first with ⟨rfl, rfl, rfl⟩
        refine ⟨after, [], (List.append_nil _).symm, settles.ne_merge, ?_⟩
        rw [List.nil_append, BridgeState.replay_cons]
        simp only [BridgeState.exec]
        rw [told]
        exact decided_told (probe halfOpen _ rfl)
      · apply ih
        -- the report has decided, so the rest of the batch is no probe
        intro halfOpen
        rw [BridgeState.circuit, BridgeState.replay_cons] at halfOpen
        simp only [BridgeState.exec] at halfOpen
        rw [told, ← name] at halfOpen
        have decided := decided_told (probe (told_halfOpen halfOpen) attempt rfl)
        exact absurd halfOpen decided.not_halfOpen

theorem decides_of_sameCodes {deps : BridgeDeps} {breaker next : CircuitBreaker}
    (same : next.SameConfig breaker) {attempt : MergeAttempt}
    (decides : deps.decides breaker attempt) : deps.decides next attempt := by
  rcases decides with success | opens
  · exact .inl success
  · right
    rwa [opens_of_sameConfig same]

theorem CallShape.decides {deps : BridgeDeps} {bridge : BridgeState} {trace : List Command}
    (shape : CallShape deps bridge trace) : Decides bridge trace := by
  cases shape with
  | idle _ quiet =>
      apply decides_of_no_merge
      intro command member
      exact (quiet command member).1
  | batch opening profileName now attempts rest tail quiet probe sends =>
      have untouched : (bridge.replay opening).breaker = bridge.breaker := by
        apply BridgeState.wholeBreakerFrame.replay
        rintro command member ⟨name, touches⟩
        exact (quiet command (List.mem_append_left _ member)).2 name touches
      have asked : (bridge.replay (opening ++ [.queryBreaker profileName now])).breaker =
          (bridge.breaker.stateFor profileName (some now)).1 := by
        rw [BridgeState.replay_append, BridgeState.replay_cons, BridgeState.replay_nil]
        simp only [BridgeState.exec, untouched]
      rw [List.append_cons, ← List.append_assoc]
      apply Decides.append
      · apply Decides.append
        · apply decides_of_no_merge
          intro command member
          rcases List.mem_append.mp member with inOpening | query
          · exact (quiet command (List.mem_append_left _ inOpening)).1
          · rw [List.mem_singleton.mp query]
            rfl
        · apply sends.decides
          intro halfOpen attempt first
          rw [BridgeState.circuit, asked, CircuitBreaker.stateFor_entry_self] at halfOpen
          rw [asked]
          exact decides_of_sameCodes (bridge.breaker.sameConfig_stateFor profileName (some now))
            (probe halfOpen attempt first)
      · apply decides_of_no_merge
        intro command member
        exact (quiet command (List.mem_append_right _ member)).1

/-! ## Whole runs -/

/-- A half-open circuit admits one probe in every run whose probes are answered
with a success or a reported permanent error. -/
theorem oneProbe_of_probeAnswered (deps : BridgeDeps) (init : BridgeState)
    (steps : List BridgeStep) (uncrashed : Uncrashed steps)
    (answered : (bridgeMachine deps).Meets (ProbeAnswered deps) init steps) :
    OneProbe deps init steps := by
  have run : WholeCalls ((bridgeMachine deps).trace init steps) ∧
      Decides init ((bridgeMachine deps).trace init steps) := by
    induction steps generalizing init with
    | nil =>
        constructor
        · exact (CallShape.idle [] (by simp) : CallShape deps init []).wholeCalls
        · exact decides_of_no_merge (by simp [Machine.trace])
    | cons step steps ih =>
        rcases uncrashed step List.mem_cons_self with ⟨routine, rfl⟩
        have shape := callShape_performed deps answered.1
        rcases ih _ uncrashed.tail answered.2 with ⟨whole, decides⟩
        exact ⟨shape.wholeCalls.append whole, shape.decides.append decides⟩
  constructor
  · exact run.1.waits init
  · exact run.2

/-! ## A probe that decides nothing -/

/-- A probe after which the circuit stays half-open to the end of the trace. -/
theorem not_decides {init : BridgeState} {before after : List Command} {attempt : MergeAttempt}
    (halfOpen : (init.replay before).circuit attempt.profileName = .halfOpen)
    (stuck : ∀ settling ∈ after.inits,
      (init.replay (before ++ .merge attempt :: settling)).circuit attempt.profileName =
        .halfOpen) :
    ¬Decides init (before ++ .merge attempt :: after) := by
  intro decides
  rcases decides before attempt after rfl halfOpen with ⟨settling, rest, split, -, decided⟩
  have part : settling ∈ after.inits := by
    rw [List.mem_inits, split]
    exact List.prefix_append settling rest
  exact decided.not_halfOpen (stuck settling part)

namespace Site

/-- The row is locked in Oracle. -/
def locked : BackendOutcome := answered (.sqlException 0 54 (some "ORA-00054") false)

/-- A permanent error, and a probe after its time that is answered in this way. -/
def probing (backend : BackendOutcome) : List BridgeStep :=
  [.complete (.senderRunOnce (senderCall 10 noTable)),
    .complete (.senderRunOnce (senderCall 910 backend))]

def lockedProbe : MergeAttempt where
  path := .event
  profileName := "HIME-H-REAP"
  eventId := "e1"
  key := ⟨"20260925120000", "996", "995", "994", 1⟩
  now := time 910
  reply := executeMergeForProfile profile locked

end Site

/-- A lock conflict leaves the circuit half-open. -/
theorem not_oneProbe_of_lock :
    ¬OneProbe Site.deps Site.oneEvent (Site.probing Site.locked) := by
  intro one
  have trace : (bridgeMachine Site.deps).trace Site.oneEvent (Site.probing Site.locked) =
      ((bridgeMachine Site.deps).trace Site.oneEvent (Site.probing Site.locked)).take 9 ++
        .merge Site.lockedProbe ::
          ((bridgeMachine Site.deps).trace Site.oneEvent (Site.probing Site.locked)).drop 10 := by
    decide +kernel
  have decides := one.decides
  rw [trace] at decides
  exact not_decides (by decide +kernel) (by decide +kernel) decides

/-- A successful probe closes the circuit. -/
theorem oneProbe_of_success :
    OneProbe Site.deps Site.oneEvent (Site.probing (Site.answered (.committed 1))) := by
  apply oneProbe_of_probeAnswered
  · intro step member
    simp only [Site.probing, List.mem_cons, List.not_mem_nil, or_false] at member
    rcases member with rfl | rfl <;> exact ⟨_, rfl⟩
  · refine ⟨?_, ?_, trivial⟩
    · constructor
      · intro call profileName profile same _ admits halfOpen
        cases same
        have closed : ∀ name now, (Site.oneEvent.breaker.stateFor name now).2 = .closed := by
          intro name now
          rfl
        rw [closed] at halfOpen
        cases halfOpen
      · intro call profileName profile other
        cases other
    · constructor
      · intro call profileName profile same _ admits _ event _
        cases same
        have known := Site.get_replay_eq_profile admits.configured
        subst known
        have success : (executeMergeForProfile Site.profile
            (Site.answered (.committed 1))).result.isSuccess := by
          decide +kernel
        exact .inl success
      · intro call profileName profile other
        cases other

end PresenceLogger.Bridge
