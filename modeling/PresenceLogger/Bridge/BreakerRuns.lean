import PresenceLogger.Bridge.Runs

/-!
# The circuit breaker over whole runs

Both senders ask the breaker once, before their batch, and report each answer to
it as they go.  What a step does to the breaker is therefore a query followed by
the reports of the MERGEs it makes.  An open circuit stops the next call, but
not the rest of the batch that opened it.
-/

namespace PresenceLogger.Bridge

open Library

/-! ## What the senders tell the breaker -/

/-- What a sender reports to the breaker after a MERGE. -/
inductive BreakerReport where
  | success
  | failure (oraCode : Option Int)
  | nothing
  deriving DecidableEq, Repr

def BridgeDeps.report (deps : BridgeDeps) (attempt : MergeAttempt) : BreakerReport :=
  match attempt.path with
  | .event =>
      match attempt.reply.result.oraCode with
      | none => .success
      | some code => .failure (some code)
  | .record =>
      match deps.recordSender.verdict attempt.reply.result with
      | .committed => .success
      | .unretryable _ => .nothing
      | .retry => .failure attempt.reply.result.oraCode

def CircuitBreaker.told (breaker : CircuitBreaker) (profileName : String) (now : Instant) :
    BreakerReport → CircuitBreaker
  | .success => breaker.recordSuccess profileName
  | .failure oraCode => breaker.recordFailure profileName oraCode now
  | .nothing => breaker

/-- The report is a permanent error. -/
def BreakerReport.isPermanent (report : BreakerReport) (permanentCodes : List Int) : Bool :=
  match report with
  | .failure oraCode => isPermanentError oraCode permanentCodes
  | .success | .nothing => false

theorem breaker_replay_sendOne {deps : BridgeDeps} (bridge : BridgeState) (profile : Profile)
    (profileName mkDate : String) (call : SenderCall) (event : InboxEvent) :
    (bridge.replay (deps.sender.sendOne profile profileName mkDate call.now event
      (call.oracle profile event))).breaker =
      bridge.breaker.told profileName call.now
        (deps.report (deps.sender.attempt profile profileName mkDate call event)) := by
  simp only [SenderDeps.sendOne, SenderDeps.settle, SenderDeps.attempt, BridgeDeps.report]
  cases (call.oracle profile event).result.oraCode with
  | none => rfl
  | some code =>
      simp only
      split <;> rfl

theorem breaker_replay_sendOne_record {deps : BridgeDeps} (bridge : BridgeState)
    (profile : Profile) (profileName : String) (call : RecordSenderCall)
    (rec : RecordInboxEvent) :
    (bridge.replay (deps.recordSender.sendOne profileName call.now rec
      (call.oracle profile rec))).breaker =
      bridge.breaker.told profileName call.now
        (deps.report (RecordSenderDeps.attempt profile profileName call rec)) := by
  simp only [RecordSenderDeps.sendOne, RecordSenderDeps.settle, RecordSenderDeps.attempt,
    BridgeDeps.report]
  cases deps.recordSender.verdict (call.oracle profile rec).result with
  | committed => cases usableTopic deps.recordSender.topicAck <;> rfl
  | unretryable code => cases usableTopic deps.recordSender.topicNack <;> rfl
  | retry =>
      simp only
      split <;> rfl

/-! ## What a step does to the breaker -/

/-- The time at which a routine asks the breaker. -/
def Routine.now : Routine → Option Instant
  | .senderRunOnce call => some call.now
  | .recordRunOnce call => some call.now
  | _ => none

/-- The breaker after a batch of MERGEs for one profile. -/
def CircuitBreaker.afterBatch (deps : BridgeDeps) (profileName : String) (now : Instant)
    (breaker : CircuitBreaker) (attempts : List MergeAttempt) : CircuitBreaker :=
  attempts.foldl (fun breaker attempt => breaker.told profileName now (deps.report attempt))
    breaker

/-- The MERGEs of one step and the breaker after it. -/
inductive BreakerStep (deps : BridgeDeps) (time : Option Instant) (breaker : CircuitBreaker) :
    List MergeAttempt → CircuitBreaker → Prop where
  | quiet : BreakerStep deps time breaker [] breaker
  /-- The breaker is asked, and nothing is sent. -/
  | refused (profileName : String) (now : Instant) (asked : time = some now) :
      BreakerStep deps time breaker [] (breaker.stateFor profileName (some now)).1
  /-- The breaker lets the batch through. -/
  | batch (profileName : String) (now : Instant) (attempts : List MergeAttempt)
      (asked : time = some now)
      (allowed : (breaker.stateFor profileName (some now)).2 ≠ .open)
      (same : ∀ attempt ∈ attempts, attempt.profileName = profileName ∧ attempt.now = now) :
      BreakerStep deps time breaker attempts
        (CircuitBreaker.afterBatch deps profileName now
          (breaker.stateFor profileName (some now)).1 attempts)

theorem breaker_replay_batch {deps : BridgeDeps} (bridge : BridgeState)
    (baseline : Option SyncBaseline) (profile : Profile) (profileName : String)
    (call : SenderCall) (events : List InboxEvent) :
    (bridge.replay (events.flatMap
      (deps.sender.sendRow baseline profile profileName call))).breaker =
      CircuitBreaker.afterBatch deps profileName call.now bridge.breaker
        (events.filterMap fun event => (resolveMkDate baseline event).map fun mkDate =>
          deps.sender.attempt profile profileName mkDate call event) := by
  induction events generalizing bridge with
  | nil => rfl
  | cons event events ih =>
      rw [List.flatMap_cons, BridgeState.replay_append, ih, List.filterMap_cons]
      cases dated : resolveMkDate baseline event with
      | none => simp only [SenderDeps.sendRow, dated, BridgeState.replay_nil, Option.map_none]
      | some mkDate =>
          simp only [SenderDeps.sendRow, dated, Option.map_some, breaker_replay_sendOne]
          rfl

theorem breaker_replay_batch_record {deps : BridgeDeps} (bridge : BridgeState)
    (profile : Profile) (profileName : String) (call : RecordSenderCall)
    (recs : List RecordInboxEvent) :
    (bridge.replay (recs.flatMap fun rec =>
      deps.recordSender.sendOne profileName call.now rec (call.oracle profile rec))).breaker =
      CircuitBreaker.afterBatch deps profileName call.now bridge.breaker
        (recs.map (RecordSenderDeps.attempt profile profileName call)) := by
  induction recs generalizing bridge with
  | nil => rfl
  | cons rec recs ih =>
      rw [List.flatMap_cons, BridgeState.replay_append, ih, breaker_replay_sendOne_record]
      rfl

theorem breakerStep_sender (deps : BridgeDeps) (bridge : BridgeState) (call : SenderCall) :
    BreakerStep deps (some call.now) bridge.breaker
      (merges (upToRaise (deps.sender.runOnce bridge call)))
      (bridge.replay (upToRaise (deps.sender.runOnce bridge call))).breaker := by
  by_cases admitted : ∃ profileName profile, call.Admits bridge profileName profile
  · rcases admitted with ⟨profileName, profile, admits⟩
    have breaker : (bridge.replay (upToRaise (deps.sender.runOnce bridge call))).breaker =
        CircuitBreaker.afterBatch deps profileName call.now
          (bridge.breaker.stateFor profileName (some call.now)).1
          (merges (upToRaise (deps.sender.runOnce bridge call))) := by
      rw [deps.sender.merges_runOnce admits, deps.sender.upToRaise_runOnce admits,
        BridgeState.replay_append, breaker_replay_batch]
      rfl
    rw [breaker]
    apply BreakerStep.batch profileName call.now _ rfl admits.allowed
    intro attempt member
    rw [deps.sender.merges_runOnce admits] at member
    rcases List.mem_filterMap.mp member with ⟨event, -, made⟩
    rcases Option.map_eq_some_iff.mp made with ⟨mkDate, -, rfl⟩
    exact ⟨rfl, rfl⟩
  · have refused : ∀ profileName profile, ¬call.Admits bridge profileName profile := by
      intro profileName profile admits
      exact admitted ⟨profileName, profile, admits⟩
    rcases deps.sender.upToRaise_runOnce_refused refused with
      early | ⟨profileName, rest, late, tail⟩
    · rw [early]
      exact .quiet
    · rw [late]
      rcases tail with rfl | rfl
      · exact .refused profileName call.now rfl
      · exact .refused profileName call.now rfl

theorem breakerStep_recordSender (deps : BridgeDeps) (bridge : BridgeState)
    (call : RecordSenderCall) :
    BreakerStep deps (some call.now) bridge.breaker
      (merges (upToRaise (deps.recordSender.runOnce bridge call)))
      (bridge.replay (upToRaise (deps.recordSender.runOnce bridge call))).breaker := by
  by_cases admitted : ∃ profileName profile, call.Admits bridge profileName profile
  · rcases admitted with ⟨profileName, profile, admits⟩
    have breaker : (bridge.replay (upToRaise (deps.recordSender.runOnce bridge call))).breaker =
        CircuitBreaker.afterBatch deps profileName call.now
          (bridge.breaker.stateFor profileName (some call.now)).1
          (merges (upToRaise (deps.recordSender.runOnce bridge call))) := by
      rw [deps.recordSender.merges_runOnce admits, deps.recordSender.upToRaise_runOnce admits,
        BridgeState.replay_cons, breaker_replay_batch_record]
      rfl
    rw [breaker]
    apply BreakerStep.batch profileName call.now _ rfl admits.allowed
    intro attempt member
    rw [deps.recordSender.merges_runOnce admits] at member
    rcases List.mem_map.mp member with ⟨rec, -, rfl⟩
    exact ⟨rfl, rfl⟩
  · have refused : ∀ profileName profile, ¬call.Admits bridge profileName profile := by
      intro profileName profile admits
      exact admitted ⟨profileName, profile, admits⟩
    rcases deps.recordSender.upToRaise_runOnce_refused refused with
      early | ⟨profileName, rest, late, tail⟩
    · rw [early]
      exact .quiet
    · rw [late]
      rcases tail with rfl | rfl
      · exact .refused profileName call.now rfl
      · exact .refused profileName call.now rfl

/-- Every routine acts on the breaker as one step. -/
theorem breakerStep_performed (deps : BridgeDeps) (bridge : BridgeState) (routine : Routine) :
    BreakerStep deps routine.now bridge.breaker (merges (routine.performed deps bridge))
      (bridge.replay (routine.performed deps bridge)).breaker := by
  rcases routine.performed_cases deps bridge with performed | idle
  · rw [performed]
    cases routine with
    | senderRunOnce call => exact breakerStep_sender deps bridge call
    | recordRunOnce call => exact breakerStep_recordSender deps bridge call
    | _ =>
        rw [← performed, Routine.quiet_merges rfl, Routine.quiet_breaker rfl]
        exact .quiet
  · rw [idle]
    exact .quiet

/-! ## Reports and the configuration -/

namespace CircuitBreaker

theorem sameConfig_told (breaker : CircuitBreaker) (profileName : String) (now : Instant)
    (report : BreakerReport) : (breaker.told profileName now report).SameConfig breaker := by
  cases report with
  | success => exact ⟨rfl, rfl⟩
  | failure oraCode => exact sameConfig_recordFailure breaker profileName oraCode now
  | nothing => exact ⟨rfl, rfl⟩

theorem told_entry_of_ne (breaker : CircuitBreaker) {profileName other : String} (now : Instant)
    (report : BreakerReport) (different : other ≠ profileName) :
    (breaker.told profileName now report).entry other = breaker.entry other := by
  cases report with
  | success => exact setEntry_entry_of_ne _ _ different
  | failure oraCode =>
      simp only [told, recordFailure]
      split
      · exact setEntry_entry_of_ne _ _ different
      · rfl
  | nothing => rfl

theorem sameConfig_afterBatch (deps : BridgeDeps) (profileName : String) (now : Instant)
    (breaker : CircuitBreaker) (attempts : List MergeAttempt) :
    (afterBatch deps profileName now breaker attempts).SameConfig breaker := by
  induction attempts generalizing breaker with
  | nil => exact ⟨rfl, rfl⟩
  | cons attempt attempts ih =>
      have later := ih (breaker.told profileName now (deps.report attempt))
      have first := sameConfig_told breaker profileName now (deps.report attempt)
      exact ⟨later.1.trans first.1, later.2.trans first.2⟩

theorem afterBatch_entry_of_ne (deps : BridgeDeps) {profileName other : String} (now : Instant)
    (breaker : CircuitBreaker) (attempts : List MergeAttempt) (different : other ≠ profileName) :
    (afterBatch deps profileName now breaker attempts).entry other = breaker.entry other := by
  induction attempts generalizing breaker with
  | nil => rfl
  | cons attempt attempts ih =>
      exact (ih _).trans (told_entry_of_ne breaker now _ different)

end CircuitBreaker

theorem BreakerStep.sameConfig {deps : BridgeDeps} {time : Option Instant}
    {breaker next : CircuitBreaker} {attempts : List MergeAttempt}
    (step : BreakerStep deps time breaker attempts next) : next.SameConfig breaker := by
  cases step with
  | quiet => exact ⟨rfl, rfl⟩
  | refused profileName now asked => exact ⟨rfl, rfl⟩
  | batch profileName now attempts asked allowed same =>
      exact CircuitBreaker.sameConfig_afterBatch deps profileName now
        (breaker.stateFor profileName (some now)).1 _

/-- The MERGEs of one step are for one profile, at the time of its call. -/
theorem BreakerStep.alike {deps : BridgeDeps} {time : Option Instant}
    {breaker next : CircuitBreaker} {attempts : List MergeAttempt}
    (step : BreakerStep deps time breaker attempts next) {left right : MergeAttempt}
    (inLeft : left ∈ attempts) (inRight : right ∈ attempts) :
    left.profileName = right.profileName ∧ time = some left.now ∧ left.now = right.now := by
  cases step with
  | quiet => exact absurd inLeft List.not_mem_nil
  | refused profileName now asked => exact absurd inLeft List.not_mem_nil
  | batch profileName now _ asked allowed same =>
      rcases same left inLeft with ⟨leftName, leftNow⟩
      rcases same right inRight with ⟨rightName, rightNow⟩
      rw [leftName, rightName, leftNow, rightNow]
      exact ⟨rfl, asked, rfl⟩

/-! ## A permanent error is followed by silence -/

/-- A report of this MERGE opens the breaker. -/
def BridgeDeps.opens (deps : BridgeDeps) (breaker : CircuitBreaker) (attempt : MergeAttempt) :
    Bool :=
  (deps.report attempt).isPermanent breaker.permanentCodes

/-- If the first MERGE opens the breaker, the second is for another profile or
at least `half_open_after_seconds` later. -/
def Silence (deps : BridgeDeps) (breaker : CircuitBreaker) (earlier later : MergeAttempt) :
    Prop :=
  deps.opens breaker earlier = true → earlier.profileName = later.profileName →
    earlier.now.micros + breaker.timeout ≤ later.now.micros

instance (deps : BridgeDeps) (breaker : CircuitBreaker) :
    DecidableRel (Silence deps breaker) :=
  fun _ _ => inferInstanceAs (Decidable (_ → _ → _))

/-- After a permanent error no MERGE is made for the profile before its time. -/
def OpenStopsSending (deps : BridgeDeps) (init : BridgeState) (steps : List BridgeStep) : Prop :=
  (merges ((bridgeMachine deps).trace init steps)).Pairwise (Silence deps init.breaker)

/-- In each call, a row that a permanent code answers is the last one sent. -/
structure PermanentLast (deps : BridgeDeps) (bridge : BridgeState) (step : BridgeStep) :
    Prop where
  event : ∀ call profileName profile, step.routine = .senderRunOnce call →
    bridge.running = true → call.Admits bridge profileName profile →
    ((deps.sender.visited bridge call profileName profile).filter fun event =>
      (resolveMkDate bridge.timeWatcher.baseline event).isSome).Pairwise fun event _ =>
        isPermanentError (call.oracle profile event).result.oraCode
          bridge.breaker.permanentCodes = false
  record : ∀ call profileName profile, step.routine = .recordRunOnce call →
    bridge.running = true → call.Admits bridge profileName profile →
    (deps.recordSender.visited bridge call profileName profile).Pairwise fun rec _ =>
      deps.recordSender.verdict (call.oracle profile rec).result = .retry →
        isPermanentError (call.oracle profile rec).result.oraCode
          bridge.breaker.permanentCodes = false

/-- What earlier permanent errors say about the breaker at a given time: the
entry is open since one of them, or their time is over. -/
def Guarded (deps : BridgeDeps) (breaker : CircuitBreaker) (time : Int)
    (attempts : List MergeAttempt) : Prop :=
  ∀ attempt ∈ attempts, deps.opens breaker attempt = true →
    attempt.now.micros + breaker.timeout ≤ time ∨
      ∃ openedAt, (breaker.entry attempt.profileName).state = .open ∧
        (breaker.entry attempt.profileName).openedAt = some openedAt ∧
        attempt.now.micros ≤ openedAt.micros

section Guarded

variable {deps : BridgeDeps} {breaker : CircuitBreaker} {time : Int}
  {history : List MergeAttempt}

theorem opens_of_sameConfig {next : CircuitBreaker} (same : next.SameConfig breaker)
    (attempt : MergeAttempt) : deps.opens next attempt = deps.opens breaker attempt := by
  rw [BridgeDeps.opens, BridgeDeps.opens, same.2]

/-- An open entry stays open when it is asked, or its time is over. -/
theorem Guarded.stateFor (guarded : Guarded deps breaker time history) (profileName : String)
    (now : Instant) (order : time ≤ now.micros) :
    Guarded deps (breaker.stateFor profileName (some now)).1 now.micros history := by
  intro attempt member opens
  rcases guarded attempt member opens with ended | ⟨openedAt, isOpen, since, after⟩
  · left
    exact ended.trans order
  · by_cases here : attempt.profileName = profileName
    · rw [here] at isOpen since
      have asked := CircuitBreaker.queriedEntry_open isOpen since now
      split at asked
      next elapsed =>
        left
        simp only [Instant.sub] at elapsed
        have same := (breaker.sameConfig_stateFor profileName (some now)).1
        omega
      next early =>
        right
        rw [here, CircuitBreaker.stateFor_entry_self, asked]
        exact ⟨openedAt, isOpen, since, after⟩
    · right
      rw [CircuitBreaker.stateFor_entry_of_ne _ _ here]
      exact ⟨openedAt, isOpen, since, after⟩

/-- A profile whose entry does not answer `open` has no running timeout. -/
theorem Guarded.ended (guarded : Guarded deps breaker time history) {profileName : String}
    {now : Instant} (order : time ≤ now.micros)
    (allowed : (breaker.stateFor profileName (some now)).2 ≠ .open) {attempt : MergeAttempt}
    (member : attempt ∈ history) (opens : deps.opens breaker attempt = true)
    (here : attempt.profileName = profileName) :
    attempt.now.micros + breaker.timeout ≤ now.micros := by
  rcases guarded.stateFor profileName now order attempt member opens with ended | ⟨_, isOpen, _⟩
  · exact ended
  · rw [here, CircuitBreaker.stateFor_entry_self] at isOpen
    exact absurd isOpen allowed

/-- In a batch whose permanent errors come last, the last MERGE decides. -/
theorem entry_afterBatch_of_opens {profileName : String} {now : Instant}
    {attempts : List MergeAttempt}
    (last : attempts.Pairwise fun attempt _ => deps.opens breaker attempt = false)
    {attempt : MergeAttempt} (member : attempt ∈ attempts)
    (opens : deps.opens breaker attempt = true) :
    ((CircuitBreaker.afterBatch deps profileName now breaker attempts).entry profileName).state =
        .open ∧
      ((CircuitBreaker.afterBatch deps profileName now breaker attempts).entry
        profileName).openedAt = some now := by
  rcases List.append_of_mem member with ⟨before, after, rfl⟩
  have alone : after = [] := by
    apply List.eq_nil_iff_forall_not_mem.mpr
    intro other later
    have calm := (List.pairwise_cons.mp (List.pairwise_append.mp last).2.1).1 other later
    rw [opens] at calm
    cases calm
  subst alone
  have same := CircuitBreaker.sameConfig_afterBatch deps profileName now breaker before
  have permanent : (deps.report attempt).isPermanent
      (CircuitBreaker.afterBatch deps profileName now breaker before).permanentCodes = true := by
    rw [same.2]
    exact opens
  rw [CircuitBreaker.afterBatch, List.foldl_append, List.foldl_cons, List.foldl_nil]
  cases report : deps.report attempt with
  | success =>
      rw [report] at permanent
      cases permanent
  | nothing =>
      rw [report] at permanent
      cases permanent
  | failure oraCode =>
      rw [report] at permanent
      have entry := CircuitBreaker.recordFailure_of_permanent permanent profileName now
      simp only [CircuitBreaker.told]
      exact ⟨congrArg ProfileEntry.state entry, congrArg ProfileEntry.openedAt entry⟩

theorem Guarded.later (guarded : Guarded deps breaker time history) {after : Int}
    (order : time ≤ after) : Guarded deps breaker after history := by
  intro attempt member opens
  rcases guarded attempt member opens with ended | stillOpen
  · exact .inl (ended.trans order)
  · exact .inr stillOpen

/-- A batch that the breaker lets through keeps the guard. -/
theorem Guarded.batch (guarded : Guarded deps breaker time history) {profileName : String}
    {now : Instant} {attempts : List MergeAttempt} (order : time ≤ now.micros)
    (allowed : (breaker.stateFor profileName (some now)).2 ≠ .open)
    (same : ∀ attempt ∈ attempts, attempt.profileName = profileName ∧ attempt.now = now)
    (last : attempts.Pairwise fun attempt _ => deps.opens breaker attempt = false) :
    Guarded deps (CircuitBreaker.afterBatch deps profileName now
      (breaker.stateFor profileName (some now)).1 attempts) now.micros (history ++ attempts) := by
  have config := CircuitBreaker.sameConfig_afterBatch deps profileName now
    (breaker.stateFor profileName (some now)).1 attempts
  intro attempt member opens
  rw [config.1]
  rw [opens_of_sameConfig config] at opens
  rcases List.mem_append.mp member with old | new
  · by_cases here : attempt.profileName = profileName
    · left
      exact guarded.ended order allowed old opens here
    · rcases guarded.stateFor profileName now order attempt old opens with ended | stillOpen
      · exact .inl ended
      · right
        rw [CircuitBreaker.afterBatch_entry_of_ne deps now _ attempts here]
        exact stillOpen
  · right
    rcases same attempt new with ⟨name, at_⟩
    have decided := @entry_afterBatch_of_opens deps
      (breaker.stateFor profileName (some now)).1 profileName now attempts last attempt new opens
    rw [name, at_]
    exact ⟨now, decided.1, decided.2, le_refl _⟩

/-- One step keeps the guard, and what it sends respects it. -/
theorem Guarded.step (guarded : Guarded deps breaker time history) {asked : Option Instant}
    {attempts : List MergeAttempt} {next : CircuitBreaker}
    (step : BreakerStep deps asked breaker attempts next)
    (order : ∀ now ∈ asked, time ≤ now.micros)
    (last : attempts.Pairwise fun attempt _ => deps.opens breaker attempt = false) :
    Guarded deps next (asked.elim time Instant.micros) (history ++ attempts) ∧
      ∀ earlier ∈ history, ∀ later ∈ attempts, Silence deps breaker earlier later := by
  cases step with
  | quiet =>
      rw [List.append_nil]
      constructor
      · apply guarded.later
        cases asked with
        | none => exact le_refl time
        | some now => exact order now rfl
      · intro _ _ later impossible
        exact absurd impossible List.not_mem_nil
  | refused profileName now same =>
      subst same
      rw [List.append_nil]
      constructor
      · exact guarded.stateFor profileName now (order now rfl)
      · intro _ _ later impossible
        exact absurd impossible List.not_mem_nil
  | batch profileName now _ same allowed alike =>
      subst same
      constructor
      · exact guarded.batch (order now rfl) allowed alike last
      · intro earlier old later new opens here
        rcases alike later new with ⟨name, moment⟩
        rw [moment]
        exact guarded.ended (order now rfl) allowed old opens (here.trans name)

end Guarded

/-! ## Whole runs -/

theorem opens_attempt (deps : BridgeDeps) (breaker : CircuitBreaker) (profile : Profile)
    (profileName mkDate : String) (call : SenderCall) (event : InboxEvent) :
    deps.opens breaker (deps.sender.attempt profile profileName mkDate call event) =
      isPermanentError (call.oracle profile event).result.oraCode breaker.permanentCodes := by
  simp only [BridgeDeps.opens, BridgeDeps.report, SenderDeps.attempt]
  cases (call.oracle profile event).result.oraCode with
  | none => rfl
  | some code => rfl

theorem opens_record_attempt (deps : BridgeDeps) (breaker : CircuitBreaker) (profile : Profile)
    (profileName : String) (call : RecordSenderCall) (rec : RecordInboxEvent) :
    deps.opens breaker (RecordSenderDeps.attempt profile profileName call rec) = false ↔
      (deps.recordSender.verdict (call.oracle profile rec).result = .retry →
        isPermanentError (call.oracle profile rec).result.oraCode breaker.permanentCodes =
          false) := by
  simp only [BridgeDeps.opens, BridgeDeps.report, RecordSenderDeps.attempt]
  cases deps.recordSender.verdict (call.oracle profile rec).result with
  | committed => simp [BreakerReport.isPermanent]
  | unretryable code => simp [BreakerReport.isPermanent]
  | retry => simp [BreakerReport.isPermanent]

theorem permanentLast_sender_iff (deps : BridgeDeps) {bridge : BridgeState} {call : SenderCall}
    {profileName : String} {profile : Profile} (admits : call.Admits bridge profileName profile) :
    (((deps.sender.visited bridge call profileName profile).filter fun event =>
      (resolveMkDate bridge.timeWatcher.baseline event).isSome).Pairwise fun event _ =>
        isPermanentError (call.oracle profile event).result.oraCode
          bridge.breaker.permanentCodes = false) ↔
      (merges (upToRaise (deps.sender.runOnce bridge call))).Pairwise fun attempt _ =>
        deps.opens bridge.breaker attempt = false := by
  rw [deps.sender.merges_runOnce admits, List.pairwise_filterMap, List.pairwise_filter]
  constructor
  · apply List.Pairwise.imp
    intro event other calm attempt made later madeLater
    rcases Option.map_eq_some_iff.mp made with ⟨mkDate, dated, rfl⟩
    rcases Option.map_eq_some_iff.mp madeLater with ⟨laterDate, laterDated, rfl⟩
    rw [opens_attempt]
    exact calm (by simp [dated]) (by simp [laterDated])
  · apply List.Pairwise.imp
    intro event other calm dated laterDated
    rcases Option.isSome_iff_exists.mp dated with ⟨mkDate, found⟩
    rcases Option.isSome_iff_exists.mp laterDated with ⟨laterDate, laterFound⟩
    rw [found, laterFound] at calm
    have quiet := calm _ rfl _ rfl
    rwa [opens_attempt] at quiet

theorem permanentLast_recordSender_iff (deps : BridgeDeps) {bridge : BridgeState}
    {call : RecordSenderCall} {profileName : String} {profile : Profile}
    (admits : call.Admits bridge profileName profile) :
    ((deps.recordSender.visited bridge call profileName profile).Pairwise fun rec _ =>
      deps.recordSender.verdict (call.oracle profile rec).result = .retry →
        isPermanentError (call.oracle profile rec).result.oraCode
          bridge.breaker.permanentCodes = false) ↔
      (merges (upToRaise (deps.recordSender.runOnce bridge call))).Pairwise fun attempt _ =>
        deps.opens bridge.breaker attempt = false := by
  rw [deps.recordSender.merges_runOnce admits, List.pairwise_map]
  constructor
  · apply List.Pairwise.imp
    intro rec other calm
    exact (opens_record_attempt deps _ _ _ _ _).mpr calm
  · apply List.Pairwise.imp
    intro rec other calm
    exact (opens_record_attempt deps _ _ _ _ _).mp calm

/-- The condition on the rows of a call is one on its MERGEs. -/
theorem permanentLast_iff (deps : BridgeDeps) (bridge : BridgeState) (routine : Routine) :
    PermanentLast deps bridge (.complete routine) ↔
      (merges (routine.performed deps bridge)).Pairwise fun attempt _ =>
        deps.opens bridge.breaker attempt = false := by
  by_cases running : bridge.running = true
  · cases routine with
    | senderRunOnce call =>
        rw [Routine.performed, if_pos running]
        constructor
        · intro last
          by_cases admitted : ∃ profileName profile, call.Admits bridge profileName profile
          · rcases admitted with ⟨profileName, profile, admits⟩
            exact (permanentLast_sender_iff deps admits).mp
              (last.event call profileName profile rfl running admits)
          · have none : merges (upToRaise (deps.sender.runOnce bridge call)) = [] := by
              apply merges_eq_nil
              intro attempt member
              rcases deps.sender.merge_mem_runOnce.mp member with ⟨_, _, _, _, attempts, -⟩
              exact admitted ⟨_, _, attempts.toAdmits⟩
            rw [Routine.plan, none]
            exact List.Pairwise.nil
        · intro last
          constructor
          · intro own profileName profile same _ admits
            cases same
            exact (permanentLast_sender_iff deps admits).mpr last
          · intro own profileName profile other
            cases other
    | recordRunOnce call =>
        rw [Routine.performed, if_pos running]
        constructor
        · intro last
          by_cases admitted : ∃ profileName profile, call.Admits bridge profileName profile
          · rcases admitted with ⟨profileName, profile, admits⟩
            exact (permanentLast_recordSender_iff deps admits).mp
              (last.record call profileName profile rfl running admits)
          · have none : merges (upToRaise (deps.recordSender.runOnce bridge call)) = [] := by
              apply merges_eq_nil
              intro attempt member
              rcases deps.recordSender.merge_mem_runOnce.mp member with ⟨_, _, _, attempts, -⟩
              exact admitted ⟨_, _, attempts.toAdmits⟩
            rw [Routine.plan, none]
            exact List.Pairwise.nil
        · intro last
          constructor
          · intro own profileName profile other
            cases other
          · intro own profileName profile same _ admits
            cases same
            exact (permanentLast_recordSender_iff deps admits).mpr last
    | _ =>
        rw [Routine.quiet_merges rfl]
        constructor
        · intro _
          exact List.Pairwise.nil
        · intro _
          constructor
          · intro call profileName profile other
            cases other
          · intro call profileName profile other
            cases other
  · rw [Routine.performed, if_neg running]
    constructor
    · intro _
      exact List.Pairwise.nil
    · intro _
      constructor
      · intro call profileName profile _ isRunning
        exact absurd isRunning running
      · intro call profileName profile _ isRunning
        exact absurd isRunning running

/-- Every step runs to its end. -/
def Uncrashed (steps : List BridgeStep) : Prop :=
  ∀ step ∈ steps, ∃ routine, step = .complete routine

/-- The calls of the senders are made at these times, each no earlier than the
one before. -/
def Ordered (steps : List BridgeStep) : Prop :=
  (steps.filterMap fun step => step.routine.now).Pairwise (· ≤ ·)

section Runs

variable {deps : BridgeDeps} {init : BridgeState} {steps : List BridgeStep}

theorem breakerStep_of_uncrashed {step : BridgeStep} (uncrashed : Uncrashed (step :: steps)) :
    BreakerStep deps step.routine.now init.breaker (merges (step.trace deps init))
      (init.replay (step.trace deps init)).breaker := by
  rcases uncrashed step List.mem_cons_self with ⟨routine, rfl⟩
  exact breakerStep_performed deps init routine

theorem Uncrashed.tail {step : BridgeStep} (uncrashed : Uncrashed (step :: steps)) :
    Uncrashed steps := by
  intro other member
  exact uncrashed other (List.mem_cons_of_mem _ member)

theorem silence_of_sameConfig {breaker next : CircuitBreaker} (same : next.SameConfig breaker)
    {earlier later : MergeAttempt} (silence : Silence deps next earlier later) :
    Silence deps breaker earlier later := by
  intro opens here
  rw [← same.1]
  apply silence _ here
  rw [opens_of_sameConfig same]
  exact opens

theorem sameConfig_final (uncrashed : Uncrashed steps) :
    ((bridgeMachine deps).final init steps).breaker.SameConfig init.breaker := by
  induction steps generalizing init with
  | nil => exact ⟨rfl, rfl⟩
  | cons step steps ih =>
      have first := (@breakerStep_of_uncrashed deps init steps step uncrashed).sameConfig
      have later := @ih (init.replay (step.trace deps init)) uncrashed.tail
      exact ⟨later.1.trans first.1, later.2.trans first.2⟩

theorem Ordered.tail {step : BridgeStep} (ordered : Ordered (step :: steps)) :
    Ordered steps := by
  cases time : step.routine.now with
  | none => simpa [Ordered, time] using ordered
  | some now =>
      simp only [Ordered, List.filterMap_cons, time, List.pairwise_cons] at ordered
      exact ordered.2

theorem Ordered.le {step other : BridgeStep} (ordered : Ordered (step :: steps))
    (member : other ∈ steps) {now later : Instant} (time : step.routine.now = some now)
    (laterTime : other.routine.now = some later) : now ≤ later := by
  simp only [Ordered, List.filterMap_cons, time, List.pairwise_cons] at ordered
  exact ordered.1 later (List.mem_filterMap.mpr ⟨other, member, laterTime⟩)

/-- A guarded breaker silences a run in which permanent errors come last. -/
theorem guarded_run {time : Int} {history : List MergeAttempt}
    (guarded : Guarded deps init.breaker time history) (uncrashed : Uncrashed steps)
    (ordered : Ordered steps)
    (bounded : ∀ step ∈ steps, ∀ now ∈ step.routine.now, time ≤ now.micros)
    (last : (bridgeMachine deps).Meets (PermanentLast deps) init steps) :
    (∀ earlier ∈ history, ∀ later ∈ merges ((bridgeMachine deps).trace init steps),
      Silence deps init.breaker earlier later) ∧ OpenStopsSending deps init steps := by
  induction steps generalizing init time history with
  | nil =>
      constructor
      · intro _ _ later impossible
        exact absurd impossible List.not_mem_nil
      · exact List.Pairwise.nil
  | cons step steps ih =>
      rcases uncrashed step List.mem_cons_self with ⟨routine, rfl⟩
      have calm := (permanentLast_iff deps init routine).mp last.1
      have acts := breakerStep_performed deps init routine
      rcases guarded.step acts (bounded _ List.mem_cons_self) calm with ⟨still, respected⟩
      have boundedTail : ∀ other ∈ steps, ∀ later ∈ other.routine.now,
          routine.now.elim time Instant.micros ≤ later.micros := by
        intro other member later laterTime
        cases now : routine.now with
        | none => exact bounded other (List.mem_cons_of_mem _ member) later laterTime
        | some moment => exact ordered.le member now laterTime
      rcases ih still uncrashed.tail ordered.tail boundedTail last.2 with ⟨fromHistory, amongLater⟩
      have split : merges ((bridgeMachine deps).trace init (.complete routine :: steps)) =
          merges (routine.performed deps init) ++
            merges ((bridgeMachine deps).trace (init.replay (routine.performed deps init))
              steps) :=
        merges_append _ _
      constructor
      · intro earlier old later new
        rw [split] at new
        rcases List.mem_append.mp new with here | afterwards
        · exact respected earlier old later here
        · exact silence_of_sameConfig acts.sameConfig
            (fromHistory earlier (List.mem_append_left _ old) later afterwards)
      · rw [OpenStopsSending, split]
        refine List.pairwise_append.mpr ⟨?_, ?_, ?_⟩
        · apply calm.imp
          intro earlier later quiet opens
          rw [quiet] at opens
          cases opens
        · apply amongLater.imp
          intro earlier later silence
          exact silence_of_sameConfig acts.sameConfig silence
        · intro earlier here later afterwards
          exact silence_of_sameConfig acts.sameConfig
            (fromHistory earlier (List.mem_append_right _ here) later afterwards)

theorem exists_call_of_merge {attempt : MergeAttempt} (uncrashed : Uncrashed steps)
    (member : attempt ∈ merges ((bridgeMachine deps).trace init steps)) :
    ∃ step ∈ steps, step.routine.now = some attempt.now := by
  rw [mem_merges] at member
  rcases (bridgeMachine deps).mem_trace.mp member with ⟨earlier, step, later, rfl, emitted⟩
  have inSteps : step ∈ earlier ++ step :: later := by simp
  rcases uncrashed step inSteps with ⟨routine, rfl⟩
  have acts := breakerStep_performed deps ((bridgeMachine deps).final init earlier) routine
  have made := mem_merges.mpr emitted
  exact ⟨_, inSteps, (acts.alike made made).2.1⟩

/-- The MERGEs of an ordered run are made at non-decreasing times. -/
theorem ordered_merges (uncrashed : Uncrashed steps) (ordered : Ordered steps) :
    (merges ((bridgeMachine deps).trace init steps)).Pairwise fun earlier later =>
      earlier.now.micros ≤ later.now.micros := by
  induction steps generalizing init with
  | nil => exact List.Pairwise.nil
  | cons step steps ih =>
      rw [Machine.trace, merges_append]
      have acts := @breakerStep_of_uncrashed deps init steps step uncrashed
      refine List.pairwise_append.mpr ⟨?_, ih uncrashed.tail ordered.tail, ?_⟩
      · apply List.pairwise_of_forall_mem_list
        intro earlier first later second
        rw [(acts.alike first second).2.2]
      · intro earlier here later afterwards
        rcases exists_call_of_merge uncrashed.tail afterwards with ⟨other, member, time⟩
        exact ordered.le member (acts.alike here here).2.1 time

theorem exists_lower_bound (steps : List BridgeStep) :
    ∃ time : Int, ∀ step ∈ steps, ∀ now ∈ step.routine.now, time ≤ now.micros := by
  induction steps with
  | nil => exact ⟨0, fun step impossible => absurd impossible List.not_mem_nil⟩
  | cons step steps ih =>
      rcases ih with ⟨time, bound⟩
      refine ⟨min time (step.routine.now.elim time Instant.micros), ?_⟩
      intro other member now same
      rcases List.mem_cons.mp member with rfl | later
      · rw [Option.mem_def.mp same]
        exact min_le_right _ _
      · exact (min_le_left _ _).trans (bound other later now same)

/-- An open circuit stops the senders exactly when its timeout is not positive
or every permanent error answers the last row its call sends. -/
theorem openStopsSending_iff (deps : BridgeDeps) (init : BridgeState) (steps : List BridgeStep)
    (uncrashed : Uncrashed steps) (ordered : Ordered steps) :
    OpenStopsSending deps init steps ↔
      init.breaker.timeout ≤ 0 ∨
        (bridgeMachine deps).Meets (PermanentLast deps) init steps := by
  constructor
  · intro silent
    by_cases idle : init.breaker.timeout ≤ 0
    · exact .inl idle
    · right
      rw [Machine.meets_iff]
      intro earlier step later split
      subst split
      rcases uncrashed step (by simp) with ⟨routine, rfl⟩
      have config := @sameConfig_final deps init earlier
        fun other member => uncrashed other (List.mem_append_left _ member)
      have acts := breakerStep_performed deps ((bridgeMachine deps).final init earlier) routine
      rw [permanentLast_iff]
      rw [OpenStopsSending, Machine.trace_append, merges_append] at silent
      have here := (List.pairwise_append.mp
        (merges_append _ _ ▸ (List.pairwise_append.mp silent).2.1)).1
      -- two MERGEs of one call are simultaneous, so the first opens nothing
      apply List.Pairwise.imp_of_mem _ here
      intro first second inFirst inSecond silence
      rcases acts.alike inFirst inSecond with ⟨name, -, moment⟩
      rw [opens_of_sameConfig config]
      cases opens : deps.opens init.breaker first with
      | false => rfl
      | true =>
          have wait := silence opens name
          rw [moment] at wait
          exact absurd (by omega) idle
  · rintro (idle | last)
    · apply (ordered_merges uncrashed ordered).imp
      intro earlier later order _ _
      omega
    · rcases exists_lower_bound steps with ⟨time, bounded⟩
      have guarded : Guarded deps init.breaker time [] :=
        fun attempt impossible => absurd impossible List.not_mem_nil
      exact (guarded_run guarded uncrashed ordered bounded last).2

end Runs

/-! ## A batch that goes on after the circuit has opened -/

namespace Site

/-- Two events waiting. -/
def twoEvents : BridgeState :=
  bridge [(event "e1").toRow (some "HIME-H-REAP") (time 0),
    (event "e2").toRow (some "HIME-H-REAP") (time 1)] []

/-- The target table does not exist. -/
def noTable : BackendOutcome := answered (.sqlException 0 942 (some "ORA-00942") false)

/-- A permanent error, a call while the circuit is open, and one after its time. -/
def openCircuit : List BridgeStep :=
  [.complete (.senderRunOnce (senderCall 10 noTable)),
    .complete (.senderRunOnce (senderCall 20 (answered (.committed 1)))),
    .complete (.senderRunOnce (senderCall 910 (answered (.committed 1))))]

end Site

/-- The second row is sent although the first one has opened the circuit. -/
theorem not_openStopsSending_batch :
    ¬OpenStopsSending Site.deps Site.twoEvents
      [.complete (.senderRunOnce (Site.senderCall 10 Site.noTable))] := by
  rw [OpenStopsSending]
  decide +kernel

/-- A single row opens the circuit, and nothing is sent for fifteen minutes. -/
theorem openStopsSending_single_row :
    OpenStopsSending Site.deps Site.oneEvent Site.openCircuit := by
  apply (openStopsSending_iff Site.deps Site.oneEvent Site.openCircuit ?_ ?_).mpr
  · right
    refine ⟨?_, ?_, ?_, trivial⟩
    all_goals
      apply (permanentLast_iff _ _ _).mpr
      decide +kernel
  · intro step member
    simp only [Site.openCircuit, List.mem_cons, List.not_mem_nil, or_false] at member
    rcases member with rfl | rfl | rfl <;> exact ⟨_, rfl⟩
  · rw [Ordered]
    decide +kernel

end PresenceLogger.Bridge
