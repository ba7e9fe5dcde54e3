import Mathlib.Data.List.Induction
import PresenceLogger.Library.Number
import PresenceLogger.Storage

/-!
# Debouncing

`PresenceFSM` keeps a candidate state and the time it was first observed.  The module says
in terms of the history alone when a call emits a transition: the candidate stands for the
unbroken run of observations that differ from the current state.
-/

namespace PresenceLogger.Detector

open Library

/-- `State` -/
inductive PresenceState where
  | absent
  | present
  deriving DecidableEq, Repr

/-- The event of a transition to the state. -/
def PresenceState.eventType : PresenceState → EventType
  | .present => .enter
  | .absent => .exit

structure FSMConfig where
  enterSeconds : Number
  exitSeconds : Number
  deriving DecidableEq, Repr

structure Observation where
  present : Bool
  score : Number
  monotonicNs : Int
  deriving DecidableEq, Repr

/-- The state an observation shows. -/
def Observation.observed (obs : Observation) : PresenceState :=
  if obs.present then .present else .absent

/-- `int(seconds * 1_000_000_000)`; a product past the largest double is an infinity, which
`int` does not take. -/
def wholeNanoseconds : Number → Except PyError Int
  | .int seconds => .ok (seconds * 1000000000)
  | .float seconds =>
      let product := nearestDouble (seconds * 1000000000)
      if |product| ≤ maxDouble then .ok (product.num.tdiv product.den)
      else .error .overflowError

/-- The threshold for leaving a state towards `observed`. -/
def FSMConfig.thresholdNs (config : FSMConfig) (observed : PresenceState) : Except PyError Int :=
  wholeNanoseconds (if observed = .present then config.enterSeconds else config.exitSeconds)

structure PresenceFSM where
  config : FSMConfig
  state : PresenceState := .absent
  candidateState : Option PresenceState := none
  candidateStartedMonoNs : Option Int := none
  latestScore : Number := .float 0
  deriving DecidableEq, Repr

namespace PresenceFSM

/-- All fields of a `Transition`. -/
structure Transition where
  fromState : PresenceState
  toState : PresenceState
  eventType : EventType
  confirmedAtMonotonicNs : Int
  candidateDurationMs : Int
  latestScore : Number
  reason : Option String := none
  deriving DecidableEq, Repr

/-- The machine in the given state, without a candidate. -/
def settle (fsm : PresenceFSM) (state : PresenceState) : PresenceFSM :=
  { fsm with state := state, candidateState := none, candidateStartedMonoNs := none }

def observe (fsm : PresenceFSM) (obs : Observation) :
    Except PyError (Option Transition × PresenceFSM) :=
  let observed := obs.observed
  let fsm := { fsm with latestScore := obs.score }
  if observed = fsm.state then .ok (none, fsm.settle fsm.state)
  else if fsm.candidateState ≠ some observed then
    .ok (none, { fsm with
      candidateState := some observed
      candidateStartedMonoNs := some obs.monotonicNs })
  else do
    let thresholdNs ← fsm.config.thresholdNs observed
    let elapsedNs := obs.monotonicNs - fsm.candidateStartedMonoNs.getD obs.monotonicNs
    if thresholdNs ≤ elapsedNs then
      let transition :=
        { fromState := fsm.state
          toState := observed
          eventType := observed.eventType
          confirmedAtMonotonicNs := obs.monotonicNs
          candidateDurationMs := elapsedNs / 1000000
          latestScore := obs.score }
      return (some transition, fsm.settle observed)
    else return (none, fsm)

def forceExit (fsm : PresenceFSM) (monotonicNs : Int) (reason : String) :
    Option Transition × PresenceFSM :=
  if fsm.state ≠ .present then (none, fsm)
  else
    let transition :=
      { fromState := .present
        toState := .absent
        eventType := .exit
        confirmedAtMonotonicNs := monotonicNs
        candidateDurationMs := 0
        latestScore := fsm.latestScore
        reason := some reason }
    (some transition, fsm.settle .absent)

/-! ## Histories -/

/-- A call of the main loop. -/
inductive Call where
  | observe (obs : Observation)
  | forceExit (monotonicNs : Int) (reason : String)
  deriving DecidableEq, Repr

def call (fsm : PresenceFSM) : Call → Except PyError (Option Transition × PresenceFSM)
  | .observe obs => fsm.observe obs
  | .forceExit monotonicNs reason => .ok (fsm.forceExit monotonicNs reason)

/-- A call with what it returned. -/
structure Entry where
  call : Call
  result : Option Transition
  deriving DecidableEq, Repr

/-- A history and the machine after it. -/
abbrev Recorded : Type := List Entry × PresenceFSM

def record (recorded : Recorded) (call : Call) : Except PyError Recorded := do
  let (result, next) ← recorded.2.call call
  return (recorded.1 ++ [{ call := call, result := result }], next)

/-- A new machine after the calls. -/
def run (config : FSMConfig) (calls : List Call) : Except PyError Recorded :=
  calls.foldlM record ([], { config := config })

/-! ## What the history says -/

/-- The transitions emitted so far. -/
def transitions (history : List Entry) : List Transition := history.filterMap (·.result)

/-- The state the last transition leads to. -/
def currentState (history : List Entry) : PresenceState :=
  ((transitions history).getLast?.map (·.toState)).getD .absent

def Entry.observation? (entry : Entry) : Option Observation :=
  match entry.call with
  | .observe obs => some obs
  | .forceExit _ _ => none

/-- A run of differing observations is broken by an emission and by an observation equal to
the state. -/
def Entry.breaks (state : PresenceState) (entry : Entry) : Bool :=
  entry.result.isSome || entry.observation?.any fun obs => obs.observed = state

/-- The current unbroken run of observations that differ from the state. -/
def currentRun (history : List Entry) : List Observation :=
  (history.reverse.takeWhile fun entry => !entry.breaks (currentState history)).reverse.filterMap
    Entry.observation?

/-- The observation differs from the state, is not the first of its run, and is the first of
it that comes the threshold after the run's first one. -/
def Confirms (history : List Entry) (thresholdNs : Int) (obs : Observation) : Prop :=
  obs.observed ≠ currentState history ∧
    ∃ first later, currentRun history = first :: later ∧
      thresholdNs ≤ obs.monotonicNs - first.monotonicNs ∧
      ∀ earlier ∈ currentRun history, earlier.monotonicNs - first.monotonicNs < thresholdNs

/-- ENTER and EXIT by turns, ENTER first. -/
def Alternating (events : List EventType) : Prop :=
  ∀ i event, events[i]? = some event → event = if i % 2 = 0 then .enter else .exit

/-! ## One call more -/

section Snoc

variable {history : List Entry} {entry : Entry}

theorem transitions_snoc :
    transitions (history ++ [entry]) = transitions history ++ entry.result.toList := by
  rw [transitions, List.filterMap_append]
  cases result : entry.result <;> simp [transitions, result]

theorem currentState_of_none (quiet : entry.result = none) :
    currentState (history ++ [entry]) = currentState history := by
  simp [currentState, transitions_snoc, quiet]

theorem currentState_of_some {transition : Transition} (emits : entry.result = some transition) :
    currentState (history ++ [entry]) = transition.toState := by
  simp [currentState, transitions_snoc, emits]

theorem currentRun_of_breaks (breaks : entry.breaks (currentState (history ++ [entry])) = true) :
    currentRun (history ++ [entry]) = [] := by
  simp [currentRun, breaks]

theorem currentRun_of_not_breaks
    (unbroken : entry.breaks (currentState history) = false) :
    currentRun (history ++ [entry]) = currentRun history ++ entry.observation?.toList := by
  have quiet : entry.result = none := by
    rw [Entry.breaks, Bool.or_eq_false_iff] at unbroken
    simpa using unbroken.1
  simp only [currentRun, currentState_of_none quiet, List.reverse_append, List.reverse_singleton,
    List.singleton_append]
  rw [List.takeWhile_cons_of_pos (by simp [unbroken]), List.reverse_cons, List.filterMap_append]
  cases observation : entry.observation? <;> simp [observation]

end Snoc

/-! ## The machine and its history -/

end PresenceFSM

/-- The state an observation other than this one shows. -/
def PresenceState.other : PresenceState → PresenceState
  | .absent => .present
  | .present => .absent

theorem PresenceState.ne_iff_eq_other {left right : PresenceState} :
    left ≠ right ↔ left = right.other := by
  cases left <;> cases right <;> decide

namespace PresenceFSM

/-- The state after so many transitions. -/
def stateAfter (count : Nat) : PresenceState := if count % 2 = 0 then .absent else .present

theorem stateAfter_succ (count : Nat) : stateAfter (count + 1) = (stateAfter count).other := by
  unfold stateAfter
  rcases Nat.mod_two_eq_zero_or_one count with even | odd
  · have next : (count + 1) % 2 = 1 := by omega
    simp [even, next, PresenceState.other]
  · have next : (count + 1) % 2 = 0 := by omega
    simp [odd, next, PresenceState.other]

theorem Alternating.snoc {events : List EventType} (alternating : Alternating events) :
    Alternating (events ++ [(stateAfter events.length).other.eventType]) := by
  intro i event found
  rw [List.getElem?_append] at found
  split at found
  · exact alternating i event found
  next past =>
    obtain ⟨last, rfl⟩ := List.getElem?_eq_some_iff.mp found
    have isLength : i = events.length := by
      simp only [List.length_singleton] at last
      omega
    subst isLength
    unfold stateAfter
    split <;> simp [PresenceState.other, PresenceState.eventType]

/-- The machine holds what its history says: the candidate is the start of the current run,
and nothing in the run has reached the threshold. -/
structure Linked (config : FSMConfig) (thresholdNs : PresenceState → Int)
    (history : List Entry) (fsm : PresenceFSM) : Prop where
  config : fsm.config = config
  state : fsm.state = currentState history
  counted : fsm.state = stateAfter (transitions history).length
  alternating : Alternating ((transitions history).map (·.eventType))
  candidate : fsm.candidateState = (currentRun history).head?.map fun _ => fsm.state.other
  started : fsm.candidateStartedMonoNs = (currentRun history).head?.map (·.monotonicNs)
  below : ∀ first ∈ (currentRun history).head?, ∀ obs ∈ currentRun history,
    obs.monotonicNs - first.monotonicNs < thresholdNs fsm.state.other

section Steps

variable {config : FSMConfig} {thresholdNs : PresenceState → Int} {history : List Entry}
variable {fsm : PresenceFSM}

theorem linked_nil : Linked config thresholdNs [] { config := config } where
  config := rfl
  state := rfl
  counted := rfl
  alternating := fun _ _ absent => by simp [transitions] at absent
  candidate := rfl
  started := rfl
  below := fun _ absent => by simp [currentRun] at absent

/-- The score of the last observation is no part of the link. -/
theorem Linked.scored (linked : Linked config thresholdNs history fsm) (score : Number) :
    Linked config thresholdNs history { fsm with latestScore := score } :=
  ⟨linked.config, linked.state, linked.counted, linked.alternating, linked.candidate,
    linked.started, linked.below⟩

/-- A call that emits nothing and does not break the run adds its observation to it. -/
theorem Linked.extend {entry : Entry} {next : PresenceFSM}
    (linked : Linked config thresholdNs history fsm)
    (unbroken : entry.breaks (currentState history) = false)
    (sameConfig : next.config = fsm.config) (sameState : next.state = fsm.state)
    (candidate : next.candidateState =
      (currentRun history ++ entry.observation?.toList).head?.map fun _ => fsm.state.other)
    (started : next.candidateStartedMonoNs =
      (currentRun history ++ entry.observation?.toList).head?.map (·.monotonicNs))
    (below : ∀ first ∈ (currentRun history ++ entry.observation?.toList).head?,
      ∀ obs ∈ currentRun history ++ entry.observation?.toList,
        obs.monotonicNs - first.monotonicNs < thresholdNs fsm.state.other) :
    Linked config thresholdNs (history ++ [entry]) next := by
  have quiet : entry.result = none := by
    rw [Entry.breaks, Bool.or_eq_false_iff] at unbroken
    simpa using unbroken.1
  have same : transitions (history ++ [entry]) = transitions history := by
    simp [transitions_snoc, quiet]
  rw [← currentRun_of_not_breaks unbroken] at candidate started below
  exact
    { config := sameConfig.trans linked.config
      state := by rw [sameState, linked.state, currentState_of_none quiet]
      counted := by rw [sameState, same, linked.counted]
      alternating := by rw [same]; exact linked.alternating
      candidate := by rw [sameState, candidate]
      started := started
      below := by rw [sameState]; exact below }

/-- An observation equal to the state ends the run. -/
theorem Linked.equal {entry : Entry} {obs : Observation}
    (linked : Linked config thresholdNs history fsm) (quiet : entry.result = none)
    (observes : entry.observation? = some obs) (equal : obs.observed = fsm.state) :
    Linked config thresholdNs (history ++ [entry]) (fsm.settle fsm.state) := by
  have same : transitions (history ++ [entry]) = transitions history := by
    simp [transitions_snoc, quiet]
  have sameState : currentState (history ++ [entry]) = currentState history :=
    currentState_of_none quiet
  have ended : currentRun (history ++ [entry]) = [] := by
    apply currentRun_of_breaks
    simp [Entry.breaks, observes, sameState, equal, linked.state]
  exact
    { config := linked.config
      state := linked.state.trans sameState.symm
      counted := by rw [same]; exact linked.counted
      alternating := by rw [same]; exact linked.alternating
      candidate := by simp [ended, settle]
      started := by simp [ended, settle]
      below := by simp [ended] }

/-- An emission ends the run and turns the state. -/
theorem Linked.emit {entry : Entry} {transition : Transition}
    (linked : Linked config thresholdNs history fsm) (emits : entry.result = some transition)
    (turns : transition.toState = fsm.state.other)
    (event : transition.eventType = transition.toState.eventType) :
    Linked config thresholdNs (history ++ [entry]) (fsm.settle transition.toState) := by
  have more : transitions (history ++ [entry]) = transitions history ++ [transition] := by
    simp [transitions_snoc, emits]
  have ended : currentRun (history ++ [entry]) = [] := by
    apply currentRun_of_breaks
    simp [Entry.breaks, emits]
  refine
    { config := linked.config
      state := (currentState_of_some emits).symm
      counted := ?_
      alternating := ?_
      candidate := by simp [ended, settle]
      started := by simp [ended, settle]
      below := by simp [ended] }
  · rw [more, List.length_append, List.length_singleton, stateAfter_succ, ← linked.counted]
    exact turns
  · have next := linked.alternating.snoc
    rw [List.length_map, ← linked.counted, ← turns, ← event] at next
    rw [more, List.map_append]
    exact next

/-! ## One call -/

variable {obs : Observation}

theorem observe_equal (equal : obs.observed = fsm.state) :
    fsm.observe obs = .ok (none, { fsm with latestScore := obs.score }.settle fsm.state) := by
  rw [PresenceFSM.observe, if_pos equal]

theorem observe_first (differs : obs.observed ≠ fsm.state)
    (first : fsm.candidateState ≠ some obs.observed) :
    fsm.observe obs = .ok (none, { fsm with
      candidateState := some obs.observed
      candidateStartedMonoNs := some obs.monotonicNs
      latestScore := obs.score }) := by
  rw [PresenceFSM.observe, if_neg differs, if_pos first]

variable {startedNs limitNs : Int}

theorem observe_confirmed (differs : obs.observed ≠ fsm.state)
    (candidate : fsm.candidateState = some obs.observed)
    (started : fsm.candidateStartedMonoNs = some startedNs)
    (limit : fsm.config.thresholdNs obs.observed = .ok limitNs)
    (reached : limitNs ≤ obs.monotonicNs - startedNs) :
    ∃ transition : Transition, transition.toState = obs.observed ∧
      transition.eventType = obs.observed.eventType ∧
      fsm.observe obs = .ok (some transition,
        { fsm with latestScore := obs.score }.settle transition.toState) := by
  simp [PresenceFSM.observe, differs, candidate, started, limit, reached, pure, Except.pure, bind,
    Except.bind]

theorem observe_waiting (differs : obs.observed ≠ fsm.state)
    (candidate : fsm.candidateState = some obs.observed)
    (started : fsm.candidateStartedMonoNs = some startedNs)
    (limit : fsm.config.thresholdNs obs.observed = .ok limitNs)
    (short : obs.monotonicNs - startedNs < limitNs) :
    fsm.observe obs = .ok (none, { fsm with latestScore := obs.score }) := by
  have below : ¬ limitNs ≤ obs.monotonicNs - startedNs := by omega
  simp [PresenceFSM.observe, differs, candidate, started, limit, below, pure, Except.pure, bind,
    Except.bind]

theorem forceExit_present (present : fsm.state = .present) (monotonicNs : Int) (reason : String) :
    ∃ transition : Transition, transition.toState = .absent ∧ transition.eventType = .exit ∧
      fsm.forceExit monotonicNs reason = (some transition, fsm.settle transition.toState) := by
  simp [PresenceFSM.forceExit, present]

/-- One observation: it emits exactly when it confirms the run, and keeps the link. -/
theorem Linked.observe
    (thresholds : ∀ observed, config.thresholdNs observed = .ok (thresholdNs observed))
    (positive : ∀ observed, 1 ≤ thresholdNs observed)
    (linked : Linked config thresholdNs history fsm) (obs : Observation) :
    ∃ result next, fsm.observe obs = .ok (result, next) ∧
      Linked config thresholdNs (history ++ [{ call := .observe obs, result := result }]) next ∧
      (result.isSome ↔ Confirms history (thresholdNs obs.observed) obs) := by
  have scored := linked.scored obs.score
  by_cases equal : obs.observed = fsm.state
  · refine ⟨none, _, observe_equal equal, scored.equal rfl rfl equal, ?_⟩
    simp [Confirms, ← linked.state, equal]
  have other : obs.observed = fsm.state.other := PresenceState.ne_iff_eq_other.mp equal
  have unbroken :
      (Entry.mk (.observe obs) none).breaks (currentState history) = false := by
    simp [Entry.breaks, Entry.observation?, ← linked.state, equal]
  have limit : fsm.config.thresholdNs obs.observed = .ok (thresholdNs obs.observed) := by
    rw [linked.config, thresholds]
  cases isRun : currentRun history with
  | nil =>
      have fresh : fsm.candidateState ≠ some obs.observed := by
        simp [linked.candidate, isRun]
      refine ⟨none, _, observe_first equal fresh,
        scored.extend unbroken rfl rfl ?_ ?_ ?_, ?_⟩
      · simp [isRun, Entry.observation?, other]
      · simp [isRun, Entry.observation?]
      · simpa [isRun, Entry.observation?] using Int.lt_of_lt_of_le one_pos (positive _)
      · simp [Confirms, isRun]
  | cons first later =>
      have candidate : fsm.candidateState = some obs.observed := by
        simp [linked.candidate, isRun, other]
      have started : fsm.candidateStartedMonoNs = some first.monotonicNs := by
        simp [linked.started, isRun]
      have below := linked.below first (by simp [isRun])
      by_cases reached : thresholdNs obs.observed ≤ obs.monotonicNs - first.monotonicNs
      · obtain ⟨transition, turns, event, emits⟩ :=
          observe_confirmed equal candidate started limit reached
        refine ⟨some transition, _, emits,
          scored.emit rfl (turns.trans other) (event.trans (by rw [turns])), ?_⟩
        have confirms : Confirms history (thresholdNs obs.observed) obs :=
          ⟨linked.state ▸ equal, first, later, isRun, reached, other ▸ below⟩
        simpa using confirms
      · have short : obs.monotonicNs - first.monotonicNs < thresholdNs obs.observed := by omega
        refine ⟨none, _, observe_waiting equal candidate started limit short,
          scored.extend unbroken rfl rfl ?_ ?_ ?_, ?_⟩
        · simp [isRun, candidate, other]
        · simp [isRun, started]
        · simp only [isRun, List.cons_append, List.head?_cons, Option.mem_some_iff]
          rintro _ rfl earlier member
          rw [← List.cons_append, ← isRun] at member
          rcases List.mem_append.mp member with before | last
          · exact below earlier before
          · cases Option.some.inj (Option.mem_toList.mp last)
            exact other ▸ short
        · simp only [Option.isSome_none, Bool.false_eq_true, false_iff]
          rintro ⟨-, start, rest, sameRun, late, -⟩
          rw [isRun] at sameRun
          cases sameRun
          exact reached late

/-- `force_exit` emits exactly when the state is PRESENT, and keeps the link. -/
theorem Linked.forceExit (linked : Linked config thresholdNs history fsm) (monotonicNs : Int)
    (reason : String) :
    Linked config thresholdNs
      (history ++ [{ call := .forceExit monotonicNs reason,
                     result := (fsm.forceExit monotonicNs reason).1 }])
      (fsm.forceExit monotonicNs reason).2 ∧
    ((fsm.forceExit monotonicNs reason).1.isSome ↔ currentState history = .present) := by
  rw [← linked.state]
  by_cases present : fsm.state = .present
  · obtain ⟨transition, absent, exits, emitted⟩ := forceExit_present present monotonicNs reason
    have turns : transition.toState = fsm.state.other := by
      rw [absent, present]
      rfl
    rw [emitted]
    exact ⟨linked.emit rfl turns (by rw [exits, absent]; rfl), by simp [present]⟩
  · have unchanged : fsm.forceExit monotonicNs reason = (none, fsm) := by
      simp [PresenceFSM.forceExit, present]
    rw [unchanged]
    refine ⟨linked.extend rfl rfl rfl ?_ ?_ ?_, by simp [present]⟩
    · simpa [Entry.observation?] using linked.candidate
    · simpa [Entry.observation?] using linked.started
    · simpa [Entry.observation?] using linked.below

/-! ## Every history -/

theorem Linked.record
    (thresholds : ∀ observed, config.thresholdNs observed = .ok (thresholdNs observed))
    (positive : ∀ observed, 1 ≤ thresholdNs observed)
    (linked : Linked config thresholdNs history fsm) (call : Call) :
    ∃ result next, record (history, fsm) call =
        .ok (history ++ [{ call := call, result := result }], next) ∧
      Linked config thresholdNs (history ++ [{ call := call, result := result }]) next := by
  cases call with
  | observe obs =>
      obtain ⟨result, next, returns, keeps, -⟩ := linked.observe thresholds positive obs
      refine ⟨result, next, ?_, keeps⟩
      simp [PresenceFSM.record, PresenceFSM.call, returns, bind, Except.bind, pure, Except.pure]
  | forceExit monotonicNs reason =>
      exact ⟨_, _, rfl, (linked.forceExit monotonicNs reason).1⟩

theorem run_snoc (calls : List Call) (call : Call) :
    run config (calls ++ [call]) = run config calls >>= fun recorded => record recorded call := by
  simp [run, List.foldlM_append]

theorem exists_linked_run
    (thresholds : ∀ observed, config.thresholdNs observed = .ok (thresholdNs observed))
    (positive : ∀ observed, 1 ≤ thresholdNs observed) (calls : List Call) :
    ∃ history fsm, run config calls = .ok (history, fsm) ∧ history.map (·.call) = calls ∧
      Linked config thresholdNs history fsm := by
  induction calls using List.reverseRecOn with
  | nil => exact ⟨[], _, rfl, rfl, linked_nil⟩
  | append_singleton calls call ih =>
      obtain ⟨history, fsm, runs, same, linked⟩ := ih
      obtain ⟨result, next, returns, keeps⟩ := linked.record thresholds positive call
      refine ⟨_, next, ?_, ?_, keeps⟩
      · rw [run_snoc, runs]
        exact returns
      · rw [List.map_append, same]
        rfl

/-- The debounced events of every history of calls: ENTER and EXIT alternate; the next
observation emits exactly when it is the first of its run that comes the threshold after the
run's first, and the next `force_exit` exactly in the state PRESENT.  The times need not be
ordered. -/
theorem observe_emits_iff_confirms
    (thresholds : ∀ observed, config.thresholdNs observed = .ok (thresholdNs observed))
    (positive : ∀ observed, 1 ≤ thresholdNs observed) (calls : List Call) :
    ∃ history fsm, run config calls = .ok (history, fsm) ∧ history.map (·.call) = calls ∧
      fsm.state = currentState history ∧
      Alternating ((transitions history).map (·.eventType)) ∧
      (∀ obs, ∃ result next,
        run config (calls ++ [.observe obs]) =
          .ok (history ++ [{ call := .observe obs, result := result }], next) ∧
        (result.isSome ↔ Confirms history (thresholdNs obs.observed) obs)) ∧
      ∀ monotonicNs reason, ∃ result next,
        run config (calls ++ [.forceExit monotonicNs reason]) =
          .ok (history ++ [{ call := .forceExit monotonicNs reason, result := result }], next) ∧
        (result.isSome ↔ fsm.state = .present) := by
  obtain ⟨history, fsm, runs, same, linked⟩ := exists_linked_run thresholds positive calls
  refine ⟨history, fsm, runs, same, linked.state, linked.alternating, ?_, ?_⟩
  · intro obs
    obtain ⟨result, next, returns, -, emits⟩ := linked.observe thresholds positive obs
    refine ⟨result, next, ?_, emits⟩
    rw [run_snoc, runs]
    simp [PresenceFSM.record, PresenceFSM.call, returns, bind, Except.bind, pure, Except.pure]
  · intro monotonicNs reason
    have emits := (linked.forceExit monotonicNs reason).2
    rw [← linked.state] at emits
    refine ⟨_, (fsm.forceExit monotonicNs reason).2, ?_, emits⟩
    rw [run_snoc, runs]
    rfl

end Steps

theorem thresholdNs_three (observed : PresenceState) :
    FSMConfig.thresholdNs { enterSeconds := .float 3, exitSeconds := .float 3 } observed =
      .ok 3000000000 := by
  have exact_product : nearestDouble (3 * 1000000000) = ((3000000000 : Int) : ℚ) := by
    rw [← nearestDouble_intCast (n := 3000000000) (by norm_num)]
    norm_num
  have finite : |((3000000000 : Int) : ℚ)| ≤ maxDouble := by
    calc |((3000000000 : Int) : ℚ)| ≤ 2 ^ 53 - 1 := by norm_num
      _ ≤ maxDouble := le_mul_of_one_le_right (by norm_num) (one_le_pow₀ (by norm_num))
  simp only [FSMConfig.thresholdNs, ite_self, wholeNanoseconds, exact_product]
  rw [if_pos finite]
  rfl

/-- Someone is in front of the camera or not, at so many seconds. -/
def seenAt (present : Bool) (seconds : Int) : Observation :=
  { present := present, score := .float (9 / 10), monotonicNs := seconds * 1000000000 }

/-- A visit of four seconds, and a second one that begins after it. -/
def visits : List Call :=
  [.observe (seenAt true 0), .observe (seenAt true 3), .observe (seenAt false 4),
    .observe (seenAt false 7), .observe (seenAt true 8), .observe (seenAt true 10)]

/-- What `visits` returns: ENTER, then EXIT. -/
def visited : List Entry :=
  [⟨.observe (seenAt true 0), none⟩,
    ⟨.observe (seenAt true 3),
      some ⟨.absent, .present, .enter, 3000000000, 3000, .float (9 / 10), none⟩⟩,
    ⟨.observe (seenAt false 4), none⟩,
    ⟨.observe (seenAt false 7),
      some ⟨.present, .absent, .exit, 7000000000, 3000, .float (9 / 10), none⟩⟩,
    ⟨.observe (seenAt true 8), none⟩, ⟨.observe (seenAt true 10), none⟩]

theorem run_visits :
    ∃ fsm, run { enterSeconds := .float 3, exitSeconds := .float 3 } visits =
      .ok (visited, fsm) := by
  simp [run, visits, visited, record, PresenceFSM.call, observe, settle, Observation.observed,
    PresenceState.eventType, thresholdNs_three, seenAt, bind, Except.bind, pure, Except.pure]

/-- The observation at 11 s confirms the second visit. -/
theorem observe_emits_iff_confirms_three :
    Alternating ((transitions visited).map (·.eventType)) ∧
      Confirms visited 3000000000 (seenAt true 11) ∧
      ∃ result next, run { enterSeconds := .float 3, exitSeconds := .float 3 }
          (visits ++ [.observe (seenAt true 11)]) =
          .ok (visited ++ [⟨.observe (seenAt true 11), result⟩], next) ∧ result.isSome := by
  obtain ⟨fsm, isRun⟩ := run_visits
  obtain ⟨history, fsm', runs, -, -, alternating, emits, -⟩ :=
    @observe_emits_iff_confirms _ (fun _ => 3000000000) thresholdNs_three
      (fun _ => by decide) visits
  rw [isRun, Except.ok.injEq, Prod.mk.injEq] at runs
  obtain ⟨rfl, -⟩ := runs
  obtain ⟨result, next, returns, isSome⟩ := emits (seenAt true 11)
  have confirms : Confirms visited 3000000000 (seenAt true 11) :=
    ⟨by decide, seenAt true 8, [seenAt true 10], rfl, by decide, by decide⟩
  exact ⟨alternating, confirms, result, next, returns, isSome.mpr confirms⟩

end PresenceFSM

end PresenceLogger.Detector
