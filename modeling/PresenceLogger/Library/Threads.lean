import PresenceLogger.Library.Run

/-!
# Threads that share a memory

A thread is idle or stands at a point of the routine it runs.  Every point is one
atomic action on the shared memory, and the threads take their actions in any
order.  An outline gives each point an assertion; as in the method of Owicki and
Gries, it is sound when every action establishes the next assertion of its own
thread and leaves those of the others alone.
-/

namespace PresenceLogger.Library

universe u

/-- What one atomic action leaves behind: the memory, the point its thread stands
at next, if it has one, and what it emits. -/
structure Outcome (μ κ ο : Type*) where
  memory : μ
  point : Option κ
  emits : List ο

/-- The routines of several threads. A routine starts with its first action. -/
structure Program (τ γ κ μ ι ο ρ : Type*) where
  thread : γ → τ
  start : μ → γ → Outcome μ κ ο
  resume : μ → κ → ι → Outcome μ κ ο
  /-- The threads that a crash ends. -/
  ends : ρ → τ → Bool
  restart : μ → ρ → μ

/-- The memory, and where each thread stands. -/
structure ThreadState (τ κ μ : Type*) where
  memory : μ
  point : τ → Option κ

inductive ThreadStep (τ γ ι ρ : Type*) where
  /-- A routine is called; a thread that is busy does not take it. -/
  | call (routine : γ)
  | resume (thread : τ) (input : ι)
  | crash (which : ρ)

namespace Program

variable {τ γ κ μ ι ο ρ : Type*} [DecidableEq τ] (program : Program τ γ κ μ ι ο ρ)

/-- The state after an action of one thread. -/
def install (state : ThreadState τ κ μ) (thread : τ) (outcome : Outcome μ κ ο) :
    ThreadState τ κ μ where
  memory := outcome.memory
  point := Function.update state.point thread outcome.point

@[simp] theorem install_point_self (state : ThreadState τ κ μ) (thread : τ)
    (outcome : Outcome μ κ ο) : (install state thread outcome).point thread = outcome.point := by
  simp only [install, Function.update_self]

theorem install_point_of_ne (state : ThreadState τ κ μ) {thread bystander : τ}
    (outcome : Outcome μ κ ο) (apart : bystander ≠ thread) :
    (install state thread outcome).point bystander = state.point bystander := by
  simp only [install, Function.update_of_ne apart]

/-- A thread stands where it came to, or where it was. -/
theorem of_install_point {state : ThreadState τ κ μ} {thread other : τ}
    {outcome : Outcome μ κ ο} {point : κ}
    (stands : (install state thread outcome).point other = some point) :
    other = thread ∧ outcome.point = some point ∨
      other ≠ thread ∧ state.point other = some point := by
  by_cases here : other = thread
  · subst here
    rw [install_point_self] at stands
    exact .inl ⟨rfl, stands⟩
  · rw [install_point_of_ne state outcome here] at stands
    exact .inr ⟨here, stands⟩

@[simp] theorem install_memory (state : ThreadState τ κ μ) (thread : τ)
    (outcome : Outcome μ κ ο) : (install state thread outcome).memory = outcome.memory := rfl

@[simp] theorem install_install (state : ThreadState τ κ μ) (thread : τ)
    (first second : Outcome μ κ ο) :
    install (install state thread first) thread second = install state thread second := by
  simp only [install, Function.update_idem]

def step (state : ThreadState τ κ μ) :
    ThreadStep τ γ ι ρ → ThreadState τ κ μ × List ο
  | .call routine =>
      match state.point (program.thread routine) with
      | some _ => (state, [])
      | none =>
          let outcome := program.start state.memory routine
          (install state (program.thread routine) outcome, outcome.emits)
  | .resume thread input =>
      match state.point thread with
      | none => (state, [])
      | some point =>
          let outcome := program.resume state.memory point input
          (install state thread outcome, outcome.emits)
  | .crash which =>
      ({ memory := program.restart state.memory which
         point := fun thread => if program.ends which thread then none else state.point thread },
        [])

/-- The other threads stand where they stood. -/
theorem step_resume_point_of_ne (state : ThreadState τ κ μ) {thread bystander : τ}
    (apart : bystander ≠ thread) (input : ι) :
    (program.step state (.resume thread input)).1.point bystander = state.point bystander := by
  simp only [step]
  split
  · rfl
  · exact install_point_of_ne state _ apart

theorem step_call_point_of_ne (state : ThreadState τ κ μ) {routine : γ} {bystander : τ}
    (apart : bystander ≠ program.thread routine) :
    (program.step state (.call routine)).1.point bystander = state.point bystander := by
  simp only [step]
  split
  · rfl
  · exact install_point_of_ne state _ apart

/-- One thread acts, by a call or from the point it stands at. -/
inductive Acts (state : ThreadState τ κ μ) : ThreadStep τ γ ι ρ → τ → Outcome μ κ ο → Prop where
  | call (routine : γ) (free : state.point (program.thread routine) = none) :
      Acts state (.call routine) (program.thread routine) (program.start state.memory routine)
  | resume (thread : τ) (input : ι) (point : κ) (stands : state.point thread = some point) :
      Acts state (.resume thread input) thread (program.resume state.memory point input)

/-- An action is the step it belongs to. -/
theorem Acts.step_eq {state : ThreadState τ κ μ} {step : ThreadStep τ γ ι ρ} {thread : τ}
    {outcome : Outcome μ κ ο} (acts : program.Acts state step thread outcome) :
    program.step state step = (install state thread outcome, outcome.emits) := by
  cases acts with
  | call routine free => simp only [Program.step, free]
  | resume thread input point stands => simp only [Program.step, stands]

def machine : Machine (ThreadState τ κ μ) (ThreadStep τ γ ι ρ) ο where
  step := program.step

/-- A memory in which no thread runs. -/
def idle (memory : μ) : ThreadState τ κ μ where
  memory := memory
  point _ := none

theorem install_idle {memory : μ} {thread : τ} {outcome : Outcome μ κ ο}
    (done : outcome.point = none) :
    install (idle memory) thread outcome = idle outcome.memory := by
  simp only [install, done, idle]
  rw [Function.update_eq_self_iff.mpr rfl]

/-- A routine that goes on from an outcome without another thread coming in
between, as far as its inputs go. -/
def alone (outcome : Outcome μ κ ο) : List ι → Outcome μ κ ο
  | [] => outcome
  | input :: inputs =>
      match outcome.point with
      | none => outcome
      | some point =>
          let next := program.resume outcome.memory point input
          alone { next with emits := outcome.emits ++ next.emits } inputs

/-- The actions of such a routine. -/
def resumes (thread : τ) (inputs : List ι) : List (ThreadStep τ γ ι ρ) :=
  inputs.map (.resume thread)

omit [DecidableEq τ] in
theorem alone_done {outcome : Outcome μ κ ο} (done : outcome.point = none) (inputs : List ι) :
    program.alone outcome inputs = outcome := by
  cases inputs with
  | nil => rfl
  | cons input inputs => simp only [alone, done]

theorem alone_resumes (memory : μ) (thread : τ) (outcome : Outcome μ κ ο) (inputs : List ι) :
    program.machine.final (install (idle memory) thread outcome) (resumes thread inputs) =
        install (idle memory) thread (program.alone outcome inputs) ∧
      outcome.emits ++
          program.machine.trace (install (idle memory) thread outcome) (resumes thread inputs) =
        (program.alone outcome inputs).emits := by
  induction inputs generalizing outcome with
  | nil => exact ⟨rfl, List.append_nil _⟩
  | cons input inputs ih =>
      have here : (install (idle memory) thread outcome).point thread = outcome.point :=
        install_point_self _ _ _
      cases stands : outcome.point with
      | none =>
          have stays : program.step (install (idle memory) thread outcome)
              (.resume thread input) = (install (idle memory) thread outcome, []) := by
            simp only [step, here, stands]
          have later := ih outcome
          rw [alone_done program stands] at later ⊢
          simp only [resumes, List.map_cons, Machine.final, Machine.trace, machine, stays]
          exact later
      | some point =>
          have acts : program.step (install (idle memory) thread outcome)
              (.resume thread input) =
              (install (idle memory) thread (program.resume outcome.memory point input),
                (program.resume outcome.memory point input).emits) := by
            rw [(Acts.resume thread input point (here.trans stands)).step_eq, install_install,
              install_memory]
          have later := ih
            { program.resume outcome.memory point input with
              emits := outcome.emits ++ (program.resume outcome.memory point input).emits }
          simp only [resumes, List.map_cons, Machine.final, Machine.trace, machine, acts, alone,
            stands]
          rw [← List.append_assoc]
          exact later

/-- A call in an idle state runs alone until it ends. -/
theorem run_alone {memory : μ} {routine : γ} {inputs : List ι}
    (done : (program.alone (program.start memory routine) inputs).point = none) :
    program.machine.final (idle memory)
        (.call routine :: resumes (program.thread routine) inputs) =
        idle (program.alone (program.start memory routine) inputs).memory ∧
      program.machine.trace (idle memory)
          (.call routine :: resumes (program.thread routine) inputs) =
        (program.alone (program.start memory routine) inputs).emits := by
  rcases program.alone_resumes memory (program.thread routine) (program.start memory routine)
    inputs with ⟨reached, emitted⟩
  rw [install_idle done] at reached
  exact ⟨reached, emitted⟩

/-- A step is an action of one thread, a crash, or nothing. -/
theorem step_cases (state : ThreadState τ κ μ) (step : ThreadStep τ γ ι ρ) :
    (∃ thread outcome, program.Acts state step thread outcome ∧
      program.step state step = (install state thread outcome, outcome.emits)) ∨
    (∃ which, step = .crash which) ∨ program.step state step = (state, []) := by
  cases step with
  | call routine =>
      cases stands : state.point (program.thread routine) with
      | none => exact .inl ⟨_, _, .call routine stands, (Acts.call routine stands).step_eq⟩
      | some point =>
          right
          right
          simp only [Program.step, stands]
  | resume thread input =>
      cases stands : state.point thread with
      | none =>
          right
          right
          simp only [Program.step, stands]
      | some point =>
          exact .inl ⟨_, _, .resume thread input point stands,
            (Acts.resume thread input point stands).step_eq⟩
  | crash which => exact .inr (.inl ⟨which, rfl⟩)

/-- Assertions about the memory: one that always holds, and one for each point. -/
structure Assertions (τ κ μ : Type*) where
  always : μ → Prop
  knows : τ → κ → μ → Prop

def Assertions.Holds (assertions : Assertions τ κ μ) (state : ThreadState τ κ μ) : Prop :=
  assertions.always state.memory ∧
    ∀ thread point, state.point thread = some point →
      assertions.knows thread point state.memory

/-- A sound outline: what each action needs to preserve, under a condition on
the steps of the run. -/
structure Outline (allowed : ThreadState τ κ μ → ThreadStep τ γ ι ρ → Prop) extends
    Assertions τ κ μ where
  /-- An action keeps the invariant and establishes its thread's next assertion. -/
  own : ∀ state step thread outcome, toAssertions.Holds state → allowed state step →
    program.Acts state step thread outcome →
    always outcome.memory ∧ ∀ point ∈ outcome.point, knows thread point outcome.memory
  /-- No action interferes with another thread's assertion. -/
  other : ∀ state step thread outcome, toAssertions.Holds state → allowed state step →
    program.Acts state step thread outcome → ∀ bystander point, bystander ≠ thread →
    state.point bystander = some point → knows bystander point outcome.memory
  crash : ∀ state which, toAssertions.Holds state → allowed state (.crash which) →
    always (program.restart state.memory which) ∧
      ∀ thread point, program.ends which thread = false → state.point thread = some point →
        knows thread point (program.restart state.memory which)

namespace Outline

variable {program} {allowed : ThreadState τ κ μ → ThreadStep τ γ ι ρ → Prop}
  (outline : program.Outline allowed)

theorem step {state : ThreadState τ κ μ} {step : ThreadStep τ γ ι ρ}
    (holds : outline.Holds state) (permitted : allowed state step) :
    outline.Holds (program.step state step).1 := by
  rcases program.step_cases state step with ⟨thread, outcome, acts, same⟩ | ⟨which, rfl⟩ | same
  · rw [same]
    rcases outline.own state step thread outcome holds permitted acts with ⟨still, next⟩
    refine ⟨still, ?_⟩
    intro bystander point stands
    rcases of_install_point stands with ⟨rfl, here⟩ | ⟨apart, there⟩
    · exact next point here
    · exact outline.other state step thread outcome holds permitted acts bystander point apart there
  · rcases outline.crash state which holds permitted with ⟨still, survivors⟩
    refine ⟨still, ?_⟩
    intro thread point stands
    simp only [Program.step] at stands
    split at stands
    · cases stands
    next alive => exact survivors thread point (by simpa using alive) stands
  · rw [same]
    exact holds

/-- The outline holds at every state a permitted run reaches. -/
theorem run {state : ThreadState τ κ μ} {steps : List (ThreadStep τ γ ι ρ)}
    (holds : outline.Holds state) (meets : program.machine.Meets allowed state steps) :
    outline.Holds (program.machine.final state steps) := by
  have kept : ∀ state step, outline.Holds state → allowed state step →
      outline.Holds (program.machine.step state step).1 :=
    fun _ _ here permitted => outline.step here permitted
  exact Machine.stateInvariant kept holds meets

end Outline

/-! ## Sections -/

section Sections

variable (inside : κ → Bool)

/-- No other thread is inside a section. -/
def Alone (state : ThreadState τ κ μ) (thread : τ) : Prop :=
  ∀ other point, other ≠ thread → state.point other = some point → inside point = false

/-- What the only thread inside knows, and what holds while no thread is inside. -/
def Knows (within : κ → μ → Prop) (free : μ → Prop) (memory : μ) : Option κ → Prop
  | none => free memory
  | some point => if inside point then within point memory else free memory

/-- One thread at most is inside a section, and it knows what its point says. -/
structure Exclusive (within : κ → μ → Prop) (free : μ → Prop) (state : ThreadState τ κ μ) :
    Prop where
  alone : ∀ thread point, state.point thread = some point → inside point = true →
    Alone inside state thread
  knows : ∀ thread, Alone inside state thread →
    Knows inside within free state.memory (state.point thread)

variable {inside} {within : κ → μ → Prop} {free : μ → Prop}

theorem knows_of_outside {memory : μ} {point : Option κ}
    (outside : ∀ here ∈ point, inside here = false) :
    Knows inside within free memory point ↔ free memory := by
  cases point with
  | none => exact Iff.rfl
  | some here => rw [Knows, outside here rfl, if_neg Bool.false_ne_true]

theorem Alone.install {state : ThreadState τ κ μ} {thread : τ} {outcome : Outcome μ κ ο}
    (alone : Alone inside state thread) : Alone inside (install state thread outcome) thread := by
  intro other point apart stands
  rw [install_point_of_ne state outcome apart] at stands
  exact alone other point apart stands

/-- An action of a thread while no other is inside. -/
theorem Exclusive.install_alone {state : ThreadState τ κ μ} {thread : τ}
    {outcome : Outcome μ κ ο} (alone : Alone inside state thread)
    (knows : Knows inside within free outcome.memory outcome.point) :
    Exclusive inside within free (install state thread outcome) where
  alone := by
    intro other point stands isInside
    obtain ⟨rfl, -⟩ | ⟨apart, there⟩ := of_install_point stands
    · exact alone.install
    · cases isInside.symm.trans (alone other point apart there)
  knows := by
    intro other otherAlone
    by_cases here : other = thread
    · rw [here, install_point_self]
      exact knows
    · have outside : ∀ point ∈ outcome.point, inside point = false := by
        intro point isPoint
        apply otherAlone thread point (Ne.symm here)
        rwa [install_point_self]
      rw [install_point_of_ne state outcome here]
      apply (knows_of_outside fun point stands => alone other point here stands).mpr
      exact (knows_of_outside outside).mp knows

/-- An action outside the sections, which leaves what is known alone. -/
theorem Exclusive.install_outside {state : ThreadState τ κ μ} {thread : τ}
    {outcome : Outcome μ κ ο} (exclusive : Exclusive inside within free state)
    (was : ∀ point ∈ state.point thread, inside point = false)
    (comes : ∀ point ∈ outcome.point, inside point = false)
    (same : ∀ point, Knows inside within free state.memory point →
      Knows inside within free outcome.memory point) :
    Exclusive inside within free (install state thread outcome) := by
  have before {other : τ} (alone : Alone inside (install state thread outcome) other) :
      Alone inside state other := by
    intro third point apart stands
    by_cases here : third = thread
    · subst here
      exact was point stands
    · apply alone third point apart
      rwa [install_point_of_ne state outcome here]
  exact {
    alone := by
      intro other point stands isInside third place apart there
      obtain ⟨rfl, here⟩ | ⟨-, stood⟩ := of_install_point stands
      · cases isInside.symm.trans (comes point here)
      obtain ⟨rfl, here⟩ | ⟨-, stood'⟩ := of_install_point there
      · exact comes place here
      · exact exclusive.alone other point stood isInside third place apart stood'
    knows := by
      intro other alone
      have known := same _ (exclusive.knows other (before alone))
      by_cases here : other = thread
      · subst here
        rw [install_point_self]
        exact (knows_of_outside comes).mpr ((knows_of_outside was).mp known)
      · rw [install_point_of_ne state outcome here]
        exact known }

end Sections

end Program

end PresenceLogger.Library
