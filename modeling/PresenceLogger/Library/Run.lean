import Mathlib.Data.List.Basic

/-!
# Runs and their traces

A machine takes one input at a time and emits a list of outputs at each step.
The trace of a run is the concatenation of what its steps emit.  The rules below
turn facts about one step into facts about every run, either as an invariant of
state and history or as an order on the events of the trace.
-/

namespace PresenceLogger.Library

universe u v w

structure Machine (σ : Type u) (ι : Type v) (ο : Type w) where
  step : σ → ι → σ × List ο

namespace Machine

variable {σ : Type u} {ι : Type v} {ο : Type w}

/-- The state after all inputs. -/
def final (machine : Machine σ ι ο) (state : σ) : List ι → σ
  | [] => state
  | input :: inputs => machine.final (machine.step state input).1 inputs

/-- Everything the run emits. -/
def trace (machine : Machine σ ι ο) (state : σ) : List ι → List ο
  | [] => []
  | input :: inputs =>
      (machine.step state input).2 ++ machine.trace (machine.step state input).1 inputs

/-- A condition on each input and the state it meets. -/
def Meets (machine : Machine σ ι ο) (condition : σ → ι → Prop) (state : σ) :
    List ι → Prop
  | [] => True
  | input :: inputs =>
      condition state input ∧ machine.Meets condition (machine.step state input).1 inputs

variable (machine : Machine σ ι ο)

theorem final_append (state : σ) (left right : List ι) :
    machine.final state (left ++ right) = machine.final (machine.final state left) right := by
  induction left generalizing state with
  | nil => rfl
  | cons input left ih => exact ih _

theorem trace_append (state : σ) (left right : List ι) :
    machine.trace state (left ++ right) =
      machine.trace state left ++ machine.trace (machine.final state left) right := by
  induction left generalizing state with
  | nil => rfl
  | cons input left ih =>
      simp only [List.cons_append, trace, final, ih, List.append_assoc]

theorem meets_append (condition : σ → ι → Prop) (state : σ) (left right : List ι) :
    machine.Meets condition state (left ++ right) ↔
      machine.Meets condition state left ∧
        machine.Meets condition (machine.final state left) right := by
  induction left generalizing state with
  | nil => simp [Meets, final]
  | cons input left ih => simp only [List.cons_append, Meets, final, ih, and_assoc]

/-- An output was emitted at some step, in the state the run had reached. -/
theorem mem_trace {state : σ} {inputs : List ι} {output : ο} :
    output ∈ machine.trace state inputs ↔
      ∃ earlier input later, inputs = earlier ++ input :: later ∧
        output ∈ (machine.step (machine.final state earlier) input).2 := by
  constructor
  · intro member
    induction inputs generalizing state with
    | nil => exact absurd member List.not_mem_nil
    | cons input inputs ih =>
        rcases List.mem_append.mp member with here | later
        · exact ⟨[], input, inputs, rfl, here⟩
        · obtain ⟨earlier, other, rest, rfl, emitted⟩ := ih later
          exact ⟨input :: earlier, other, rest, rfl, emitted⟩
  · rintro ⟨earlier, input, later, rfl, emitted⟩
    rw [trace_append]
    exact List.mem_append_right _ (List.mem_append_left _ emitted)

/-- The condition holds at every step of a run that meets it. -/
theorem meets_at {condition : σ → ι → Prop} {state : σ} {before after : List ι} {input : ι}
    (meets : machine.Meets condition state (before ++ input :: after)) :
    condition (machine.final state before) input :=
  ((machine.meets_append condition state before (input :: after)).mp meets).2.1

/-- A run meets a condition when each of its steps does, in the state it is
taken in. -/
theorem meets_iff {condition : σ → ι → Prop} {state : σ} {inputs : List ι} :
    machine.Meets condition state inputs ↔
      ∀ earlier input later, inputs = earlier ++ input :: later →
        condition (machine.final state earlier) input := by
  constructor
  · intro meets earlier input later split
    rw [split] at meets
    exact machine.meets_at meets
  · intro each
    induction inputs generalizing state with
    | nil => trivial
    | cons input inputs ih =>
        refine ⟨each [] input inputs rfl, ih ?_⟩
        intro earlier other later split
        rw [split] at each
        exact each (input :: earlier) other later rfl

variable {machine}

theorem Meets.mono {condition weaker : σ → ι → Prop}
    (implies : ∀ state input, condition state input → weaker state input) {state : σ}
    {inputs : List ι} (meets : machine.Meets condition state inputs) :
    machine.Meets weaker state inputs := by
  induction inputs generalizing state with
  | nil => trivial
  | cons input inputs ih => exact ⟨implies state input meets.1, ih meets.2⟩

/-- Inputs that meet the condition in every state. -/
theorem Meets.of_forall {condition : σ → ι → Prop} {state : σ} {inputs : List ι}
    (each : ∀ input ∈ inputs, ∀ state, condition state input) :
    machine.Meets condition state inputs := by
  induction inputs generalizing state with
  | nil => trivial
  | cons input inputs ih =>
      exact ⟨each input List.mem_cons_self state,
        ih fun other member => each other (List.mem_cons_of_mem _ member)⟩

/-- A condition on the inputs alone holds of each of them. -/
theorem Meets.forall_mem {condition : ι → Prop} {state : σ} {inputs : List ι}
    (meets : machine.Meets (fun _ => condition) state inputs) :
    ∀ input ∈ inputs, condition input := by
  induction inputs generalizing state with
  | nil => exact fun _ member => absurd member List.not_mem_nil
  | cons input inputs ih =>
      intro other member
      rcases List.mem_cons.mp member with rfl | later
      · exact meets.1
      · exact ih meets.2 other later

/-- A loop meets the condition when its body does, wherever it starts. -/
theorem Meets.flatMap {α : Type*} {condition : σ → ι → Prop} {body : α → List ι}
    {items : List α} (each : ∀ item ∈ items, ∀ state, machine.Meets condition state (body item))
    (state : σ) : machine.Meets condition state (items.flatMap body) := by
  induction items generalizing state with
  | nil => trivial
  | cons item items ih =>
      rw [List.flatMap_cons, meets_append]
      exact ⟨each item List.mem_cons_self state,
        ih (fun other member => each other (List.mem_cons_of_mem _ member)) _⟩

/-- A condition carries over along a relation that the steps keep. -/
theorem Meets.lift {condition : σ → ι → Prop} (below : σ → σ → Prop)
    (keeps : ∀ low high input, below low high →
      below (machine.step low input).1 (machine.step high input).1)
    (carries : ∀ low high input, below low high → condition low input → condition high input)
    {low high : σ} {inputs : List ι} (related : below low high)
    (meets : machine.Meets condition low inputs) : machine.Meets condition high inputs := by
  induction inputs generalizing low high with
  | nil => trivial
  | cons input inputs ih =>
      exact ⟨carries low high input related meets.1,
        ih (keeps low high input related) meets.2⟩

/-- What every step keeps of the state holds after the whole run. -/
theorem stateInvariant {condition : σ → ι → Prop} {inv : σ → Prop}
    (step : ∀ state input, inv state → condition state input →
      inv (machine.step state input).1)
    {state : σ} {inputs : List ι} (start : inv state)
    (meets : machine.Meets condition state inputs) :
    inv (machine.final state inputs) := by
  induction inputs generalizing state with
  | nil => exact start
  | cons input inputs ih => exact ih (step state input start meets.1) meets.2

/-- The machine with a note that its steps write and do not read. -/
def recording {η : Type*} (machine : Machine σ ι ο) (note : σ → ι → η → η) :
    Machine (σ × η) ι ο where
  step state input :=
    (((machine.step state.1 input).1, note state.1 input state.2),
      (machine.step state.1 input).2)

/-- The note changes nothing. -/
theorem final_recording {η : Type*} (machine : Machine σ ι ο) (note : σ → ι → η → η) (state : σ)
    (noted : η) (inputs : List ι) :
    ((machine.recording note).final (state, noted) inputs).1 = machine.final state inputs := by
  induction inputs generalizing state noted with
  | nil => rfl
  | cons input inputs ih => exact ih _ _

/-- An invariant under the condition makes every step conclude. -/
theorem Meets.of_stateInvariant {condition conclusion : σ → ι → Prop} {inv : σ → Prop}
    (step : ∀ state input, inv state → condition state input →
      inv (machine.step state input).1 ∧ conclusion state input)
    {state : σ} {inputs : List ι} (start : inv state)
    (meets : machine.Meets condition state inputs) : machine.Meets conclusion state inputs := by
  induction inputs generalizing state with
  | nil => trivial
  | cons input inputs ih =>
      have next := step state input start meets.1
      exact ⟨next.2, ih next.1 meets.2⟩

end Machine

/-! ## Effects and their causes -/

section Preceded

variable {ο : Type u} {needs : ο → Prop} {causes : ο → ο → Prop}

/-- Every event that needs a cause has one among the events before it, where
`seen` holds the events before the trace. -/
def PrecededFrom (needs : ο → Prop) (causes : ο → ο → Prop) (seen : List ο) : List ο → Prop
  | [] => True
  | event :: rest =>
      (needs event → ∃ cause ∈ seen, causes cause event) ∧
        PrecededFrom needs causes (event :: seen) rest

theorem PrecededFrom.mono {seen more : List ο} (subset : seen ⊆ more) {trace : List ο}
    (preceded : PrecededFrom needs causes seen trace) :
    PrecededFrom needs causes more trace := by
  induction trace generalizing seen more with
  | nil => trivial
  | cons event trace ih =>
      refine ⟨fun needed => ?_, ih (List.cons_subset_cons event subset) preceded.2⟩
      obtain ⟨cause, member, does⟩ := preceded.1 needed
      exact ⟨cause, subset member, does⟩

/-- Two traces that need nothing from each other. -/
theorem PrecededFrom.append {seen left right : List ο}
    (onLeft : PrecededFrom needs causes seen left)
    (onRight : PrecededFrom needs causes seen right) :
    PrecededFrom needs causes seen (left ++ right) := by
  induction left generalizing seen with
  | nil => exact onRight
  | cons event left ih =>
      exact ⟨onLeft.1, ih onLeft.2 (onRight.mono (List.subset_cons_self event seen))⟩

theorem PrecededFrom.of_needless {seen trace : List ο}
    (needless : ∀ event ∈ trace, ¬needs event) : PrecededFrom needs causes seen trace := by
  induction trace generalizing seen with
  | nil => trivial
  | cons event trace ih =>
      exact ⟨fun needed => absurd needed (needless event List.mem_cons_self),
        ih fun other member => needless other (List.mem_cons_of_mem _ member)⟩

/-- Events that all have a cause among those already seen. -/
theorem PrecededFrom.of_causes {seen trace : List ο}
    (caused : ∀ event ∈ trace, ∃ cause ∈ seen, causes cause event) :
    PrecededFrom needs causes seen trace := by
  induction trace generalizing seen with
  | nil => trivial
  | cons event trace ih =>
      constructor
      · intro _
        exact caused event List.mem_cons_self
      · apply ih
        intro other member
        rcases caused other (List.mem_cons_of_mem _ member) with ⟨cause, inSeen, does⟩
        exact ⟨cause, List.mem_cons_of_mem _ inSeen, does⟩

/-- The cause stands before its effect. -/
theorem PrecededFrom.exists_before {seen before after : List ο} {effect : ο}
    (preceded : PrecededFrom needs causes seen (before ++ effect :: after))
    (needed : needs effect) :
    ∃ cause, (cause ∈ seen ∨ cause ∈ before) ∧ causes cause effect := by
  induction before generalizing seen with
  | nil =>
      obtain ⟨cause, member, does⟩ := preceded.1 needed
      exact ⟨cause, .inl member, does⟩
  | cons event before ih =>
      obtain ⟨cause, earlier, does⟩ := ih preceded.2
      rcases earlier with inSeen | inBefore
      · rcases List.mem_cons.mp inSeen with rfl | inSeen
        · exact ⟨cause, .inr List.mem_cons_self, does⟩
        · exact ⟨cause, .inl inSeen, does⟩
      · exact ⟨cause, .inr (List.mem_cons_of_mem _ inBefore), does⟩

end Preceded

/-! ## Effects of the last attempt -/

section Attributed

variable {ο : Type u} {needs : ο → Prop} {causes : ο → ο → Prop} {attempts : ο → Prop}

/-- Every event that needs a cause comes after one, with no other attempt in between. -/
def Attributed (needs : ο → Prop) (causes : ο → ο → Prop) (attempts : ο → Prop)
    (trace : List ο) : Prop :=
  ∀ before effect after, trace = before ++ effect :: after → needs effect →
    ∃ earlier cause between, before = earlier ++ cause :: between ∧ causes cause effect ∧
      ∀ other ∈ between, ¬attempts other

theorem Attributed.append {left right : List ο} (onLeft : Attributed needs causes attempts left)
    (onRight : Attributed needs causes attempts right) :
    Attributed needs causes attempts (left ++ right) := by
  intro before effect after split needed
  rcases List.append_eq_append_iff.mp split with ⟨mid, rfl, inRight⟩ | ⟨mid, inLeft, rest⟩
  · obtain ⟨earlier, cause, between, rfl, does⟩ := onRight mid effect after inRight needed
    exact ⟨left ++ earlier, cause, between, by rw [List.append_assoc], does⟩
  · cases mid with
    | nil =>
        obtain ⟨earlier, cause, between, impossible, -⟩ :=
          onRight [] effect after rest.symm needed
        simp at impossible
    | cons first mid =>
        obtain ⟨rfl, -⟩ := List.cons.inj rest
        exact onLeft before effect mid inLeft needed

/-- It holds of every part of the trace that may have been cut off. -/
theorem Attributed.take {trace : List ο} (attributed : Attributed needs causes attempts trace)
    (length : Nat) : Attributed needs causes attempts (trace.take length) := by
  intro before effect after split needed
  apply attributed before effect (after ++ trace.drop length) _ needed
  rw [← List.cons_append, ← List.append_assoc, ← split, List.take_append_drop]

theorem Attributed.of_needless {trace : List ο} (needless : ∀ event ∈ trace, ¬needs event) :
    Attributed needs causes attempts trace := by
  rintro before effect after rfl needed
  exact absurd needed (needless effect (List.mem_append_right _ List.mem_cons_self))

theorem Attributed.flatMap {α : Type v} {emit : α → List ο} {items : List α}
    (each : ∀ item ∈ items, Attributed needs causes attempts (emit item)) :
    Attributed needs causes attempts (items.flatMap emit) := by
  induction items with
  | nil => exact .of_needless (List.forall_mem_nil _)
  | cons item items ih =>
      exact (each item List.mem_cons_self).append
        (ih fun other member => each other (List.mem_cons_of_mem _ member))

/-- An attempt and what comes of it. -/
theorem Attributed.of_attempt {attempt : ο} {outcome : List ο} (needless : ¬needs attempt)
    (caused : ∀ effect ∈ outcome, needs effect → causes attempt effect)
    (alone : ∀ effect ∈ outcome, ¬attempts effect) :
    Attributed needs causes attempts (attempt :: outcome) := by
  intro before effect after split needed
  cases before with
  | nil =>
      obtain ⟨rfl, -⟩ := List.cons.inj split
      exact absurd needed needless
  | cons first between =>
      obtain ⟨rfl, rfl⟩ := List.cons.inj split
      refine ⟨[], attempt, between, rfl, caused effect ?_ needed, fun other member => ?_⟩
      · exact List.mem_append_right _ List.mem_cons_self
      · exact alone other (List.mem_append_left _ member)

end Attributed

end PresenceLogger.Library
