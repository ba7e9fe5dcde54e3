import Mathlib.Logic.Relation
import Mathlib.Data.List.Basic

/-!
# Programs that ask

A program asks for something to be done, goes on with what comes back, and may fail.  An
environment answers in any way that its relation allows, and the world may change when it
does.  A program is safe when an invariant holds wherever a run may stop, and a
postcondition where it ends.
-/

namespace PresenceLogger.Library

inductive Dialogue (Ask : Type) (Reply : Ask → Type) (ε α : Type) where
  | done (result : α)
  | fail (error : ε)
  | ask (question : Ask) (next : Reply question → Dialogue Ask Reply ε α)

namespace Dialogue

variable {Ask : Type} {Reply : Ask → Type} {ε α β σ : Type}

protected def bind (program : Dialogue Ask Reply ε α) (rest : α → Dialogue Ask Reply ε β) :
    Dialogue Ask Reply ε β :=
  match program with
  | .done result => rest result
  | .fail error => .fail error
  | .ask question next => .ask question fun reply => (next reply).bind rest

instance : Monad (Dialogue Ask Reply ε) where
  pure := .done
  bind := Dialogue.bind

/-- `try: … except Exception as error: …` -/
def handle (program : Dialogue Ask Reply ε α) (handler : ε → Dialogue Ask Reply ε α) :
    Dialogue Ask Reply ε α :=
  match program with
  | .done result => .done result
  | .fail error => handler error
  | .ask question next => .ask question fun reply => (next reply).handle handler

def request (question : Ask) : Dialogue Ask Reply ε (Reply question) := .ask question .done

/-- A result that may be an error. -/
def ofExcept : Except ε α → Dialogue Ask Reply ε α
  | .ok result => .done result
  | .error error => .fail error

/-- Whatever comes back, only such questions are asked. -/
def Asks (allowed : Ask → Prop) : Dialogue Ask Reply ε α → Prop
  | .done _ | .fail _ => True
  | .ask question next => allowed question ∧ ∀ reply, (next reply).Asks allowed

variable {allowed : Ask → Prop} {program : Dialogue Ask Reply ε α}

theorem asks_pure (result : α) : Asks allowed (pure result : Dialogue Ask Reply ε α) := trivial

theorem Asks.bind {rest : α → Dialogue Ask Reply ε β} (first : program.Asks allowed)
    (then_ : ∀ result, (rest result).Asks allowed) : (program >>= rest).Asks allowed := by
  induction program with
  | done result => exact then_ result
  | fail error => trivial
  | ask question next ih => exact ⟨first.1, fun reply => ih reply (first.2 reply)⟩

theorem Asks.handle {handler : ε → Dialogue Ask Reply ε α} (first : program.Asks allowed)
    (otherwise_ : ∀ error, (handler error).Asks allowed) :
    (program.handle handler).Asks allowed := by
  induction program with
  | done result => trivial
  | fail error => exact otherwise_ error
  | ask question next ih => exact ⟨first.1, fun reply => ih reply (first.2 reply)⟩

theorem asks_request {question : Ask} (isAllowed : allowed question) :
    Asks allowed (request question : Dialogue Ask Reply ε (Reply question)) :=
  ⟨isAllowed, fun _ => trivial⟩

theorem asks_ofExcept (result : Except ε α) :
    Asks allowed (ofExcept result : Dialogue Ask Reply ε α) := by
  cases result <;> trivial

theorem Asks.mono {more : Ask → Prop} (asks : program.Asks allowed)
    (implies : ∀ question, allowed question → more question) : program.Asks more := by
  induction program with
  | done result => trivial
  | fail error => trivial
  | ask question next ih => exact ⟨implies _ asks.1, fun reply => ih reply (asks.2 reply)⟩

/-- Whatever comes back, only such questions are asked, and only such errors raised. -/
def Within (allowed : Ask → Prop) (raised : ε → Prop) : Dialogue Ask Reply ε α → Prop
  | .done _ => True
  | .fail error => raised error
  | .ask question next => allowed question ∧ ∀ reply, (next reply).Within allowed raised

variable {raised : ε → Prop}

theorem Within.bind {rest : α → Dialogue Ask Reply ε β} (first : program.Within allowed raised)
    (then_ : ∀ result, (rest result).Within allowed raised) :
    (program >>= rest).Within allowed raised := by
  induction program with
  | done result => exact then_ result
  | fail error => exact first
  | ask question next ih => exact ⟨first.1, fun reply => ih reply (first.2 reply)⟩

theorem Within.mono {more : Ask → Prop} (within : program.Within allowed raised)
    (implies : ∀ question, allowed question → more question) : program.Within more raised := by
  induction program with
  | done result => trivial
  | fail error => exact within
  | ask question next ih =>
      exact ⟨implies _ within.1, fun reply => ih reply (within.2 reply)⟩

/-! ## What is seen of a program -/

section Redact

variable {view : Ask → Ask} (same : ∀ question, Reply (view question) = Reply question)

/-- The program, with what is seen of its questions. -/
def redact : Dialogue Ask Reply ε α → Dialogue Ask Reply ε α
  | .done result => .done result
  | .fail error => .fail error
  | .ask question next =>
      .ask (view question) fun reply => (next (cast (same question) reply)).redact

theorem redact_bind (program : Dialogue Ask Reply ε α) (rest : α → Dialogue Ask Reply ε β) :
    (program >>= rest).redact same = program.redact same >>= fun result =>
      (rest result).redact same := by
  induction program with
  | done result => rfl
  | fail error => rfl
  | ask question next ih => exact congrArg (Dialogue.ask _) (funext fun reply => ih _)

/-- What goes on in the same way after what is seen alike is seen alike. -/
theorem redact_bind_congr {program other : Dialogue Ask Reply ε α}
    {rest further : α → Dialogue Ask Reply ε β}
    (alike : program.redact same = other.redact same)
    (goOn : ∀ result, (rest result).redact same = (further result).redact same) :
    (program >>= rest).redact same = (other >>= further).redact same := by
  rw [redact_bind, redact_bind, alike, funext goOn]

end Redact

end Dialogue

/-- A question and what came back. -/
structure Exchange (Ask : Type) (Reply : Ask → Type) where
  question : Ask
  reply : Reply question

/-- How the world may answer. -/
structure Environment (Ask : Type) (Reply : Ask → Type) (σ : Type) where
  answers : σ → (question : Ask) → Reply question → σ → Prop

namespace Environment

variable {Ask : Type} {Reply : Ask → Type} {ε α β σ : Type}

/-- The environment that keeps what was said, the latest first. -/
def logged (env : Environment Ask Reply σ) :
    Environment Ask Reply (σ × List (Exchange Ask Reply)) where
  answers before question reply after :=
    env.answers before.1 question reply after.1 ∧ after.2 = ⟨question, reply⟩ :: before.2

variable (env : Environment Ask Reply σ)

/-- One question is answered. -/
inductive Step : σ × Dialogue Ask Reply ε α → σ × Dialogue Ask Reply ε α → Prop where
  | answer {before after : σ} {question : Ask} {reply : Reply question}
      {next : Reply question → Dialogue Ask Reply ε α}
      (answered : env.answers before question reply after) :
      Step (before, .ask question next) (after, next reply)

/-- Where a run may come to, at its end or before. -/
def Reaches : σ × Dialogue Ask Reply ε α → σ × Dialogue Ask Reply ε α → Prop :=
  Relation.ReflTransGen env.Step

/-- The invariant holds wherever a run comes to, and the postcondition where it ends. -/
def Safe (kept : σ → Prop) (post : Except ε α → σ → Prop) :
    Dialogue Ask Reply ε α → σ → Prop
  | .done result, state => kept state ∧ post (.ok result) state
  | .fail error, state => kept state ∧ post (.error error) state
  | .ask question next, state =>
      kept state ∧ ∀ reply after, env.answers state question reply after →
        Safe kept post (next reply) after

variable {env} {kept : σ → Prop} {post : Except ε α → σ → Prop} {state : σ}
  {program : Dialogue Ask Reply ε α}

theorem Safe.now (safe : env.Safe kept post program state) : kept state := by
  cases program with
  | done result => exact safe.1
  | fail error => exact safe.1
  | ask question next => exact safe.1

theorem safe_pure {result : α} :
    env.Safe kept post (pure result) state ↔ kept state ∧ post (.ok result) state := Iff.rfl

theorem safe_request {question : Ask} {post : Except ε (Reply question) → σ → Prop} :
    env.Safe kept post (.request question) state ↔
      kept state ∧ ∀ reply after, env.answers state question reply after →
        kept after ∧ post (.ok reply) after := Iff.rfl

theorem Safe.mono {stronger : σ → Prop} {strong : Except ε α → σ → Prop}
    (safe : env.Safe stronger strong program state) (weaker : ∀ state, stronger state → kept state)
    (posts : ∀ outcome state, stronger state → strong outcome state → post outcome state) :
    env.Safe kept post program state := by
  induction program generalizing state with
  | done result => exact ⟨weaker _ safe.1, posts _ _ safe.1 safe.2⟩
  | fail error => exact ⟨weaker _ safe.1, posts _ _ safe.1 safe.2⟩
  | ask question next ih =>
      exact ⟨weaker _ safe.1, fun reply after answered => ih reply (safe.2 reply after answered)⟩

/-- What is to hold between a program and the one that goes on with its result. -/
def Then (env : Environment Ask Reply σ) (kept : σ → Prop) (post : Except ε β → σ → Prop)
    (rest : α → Dialogue Ask Reply ε β) : Except ε α → σ → Prop
  | .ok result, state => env.Safe kept post (rest result) state
  | .error error, state => post (.error error) state

/-- The rule of sequence. -/
theorem safe_bind {post : Except ε β → σ → Prop} {rest : α → Dialogue Ask Reply ε β} :
    env.Safe kept post (program >>= rest) state ↔
      env.Safe kept (Then env kept post rest) program state := by
  induction program generalizing state with
  | done result => exact ⟨fun safe => ⟨safe.now, safe⟩, And.right⟩
  | fail error => exact Iff.rfl
  | ask question next ih =>
      exact and_congr_right fun _ => forall₂_congr fun reply after =>
        imp_congr_right fun _ => ih reply

/-- The rule of exceptions. -/
theorem safe_handle {handler : ε → Dialogue Ask Reply ε α} :
    env.Safe kept post (program.handle handler) state ↔
      env.Safe kept (fun outcome after =>
        match outcome with
        | .ok result => post (.ok result) after
        | .error error => env.Safe kept post (handler error) after) program state := by
  induction program generalizing state with
  | done result => exact Iff.rfl
  | fail error => exact ⟨fun safe => ⟨safe.now, safe⟩, And.right⟩
  | ask question next ih =>
      exact and_congr_right fun _ => forall₂_congr fun reply after =>
        imp_congr_right fun _ => ih reply

/-- What the answers to the questions of a program keep holds throughout. -/
theorem safe_of_asks {allowed : Ask → Prop} (asks : program.Asks allowed)
    (stable : ∀ before question reply after, allowed question → kept before →
      env.answers before question reply after → kept after)
    (start : kept state) : env.Safe kept (fun _ after => kept after) program state := by
  induction program generalizing state with
  | done result => exact ⟨start, start⟩
  | fail error => exact ⟨start, start⟩
  | ask question next ih =>
      exact ⟨start, fun reply after answered =>
        ih reply (asks.2 reply) (stable _ _ _ _ asks.1 start answered)⟩

/-- The same, with what is raised. -/
theorem safe_of_within {allowed : Ask → Prop} {raised : ε → Prop}
    (within : program.Within allowed raised)
    (stable : ∀ before question reply after, allowed question → kept before →
      env.answers before question reply after → kept after)
    (start : kept state) :
    env.Safe kept (fun outcome _ => ∀ error, outcome = .error error → raised error) program
      state := by
  induction program generalizing state with
  | done result => exact ⟨start, fun error isError => by cases isError⟩
  | fail error =>
      refine ⟨start, fun other isError => ?_⟩
      cases isError
      exact within
  | ask question next ih =>
      exact ⟨start, fun reply after answered =>
        ih reply (within.2 reply) (stable _ _ _ _ within.1 start answered)⟩

theorem Safe.step {after : σ × Dialogue Ask Reply ε α}
    (safe : env.Safe kept post program state) (step : env.Step (state, program) after) :
    env.Safe kept post after.2 after.1 := by
  cases step with
  | answer answered => exact safe.2 _ _ answered

/-- A safe program is safe wherever it comes to. -/
theorem Safe.reaches {after : σ × Dialogue Ask Reply ε α}
    (safe : env.Safe kept post program state) (reaches : env.Reaches (state, program) after) :
    env.Safe kept post after.2 after.1 := by
  induction reaches with
  | refl => exact safe
  | tail _ step ih => exact Safe.step ih step

/-! ### Answers by a function -/

/-- The environment whose answers are computed. -/
def ofAnswers (answer : σ → (question : Ask) → Reply question × σ) : Environment Ask Reply σ where
  answers before question reply after := answer before question = (reply, after)

/-- So many answers, unless the program ends before. -/
def play (answer : σ → (question : Ask) → Reply question × σ) :
    Nat → σ × Dialogue Ask Reply ε α → σ × Dialogue Ask Reply ε α
  | 0, state => state
  | n + 1, (state, program) =>
      match program with
      | .ask question next =>
          play answer n ((answer state question).2, next (answer state question).1)
      | ended => (state, ended)

theorem reaches_play {τ : Type} {env : Environment Ask Reply σ}
    {answer : τ → (question : Ask) → Reply question × τ} (now : τ → σ)
    (answers : ∀ state question,
      env.answers (now state) question (answer state question).1 (now (answer state question).2))
    (n : Nat) (start : τ × Dialogue Ask Reply ε α) :
    env.Reaches (now start.1, start.2)
      (now (play answer n start).1, (play answer n start).2) := by
  induction n generalizing start with
  | zero => exact .refl
  | succ n ih =>
      obtain ⟨state, program⟩ := start
      cases program with
      | done result => exact .refl
      | fail error => exact .refl
      | ask question next =>
          exact .head (.answer (answers state question))
            (ih ((answer state question).2, next (answer state question).1))

/-- Every run has its log. -/
theorem Reaches.logged {env : Environment Ask Reply σ}
    {before after : σ × Dialogue Ask Reply ε α} (reaches : env.Reaches before after)
    (log : List (Exchange Ask Reply)) :
    ∃ longer, env.logged.Reaches ((before.1, log), before.2) ((after.1, longer), after.2) := by
  induction reaches with
  | refl => exact ⟨log, .refl⟩
  | tail _ step ih =>
      obtain ⟨longer, reached⟩ := ih
      cases step with
      | answer answered => exact ⟨_, reached.tail (.answer ⟨answered, rfl⟩)⟩

end Environment

/-! ## What was said before -/

section Grounded

variable {κ : Type} {justified : List κ → κ → Prop}

/-- Everything in a log, the latest first, was justified by what is before it. -/
def Grounded (justified : List κ → κ → Prop) (log : List κ) : Prop :=
  ∀ later event earlier, log = later ++ event :: earlier → justified earlier event

theorem grounded_nil : Grounded justified [] := by
  intro later event earlier split
  simp at split

theorem grounded_cons {event : κ} {log : List κ} :
    Grounded justified (event :: log) ↔ justified log event ∧ Grounded justified log := by
  constructor
  · intro grounded
    refine ⟨grounded [] event log rfl, fun later other earlier split => ?_⟩
    exact grounded (event :: later) other earlier (by rw [split, List.cons_append])
  · rintro ⟨here, before⟩ later other earlier split
    cases later with
    | nil =>
        cases split
        exact here
    | cons head later =>
        cases split
        exact before later other earlier rfl

end Grounded

/-! ## Logs -/

section Logged

variable {Ask : Type} {Reply : Ask → Type} {ε α β σ : Type}
  {justified : List (Exchange Ask Reply) → Exchange Ask Reply → Prop}
  {fact : List (Exchange Ask Reply) → Prop} {state : σ} {log : List (Exchange Ask Reply)}
  {env : Environment Ask Reply σ} {program : Dialogue Ask Reply ε α}

/-- What is said later does not undo the fact. -/
def Lasting (fact : List (Exchange Ask Reply) → Prop) : Prop :=
  ∀ exchange log, fact log → fact (exchange :: log)

theorem Lasting.and {other : List (Exchange Ask Reply) → Prop} (lasting : Lasting fact)
    (otherLasting : Lasting other) : Lasting fun log => fact log ∧ other log :=
  fun exchange log holds => ⟨lasting exchange log holds.1, otherLasting exchange log holds.2⟩

theorem lasting_mem (exchange : Exchange Ask Reply) : Lasting fun log => exchange ∈ log :=
  fun _ _ among => List.mem_cons_of_mem _ among

theorem lasting_exists {ι : Sort*} {facts : ι → List (Exchange Ask Reply) → Prop}
    (lasting : ∀ i, Lasting (facts i)) : Lasting fun log => ∃ i, facts i log :=
  fun exchange log holds => holds.imp fun i holds => lasting i exchange log holds

theorem lasting_const (holds : Prop) : Lasting fun _ : List (Exchange Ask Reply) => holds :=
  fun _ _ kept => kept

/-- Everything that was said was justified, and the fact holds. -/
def Upholds (justified : List (Exchange Ask Reply) → Exchange Ask Reply → Prop)
    (fact : List (Exchange Ask Reply) → Prop) (state : σ × List (Exchange Ask Reply)) : Prop :=
  Grounded justified state.2 ∧ fact state.2

/-- What a result says of the log. -/
def Tells (post : α → List (Exchange Ask Reply) → Prop) (outcome : Except ε α)
    (state : σ × List (Exchange Ask Reply)) : Prop :=
  ∀ result, outcome = .ok result → post result state.2

theorem tells_error {post : α → List (Exchange Ask Reply) → Prop} {error : ε}
    {state : σ × List (Exchange Ask Reply)} : Tells post (.error error) state :=
  fun _ isOk => by cases isOk

theorem tells_ok {post : α → List (Exchange Ask Reply) → Prop} {result : α}
    {state : σ × List (Exchange Ask Reply)} :
    Tells (ε := ε) post (.ok result) state ↔ post result state.2 :=
  ⟨fun tells => tells result rfl, fun holds _ isOk => by cases isOk; exact holds⟩

/-- This was said when the fact held. -/
def SaidAfter (fact : List (Exchange Ask Reply) → Prop) (exchange : Exchange Ask Reply)
    (log : List (Exchange Ask Reply)) : Prop :=
  ∃ later earlier, log = later ++ exchange :: earlier ∧ fact earlier

theorem lasting_saidAfter (fact : List (Exchange Ask Reply) → Prop)
    (exchange : Exchange Ask Reply) : Lasting (SaidAfter fact exchange) := by
  rintro other log ⟨later, earlier, split, held⟩
  exact ⟨other :: later, earlier, by rw [split, List.cons_append], held⟩

theorem SaidAfter.mem {exchange : Exchange Ask Reply} (said : SaidAfter fact exchange log) :
    exchange ∈ log := by
  obtain ⟨later, earlier, rfl, -⟩ := said
  exact List.mem_append_right _ List.mem_cons_self

theorem SaidAfter.mono {weaker : List (Exchange Ask Reply) → Prop} {exchange : Exchange Ask Reply}
    (implies : ∀ log, fact log → weaker log) (said : SaidAfter fact exchange log) :
    SaidAfter weaker exchange log := by
  obtain ⟨later, earlier, split, held⟩ := said
  exact ⟨later, earlier, split, implies earlier held⟩

/-- A question that is justified. -/
theorem safe_asked {question : Ask} (lasting : Lasting fact)
    (isJustified : ∀ reply, justified log ⟨question, reply⟩)
    (start : Upholds justified fact (state, log)) :
    env.logged.Safe (ε := ε) (Upholds justified fact)
      (Tells fun reply log => SaidAfter fact ⟨question, reply⟩ log) (.request question)
      (state, log) := by
  refine Environment.safe_request.mpr ⟨start, fun reply after answered => ?_⟩
  obtain ⟨-, grown⟩ := answered
  rw [Upholds, grown, grounded_cons, tells_ok, grown]
  exact ⟨⟨⟨isJustified reply, start.1⟩, lasting _ _ start.2⟩, [], log, rfl, start.2⟩

/-- What a result says of the log stands when the program goes on. -/
theorem Environment.Safe.goOn {mid : α → List (Exchange Ask Reply) → Prop}
    {post : β → List (Exchange Ask Reply) → Prop} {rest : α → Dialogue Ask Reply ε β}
    (first : env.logged.Safe (Upholds justified fact) (Tells mid) program (state, log))
    (then_ : ∀ result state log, Upholds justified (fun log => fact log ∧ mid result log)
      (state, log) → env.logged.Safe (Upholds justified fun log => fact log ∧ mid result log)
        (Tells post) (rest result) (state, log)) :
    env.logged.Safe (Upholds justified fact) (Tells post) (program >>= rest) (state, log) := by
  refine Environment.safe_bind.mpr (first.mono (fun _ kept => kept) ?_)
  intro outcome state kept tells
  cases outcome with
  | error error => exact tells_error
  | ok result =>
      exact (then_ result state.1 state.2 ⟨kept.1, kept.2, tells_ok.mp tells⟩).mono
        (fun _ kept => ⟨kept.1, kept.2.1⟩) fun _ _ _ post => post

/-- An exception is handled. -/
theorem Environment.Safe.recover {post : α → List (Exchange Ask Reply) → Prop}
    {handler : ε → Dialogue Ask Reply ε α}
    (first : env.logged.Safe (Upholds justified fact) (Tells post) program (state, log))
    (handled : ∀ error state log, Upholds justified fact (state, log) →
      env.logged.Safe (Upholds justified fact) (Tells post) (handler error) (state, log)) :
    env.logged.Safe (Upholds justified fact) (Tells post) (program.handle handler)
      (state, log) := by
  refine Environment.safe_handle.mpr (first.mono (fun _ kept => kept) ?_)
  intro outcome after kept tells
  cases outcome with
  | error error => exact handled error after.1 after.2 kept
  | ok result => exact tells

/-- A program that ends. -/
theorem safe_ends {post : α → List (Exchange Ask Reply) → Prop} {result : α}
    (start : Upholds justified fact (state, log)) (holds : post result log) :
    env.logged.Safe (ε := ε) (Upholds justified fact) (Tells post) (pure result) (state, log) :=
  Environment.safe_pure.mpr ⟨start, tells_ok.mpr holds⟩

end Logged

end PresenceLogger.Library
