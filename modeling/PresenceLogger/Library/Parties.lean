import PresenceLogger.Library.Dialogue

/-!
# Programs with many parties

A program that asks one party is run against a world of them.  While one is asked the others
are idle, and what idling keeps of them is kept.
-/

namespace PresenceLogger.Library

variable {Ask : Type} {Reply : Ask → Type} {ε α σ ι : Type}

/-- The program, with its questions addressed. -/
def Dialogue.to (party : ι) : Dialogue Ask Reply ε α →
    Dialogue (ι × Ask) (fun question => Reply question.2) ε α
  | .done result => .done result
  | .fail error => .fail error
  | .ask question next => .ask (party, question) fun reply => (next reply).to party

theorem Dialogue.Asks.to {allowed : Ask → Prop} {program : Dialogue Ask Reply ε α}
    (asks : program.Asks allowed) (party : ι) :
    (program.to party).Asks fun question => allowed question.2 := by
  induction program with
  | done result => trivial
  | fail error => trivial
  | ask question next ih => exact ⟨asks.1, fun reply => ih reply (asks.2 reply)⟩

namespace Environment

/-- The world of the parties: the one that is asked answers, and the others are idle. -/
def parties (env : Environment Ask Reply σ) (idle : σ → σ → Prop) :
    Environment (ι × Ask) (fun question => Reply question.2) (ι → σ) where
  answers before question reply after :=
    env.answers (before question.1) question.2 reply (after question.1) ∧
      ∀ other ≠ question.1, idle (before other) (after other)

variable {env : Environment Ask Reply σ} {idle : σ → σ → Prop} {kept : σ → Prop}
  {post : Except ε α → σ → Prop} {program : Dialogue Ask Reply ε α} {party : ι}
  {stays : ι → σ → Prop}

/-- The others have kept what they keep. -/
def Aside (stays : ι → σ → Prop) (party : ι) (now : ι → σ) : Prop :=
  ∀ other ≠ party, stays other (now other)

/-- A program that is safe with one party is safe with it among the others. -/
theorem Safe.to {now : ι → σ} (safe : env.Safe kept post program (now party))
    (idles : ∀ other before after, stays other before → idle before after → stays other after)
    (aside : Aside stays party now) :
    (env.parties idle).Safe (fun now => kept (now party) ∧ Aside stays party now)
      (fun outcome now => post outcome (now party) ∧ Aside stays party now)
      (program.to party) now := by
  induction program generalizing now with
  | done result => exact ⟨⟨safe.1, aside⟩, safe.2, aside⟩
  | fail error => exact ⟨⟨safe.1, aside⟩, safe.2, aside⟩
  | ask question next ih =>
      refine ⟨⟨safe.1, aside⟩, fun reply after answered => ?_⟩
      obtain ⟨own, others⟩ := answered
      exact ih reply (safe.2 reply _ own) fun other apart =>
        idles other _ _ (aside other apart) (others other apart)

end Environment

end PresenceLogger.Library
