import PresenceLogger.Child.AckSession

/-!
# Final outcomes of a delivery

Only the network thread changes a status, and only from `pending`, so a row that
is acknowledged or rejected stays so.  A later send of its record is answered
from the ledger, unless the session is not subscribed.
-/

namespace PresenceLogger.Child

open Library

/-! ## What an action keeps of the ledger -/

/-- A row keeps its record, and its outcome once there is one. -/
structure DeliveryRow.Keeps (old new : DeliveryRow) : Prop where
  payload : new.payload = old.payload
  acked : old.status = .acked → new.status = .acked
  nacked : old.status = .nacked → new.status = .nacked ∧ new.nackReason = old.nackReason

theorem DeliveryRow.Keeps.refl (row : DeliveryRow) : row.Keeps row :=
  ⟨rfl, fun acked => acked, fun nacked => ⟨nacked, rfl⟩⟩

theorem DeliveryRow.Keeps.trans {first second third : DeliveryRow} (early : first.Keeps second)
    (late : second.Keeps third) : first.Keeps third := by
  constructor
  · exact late.payload.trans early.payload
  · intro acked
    exact late.acked (early.acked acked)
  · intro nacked
    rcases early.nacked nacked with ⟨still, reason⟩
    rcases late.nacked still with ⟨atEnd, sameReason⟩
    exact ⟨atEnd, sameReason.trans reason⟩

/-- No row of the destination is lost or changed against its outcome, and no row
of another destination is changed at all. -/
structure Ledger.Keeps (destination : String) (old new : Ledger) : Prop where
  rows : ∀ eventId row, old.get (destination, eventId) = some row →
    ∃ next, new.get (destination, eventId) = some next ∧ row.Keeps next
  others : ∀ other eventId, other ≠ destination →
    new.get (other, eventId) = old.get (other, eventId)

namespace Ledger

variable {destination : String}

theorem Keeps.refl (ledger : Ledger) : Ledger.Keeps destination ledger ledger := by
  constructor
  · intro eventId row found
    exact ⟨row, found, .refl row⟩
  · intro other eventId _
    rfl

theorem Keeps.trans {first second third : Ledger} (early : Ledger.Keeps destination first second)
    (late : Ledger.Keeps destination second third) : Ledger.Keeps destination first third := by
  constructor
  · intro eventId row found
    rcases early.rows eventId row found with ⟨between, foundBetween, kept⟩
    rcases late.rows eventId between foundBetween with ⟨next, foundNext, keptNext⟩
    exact ⟨next, foundNext, kept.trans keptNext⟩
  · intro other eventId different
    rw [late.others other eventId different, early.others other eventId different]

/-- An update of one row of the destination that keeps that row. -/
theorem keeps_of_get {old new : Ledger} {updatedId : String} {set : DeliveryRow → DeliveryRow}
    (updates : ∀ key, new.get key =
      if key = (destination, updatedId) then (old.get key).map set else old.get key)
    (kept : ∀ row, old.get (destination, updatedId) = some row → row.Keeps (set row)) :
    Ledger.Keeps destination old new := by
  constructor
  · intro eventId row found
    rw [updates, found]
    split
    next here =>
      rw [here] at found
      exact ⟨set row, rfl, kept row found⟩
    next => exact ⟨row, rfl, .refl row⟩
  · intro other eventId different
    rw [updates, if_neg]
    intro same
    exact different (Prod.mk.inj same).1

theorem keeps_attempted (row : DeliveryRow) (now : ℚ) : row.Keeps (row.attempted now) :=
  ⟨rfl, fun acked => acked, fun nacked => ⟨nacked, rfl⟩⟩

theorem keeps_touchPending (ledger : Ledger) (eventId : String) (now : ℚ) :
    Ledger.Keeps destination ledger (ledger.touchPending destination eventId now) :=
  keeps_of_get (ledger.get_touchPending destination eventId now) fun row _ =>
    keeps_attempted row now

theorem keeps_savePending (ledger : Ledger) (rec : Record) (now : ℚ) :
    Ledger.Keeps destination ledger (ledger.savePending destination rec now) := by
  constructor
  · intro eventId row found
    rw [get_savePending, found]
    split
    · exact ⟨row.attempted now, rfl, keeps_attempted row now⟩
    · exact ⟨row, rfl, .refl row⟩
  · intro other eventId different
    rw [get_savePending, if_neg]
    intro same
    exact different (Prod.mk.inj same).1.symm

/-- An ACK keeps what is pending, the only thing it is applied to. -/
theorem keeps_markAcked (ledger : Ledger) (eventId : String) (committedAt : Option String)
    (pending : ∀ row, ledger.get (destination, eventId) = some row → row.status = .pending) :
    Ledger.Keeps destination ledger (ledger.markAcked destination eventId committedAt) := by
  apply keeps_of_get (ledger.get_markAcked destination eventId committedAt)
  intro row found
  have status := pending row found
  constructor
  · rfl
  · intro _
    rfl
  · intro nacked
    rw [status] at nacked
    cases nacked

theorem keeps_markNacked (ledger : Ledger) (eventId reason : String)
    (failedAt : Option String) :
    Ledger.Keeps destination ledger
      (ledger.markNacked destination eventId reason failedAt) := by
  apply keeps_of_get (ledger.get_markNacked destination eventId reason failedAt)
  intro row _
  split
  next pending =>
    constructor
    · rfl
    · intro acked
      rw [pending] at acked
      cases acked
    · intro nacked
      rw [pending] at nacked
      cases nacked
  next => exact .refl row

end Ledger

/-! ## The outline of the two threads -/

/-- What a callback relies on: an ACK is applied to a row found pending. -/
def ChildPoint.Relies (config : AckSession) (memory : ChildMemory) : ChildPoint → Prop
  | .ackUpdate eventId _ => ∀ row, config.find memory eventId = some row → row.status = .pending
  | _ => True

namespace AckSession

variable {config : AckSession}

def assertions (config : AckSession) : Program.Assertions ChildThread ChildPoint ChildMemory where
  always _ := True
  knows
    | .main, point, _ => point.isSending = true
    | .network, point, memory => point.isSending = false ∧ point.Relies config memory

/-- Sending leaves every pending row pending. -/
theorem pending_resume {memory : ChildMemory} {point : ChildPoint} {input : ChildInput}
    (sending : point.isSending = true) {eventId : String}
    (pending : ∀ row, config.find memory eventId = some row → row.status = .pending) :
    ∀ row, config.find (config.resume memory point input).memory eventId = some row →
      row.status = .pending := by
  intro row found
  rw [find] at found
  have change := config.ledgerChange_resume memory point input
  generalize (config.resume memory point input).memory.ledger = after at found change
  cases change with
  | none => exact pending row found
  | save rec now =>
      rw [Ledger.get_savePending] at found
      split at found
      · cases before : memory.ledger.get (config.destination, eventId) with
        | none =>
            rw [before] at found
            cases Option.some.inj found
            rfl
        | some old =>
            rw [before] at found
            cases Option.some.inj found
            exact pending old before
      · exact pending row found
  | touch rec now =>
      rw [Ledger.get_touchPending] at found
      split at found
      · rcases Option.map_eq_some_iff.mp found with ⟨old, before, rfl⟩
        exact pending old before
      · exact pending row found
  | ack eventId committedAt bound => cases sending
  | nack eventId reason failedAt text bound => cases sending

/-- After a sending point comes another one. -/
theorem sending_resume {memory : ChildMemory} {point next : ChildPoint} {input : ChildInput}
    (sending : point.isSending = true)
    (follows : next ∈ (config.resume memory point input).point) : next.isSending = true := by
  have resumed := config.resumed memory point input
  generalize config.resume memory point input = outcome at resumed follows
  cases resumed with
  | absent | due | save | touch | publish | wait =>
      cases follows
      rfl
  | ackFound | nackFound => cases sending
  | _ => cases follows

/-- After a point of a callback comes one that relies on what was read. -/
theorem relies_resume {memory : ChildMemory} {point next : ChildPoint} {input : ChildInput}
    (callback : point.isSending = false)
    (follows : next ∈ (config.resume memory point input).point) :
    next.isSending = false ∧ next.Relies config (config.resume memory point input).memory := by
  have resumed := config.resumed memory point input
  generalize config.resume memory point input = outcome at resumed follows
  cases resumed with
  | absent | due | save | touch | publish | wait => cases callback
  | ackFound eventId mkDate committedAt id row bound found pending matched =>
      cases follows
      refine ⟨rfl, ?_⟩
      intro other foundOther
      cases found.symm.trans foundOther
      exact pending
  | nackFound =>
      cases follows
      exact ⟨rfl, trivial⟩
  | _ => cases follows

theorem relies_onMessage {memory : ChildMemory} {next : ChildPoint} {message : Message}
    (follows : next ∈ (config.onMessage memory message).point) :
    next.isSending = false ∧ next.Relies config (config.onMessage memory message).memory := by
  rcases config.onMessage_cases memory message with
    ⟨_, same, -⟩ | ⟨_, _, _, _, -, -, -, -, same⟩ | ⟨_, _, _, -, -, same⟩
  all_goals
    rw [same] at follows
    cases follows
  · exact ⟨rfl, trivial⟩
  · exact ⟨rfl, trivial⟩

section Outline

variable {state : ChildState} {step : ChildStep} {thread : ChildThread} {outcome : ChildOutcome}

theorem knows_own (holds : config.assertions.Holds state)
    (acts : config.program.Acts state step thread outcome) {point : ChildPoint}
    (follows : point ∈ outcome.point) :
    config.assertions.knows thread point outcome.memory := by
  cases acts with
  | call routine free =>
      cases routine with
      | send rec now =>
          simp only [program, start] at follows
          split at follows
          · cases follows
            rfl
          · cases follows
      | onConnect mid => cases follows
      | onSubscribe mid granted => cases follows
      | onDisconnect => cases follows
      | onMessage message =>
          exact relies_onMessage follows
  | resume thread input here stands =>
      have known := holds.2 thread here stands
      cases thread with
      | main => exact sending_resume known follows
      | network => exact relies_resume known.1 follows

/-- Only a send interferes with a callback, and it leaves pending rows pending. -/
theorem knows_other (holds : config.assertions.Holds state)
    (acts : config.program.Acts state step thread outcome) (bystander : ChildThread)
    (point : ChildPoint) (apart : bystander ≠ thread)
    (stands : state.point bystander = some point) :
    config.assertions.knows bystander point outcome.memory := by
  have known := holds.2 bystander point stands
  cases bystander with
  | main => exact known
  | network =>
      refine ⟨known.1, ?_⟩
      cases acts with
      | call routine free =>
          cases routine with
          | send rec now =>
              cases point with
              | ackUpdate eventId committedAt =>
                  intro row found
                  simp only [program, find, ledger_start] at found
                  exact known.2 row found
              | _ => trivial
          | _ => exact absurd rfl apart
      | resume thread input here standsHere =>
          cases thread with
          | network => exact absurd rfl apart
          | main =>
              have sending := holds.2 .main here standsHere
              cases point with
              | ackUpdate eventId committedAt => exact pending_resume sending known.2
              | _ => trivial

/-- The assertions are a sound outline of the child. -/
def outline (config : AckSession) : config.program.Outline fun _ _ => True where
  toAssertions := config.assertions
  own _ _ _ _ holds _ acts := ⟨trivial, fun _ follows => knows_own holds acts follows⟩
  other _ _ _ _ holds _ acts := knows_other holds acts
  crash _ _ _ _ := ⟨trivial, fun _ _ alive => nomatch alive⟩

/-! ## Final outcomes -/

/-- Every action keeps the ledger. -/
theorem keeps_acts (holds : config.assertions.Holds state)
    (acts : config.program.Acts state step thread outcome) :
    Ledger.Keeps config.destination state.memory.ledger outcome.memory.ledger := by
  cases acts with
  | call routine free =>
      simp only [program, ledger_start]
      exact .refl _
  | resume thread input here stands =>
      have known := holds.2 thread here stands
      have change := config.ledgerChange_resume state.memory here input
      simp only [program]
      generalize (config.resume state.memory here input).memory.ledger = after at change ⊢
      cases change with
      | none => exact .refl _
      | save rec now => exact Ledger.keeps_savePending _ rec now
      | touch rec now => exact Ledger.keeps_touchPending _ rec.eventId now
      | ack eventId committedAt bound =>
          cases thread with
          | main => cases known
          | network => exact Ledger.keeps_markAcked _ eventId bound known.2
      | nack eventId reason failedAt text bound =>
          exact Ledger.keeps_markNacked _ eventId text bound

end Outline

section Runs

variable {state : ChildState}

theorem keeps_step (holds : config.assertions.Holds state) (step : ChildStep) :
    Ledger.Keeps config.destination state.memory.ledger
      (config.program.step state step).1.memory.ledger := by
  rcases config.program.step_cases state step with
    ⟨thread, outcome, acts, same⟩ | ⟨which, rfl⟩ | same
  · rw [same]
    exact keeps_acts holds acts
  · exact .refl _
  · rw [same]
    exact .refl _

theorem keeps_run (holds : config.assertions.Holds state) (steps : List ChildStep) :
    Ledger.Keeps config.destination state.memory.ledger
      (config.program.machine.final state steps).memory.ledger := by
  induction steps generalizing state with
  | nil => exact .refl _
  | cons step steps ih =>
      exact (keeps_step holds step).trans (ih ((outline config).step holds trivial))

/-- The assertions hold in every state a run reaches. -/
theorem holds_run (memory : ChildMemory) (steps : List ChildStep) :
    config.assertions.Holds (config.program.machine.final (Program.idle memory) steps) := by
  apply (outline config).run
  · exact ⟨trivial, fun thread point stands => nomatch stands⟩
  · rw [Machine.meets_iff]
    intro earlier step later _
    trivial

end Runs

end AckSession

/-! ## Later sends -/

/-- The answer that a final status asks for. -/
def DeliveryStatus.outcome : DeliveryStatus → Option SendOutcome
  | .acked => some .acked
  | .nacked => some .nacked
  | .pending | .legacyUnverified => none

theorem DeliveryRow.Keeps.outcome {old new : DeliveryRow} (kept : old.Keeps new)
    {outcome : SendOutcome} (final : old.status.outcome = some outcome) :
    new.status.outcome = some outcome := by
  cases status : old.status with
  | acked =>
      rw [status] at final
      rw [kept.acked status]
      exact final
  | nacked =>
      rw [status] at final
      rw [(kept.nacked status).1]
      exact final
  | pending =>
      rw [status] at final
      cases final
  | legacyUnverified =>
      rw [status] at final
      cases final

/-- Once a row has its outcome it keeps it, a later send of its record gives the
expected answer before anything else, and other destinations are left alone. -/
structure FinalOutcomes (config : AckSession) (answer : Session → SendOutcome → SendOutcome)
    (init : ChildState) (steps : List ChildStep) : Prop where
  acked : ∀ earlier later eventId row, steps = earlier ++ later →
    config.find (config.program.machine.final init earlier).memory eventId = some row →
    row.status = .acked →
    ∃ next, config.find (config.program.machine.final init steps).memory eventId = some next ∧
      next.status = .acked
  nacked : ∀ earlier later eventId row, steps = earlier ++ later →
    config.find (config.program.machine.final init earlier).memory eventId = some row →
    row.status = .nacked →
    ∃ next, config.find (config.program.machine.final init steps).memory eventId = some next ∧
      next.status = .nacked ∧ next.nackReason = row.nackReason
  /-- The first thing a send does after its row is final, unless the process ends
  before, is to return. -/
  sends : ∀ earlier rec now later row outcome,
    steps = earlier ++ .call (.send rec now) :: later → .crash () ∉ later →
    (config.program.machine.final init earlier).point .main = none →
    config.find (config.program.machine.final init earlier).memory rec.eventId = some row →
    row.payload = rec → row.status.outcome = some outcome →
    ∀ output, (config.program.machine.trace (config.program.machine.final init earlier)
        (.call (.send rec now) :: later)).find? ChildOutput.ofSend = some output →
      output = .returned rec
        (answer (config.program.machine.final init earlier).memory.session outcome)
  /-- The call and one more action of the main thread are enough for it to return. -/
  returns : ∀ earlier rec now later row outcome,
    steps = earlier ++ .call (.send rec now) :: later → .crash () ∉ later →
    (config.program.machine.final init earlier).point .main = none →
    config.find (config.program.machine.final init earlier).memory rec.eventId = some row →
    row.payload = rec → row.status.outcome = some outcome →
    (∃ input, .resume .main input ∈ later) →
    ((config.program.machine.trace (config.program.machine.final init earlier)
      (.call (.send rec now) :: later)).find? ChildOutput.ofSend).isSome
  others : ∀ other eventId, other ≠ config.destination →
    (config.program.machine.final init steps).memory.ledger.get (other, eventId) =
      init.memory.ledger.get (other, eventId)

/-- An unsubscribed session answers every send with `PENDING`. -/
def Session.answer (session : Session) (outcome : SendOutcome) : SendOutcome :=
  if session.subscribed then outcome else .pending

namespace AckSession

variable {config : AckSession}

section Sends

variable {state : ChildState} {rec : Record} {now : ℚ} {row : DeliveryRow}
  {outcome : SendOutcome}

theorem lookup_final {memory : ChildMemory}
    (found : config.find memory rec.eventId = some row) (same : row.payload = rec)
    (final : row.status.outcome = some outcome) :
    config.lookup memory rec now = finish memory [.returned rec outcome] := by
  rw [lookup, found]
  simp only [sendFound, same, ne_eq, not_true_eq_false, if_false]
  cases status : row.status with
  | acked =>
      rw [status] at final
      cases final
      rfl
  | nacked =>
      rw [status] at final
      cases final
      rfl
  | pending =>
      rw [status] at final
      cases final
  | legacyUnverified =>
      rw [status] at final
      cases final

/-- A callback emits nothing that belongs to a send. -/
theorem ofSend_callback {memory : ChildMemory} {point : ChildPoint} {input : ChildInput}
    (callback : point.isSending = false) :
    ∀ output ∈ (config.resume memory point input).emits, output.ofSend = false := by
  have resumed := config.resumed memory point input
  generalize config.resume memory point input = outcome at resumed
  cases resumed with
  | ends _ emits unpublished whose =>
      exact fun output member => (whose output member).trans callback
  | refused | publish => cases callback
  | _ => exact fun _ member => absurd member List.not_mem_nil

theorem ofSend_network {step : ChildStep} {thread : ChildThread} {outcome : ChildOutcome}
    (holds : config.assertions.Holds state)
    (acts : config.program.Acts state step thread outcome) (network : thread = .network) :
    ∀ output ∈ outcome.emits, output.ofSend = false := by
  cases acts with
  | call routine free =>
      cases routine with
      | send rec now => cases network
      | onMessage message =>
          simp only [program, start]
          rcases config.onMessage_cases state.memory message with
            ⟨emits, same, quiet⟩ | ⟨_, _, _, _, -, -, -, -, same⟩ | ⟨_, _, _, -, -, same⟩
          · rwa [same]
          · rw [same]
            exact List.forall_mem_nil _
          · rw [same]
            exact List.forall_mem_nil _
      | _ => exact List.forall_mem_nil _
  | resume thread input point stands =>
      subst network
      exact ofSend_callback (holds.2 .network point stands).1

/-- The next action of a send that looks its record up. -/
theorem outcome_of_lookup {step : ChildStep} {thread : ChildThread} {acted : ChildOutcome}
    (acts : config.program.Acts state step thread acted) (main : thread = .main)
    (stands : state.point .main = some (.lookup rec now)) :
    acted = config.lookup state.memory rec now := by
  cases acts with
  | call routine free =>
      rw [main, stands] at free
      cases free
  | resume _ input point standsHere =>
      rw [main, stands] at standsHere
      cases standsHere
      rfl

/-- A send that has passed its first test is answered by the ledger, as soon as the main
thread acts. -/
theorem answered_lookup {steps : List ChildStep} (holds : config.assertions.Holds state)
    (alive : .crash () ∉ steps) (stands : state.point .main = some (.lookup rec now))
    (found : config.find state.memory rec.eventId = some row) (same : row.payload = rec)
    (final : row.status.outcome = some outcome) :
    (config.program.machine.trace state steps).find? ChildOutput.ofSend =
        some (.returned rec outcome) ∨
      (config.program.machine.trace state steps).find? ChildOutput.ofSend = none ∧
        ∀ input, .resume .main input ∉ steps := by
  induction steps generalizing state row with
  | nil => exact .inr ⟨rfl, fun _ => List.not_mem_nil⟩
  | cons step steps ih =>
      rw [List.mem_cons, not_or] at alive
      have next : config.assertions.Holds (config.program.step state step).1 :=
        (outline config).step holds trivial
      change ((config.program.step state step).2 ++
          config.program.machine.trace (config.program.step state step).1 steps).find?
            ChildOutput.ofSend = _ ∨ ((config.program.step state step).2 ++
          config.program.machine.trace (config.program.step state step).1 steps).find?
            ChildOutput.ofSend = none ∧ _
      rw [List.find?_append]
      have speaks (input : ChildInput) :
          (config.program.step state (.resume .main input)).2.find? ChildOutput.ofSend =
            some (.returned rec outcome) := by
        rw [Program.Acts.step_eq config.program (.resume ChildThread.main input _ stands)]
        change (config.lookup state.memory rec now).emits.find? ChildOutput.ofSend = _
        rw [lookup_final found same final]
        rfl
      -- a step that says nothing of a send is none of the main thread
      have silent
          (quiet : (config.program.step state step).2.find? ChildOutput.ofSend = none)
          (after : ∀ input : ChildInput, .resume .main input ∉ steps) (input : ChildInput) :
          .resume .main input ∉ step :: steps := by
        intro member
        rcases List.mem_cons.mp member with rfl | inRest
        · rw [speaks input] at quiet
          cases quiet
        · exact after input inRest
      rcases config.program.step_cases state step with
        ⟨thread, acted, acts, taken⟩ | ⟨which, rfl⟩ | taken
      · rw [taken] at next silent ⊢
        by_cases main : thread = .main
        · left
          rw [outcome_of_lookup acts main stands, lookup_final found same final]
          rfl
        · have network : thread = .network := by
            cases thread with
            | main => exact absurd rfl main
            | network => rfl
          rcases (keeps_acts holds acts).rows rec.eventId row found with ⟨after, foundAfter, kept⟩
          have quiet : acted.emits.find? ChildOutput.ofSend = none := by
            rw [List.find?_eq_none]
            intro other emitted
            rw [ofSend_network holds acts network other emitted]
            decide
          have point := (Program.install_point_of_ne state acted (Ne.symm main)).trans stands
          rw [quiet, Option.none_or]
          exact (ih next alive.2 point foundAfter (kept.payload.trans same)
            (kept.outcome final)).imp_right (And.imp_right (silent quiet))
      · exact absurd rfl alive.1
      · rw [taken] at next silent ⊢
        rw [List.find?_nil, Option.none_or]
        exact (ih next alive.2 stands found same final).imp_right (And.imp_right (silent rfl))

/-- A send called while no other runs is answered from the ledger, if its session
is subscribed. -/
theorem answered_send {steps : List ChildStep} (holds : config.assertions.Holds state)
    (alive : .crash () ∉ steps) (free : state.point .main = none)
    (found : config.find state.memory rec.eventId = some row) (same : row.payload = rec)
    (final : row.status.outcome = some outcome) :
    (config.program.machine.trace state (.call (.send rec now) :: steps)).find?
        ChildOutput.ofSend = some (.returned rec (state.memory.session.answer outcome)) ∨
      (config.program.machine.trace state (.call (.send rec now) :: steps)).find?
        ChildOutput.ofSend = none ∧ ∀ input, .resume .main input ∉ steps := by
  have next : config.assertions.Holds (config.program.step state (.call (.send rec now))).1 :=
    (outline config).step holds trivial
  have taken : config.program.step state (.call (.send rec now)) =
      (Program.install state .main (config.start state.memory (.send rec now)),
        (config.start state.memory (.send rec now)).emits) :=
    Program.Acts.step_eq config.program (.call (ChildRoutine.send rec now) free)
  have traced : config.program.machine.trace state (.call (.send rec now) :: steps) =
      (config.start state.memory (.send rec now)).emits ++ config.program.machine.trace
        (Program.install state .main (config.start state.memory (.send rec now))) steps := by
    change (config.program.step state _).2 ++
      config.program.machine.trace (config.program.step state _).1 steps = _
    rw [taken]
  rw [taken] at next
  rw [traced, Session.answer]
  by_cases subscribed : state.memory.session.subscribed = true
  · rw [if_pos subscribed]
    rw [start, if_pos subscribed] at next ⊢
    have stands : (Program.install state ChildThread.main
        (proceed state.memory (.lookup rec now))).point .main = some (.lookup rec now) :=
      Program.install_point_self _ _ _
    exact answered_lookup next alive stands found same final
  · left
    rw [if_neg subscribed, start, if_neg subscribed]
    rfl

end Sends

/-- Final outcomes are final in every run, and a later send is answered from the
ledger as far as the session is subscribed. -/
theorem finalOutcomes (config : AckSession) (memory : ChildMemory) (steps : List ChildStep) :
    FinalOutcomes config Session.answer (Program.idle memory) steps := by
  constructor
  · intro earlier later eventId row split found status
    subst split
    rw [Machine.final_append]
    rcases (keeps_run (holds_run memory earlier) later).rows eventId row found with
      ⟨next, foundNext, kept⟩
    exact ⟨next, foundNext, kept.acked status⟩
  · intro earlier later eventId row split found status
    subst split
    rw [Machine.final_append]
    rcases (keeps_run (holds_run memory earlier) later).rows eventId row found with
      ⟨next, foundNext, kept⟩
    exact ⟨next, foundNext, kept.nacked status⟩
  · intro earlier rec now later row outcome _ alive free found same final output first
    rcases answered_send (holds_run memory earlier) alive free found same final with
      told | ⟨nothing, -⟩
    · exact (Option.some.inj (told.symm.trans first)).symm
    · exact absurd (nothing.symm.trans first) (by simp)
  · rintro earlier rec now later row outcome - alive free found same final ⟨input, member⟩
    rcases answered_send (holds_run memory earlier) alive free found same final with
      told | ⟨-, none⟩
    · rw [told, Option.isSome_some]
    · exact absurd member (none input)
  · intro other eventId different
    exact (keeps_run (holds_run memory []) steps).others other eventId different

end AckSession

/-! ## A send without a subscription -/

namespace Site

/-- The bridge's ACK of the record. -/
def ackMessage : Message where
  topic := "presence/record/ack"
  retain := false
  payload := .value (.obj [("event_id", .str "r1"), ("mk_date_committed", .str "20260925120000"),
    ("committed_at_iso", .str "2026-09-25T03:00:10.000+00:00")])

def act : ChildStep := .resume .main {}
def receive : ChildStep := .resume .network {}

/-- The record is sent and acknowledged. -/
def delivery : List ChildStep :=
  [.call (.onConnect (some 1)), .call (.onSubscribe 1 [2, 2]), .call (.send record 0), act, act,
    act, .call (.onMessage ackMessage), receive, receive, act]

end Site

/-- After a disconnect an acknowledged record is answered with `PENDING`. -/
theorem not_finalOutcomes_unsubscribed :
    ¬FinalOutcomes Site.config (fun _ outcome => outcome) (Program.idle Site.empty)
      (Site.delivery ++ [.call .onDisconnect, .call (.send Site.record 700)]) := by
  intro final
  have row : ∃ row, Site.config.find (Site.config.program.machine.final (Program.idle Site.empty)
      (Site.delivery ++ [.call .onDisconnect])).memory "r1" = some row ∧
        row.payload = Site.record ∧ row.status.outcome = some .acked := by
    refine ⟨((Site.record).toRow Site.config.destination 0).asAcked none, ?_⟩
    decide +kernel
  rcases row with ⟨row, found, same, acked⟩
  have answer := final.sends (Site.delivery ++ [.call .onDisconnect]) Site.record 700 [] row .acked
    rfl List.not_mem_nil rfl found same acked (.returned Site.record .pending) (by decide +kernel)
  cases answer

end PresenceLogger.Child
