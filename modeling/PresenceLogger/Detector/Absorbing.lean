import PresenceLogger.Detector.Main

/-!
# An acknowledged event

`mark_sent` is unconditional, so an ACK that arrives while the main thread is
still emitting the event is overwritten.  Outside that window `acked` is final.
-/

namespace PresenceLogger.Detector

open Library

abbrev DetectorState := ThreadState DetectorThread DetectorPoint Buffer

abbrev DetectorStep := ThreadStep DetectorThread DetectorRoutine PublishOutcome Unit

/-- In the rest of a run, an event that is `acked` stays so and no retry scan
selects it. -/
def AckedAbsorbs (context : RuntimeContext) (init : DetectorState) (steps : List DetectorStep) :
    Prop :=
  ∀ earlier later eventId, steps = earlier ++ later →
    (context.program.machine.final init earlier).memory.status eventId = some .acked →
    (context.program.machine.final init steps).memory.status eventId = some .acked ∧
      ∀ rows, .selected rows ∈
          context.program.machine.trace (context.program.machine.final init earlier) later →
        ∀ row ∈ rows, row.eventId ≠ eventId

/-- The main thread is between `insert_pending` and `mark_sent` of an event. -/
def DetectorPoint.emits (eventId : String) : DetectorPoint → Prop
  | .publishEvent message => message.eventId = eventId
  | .markSent sentId => sentId = eventId
  | _ => False

/-- No ACK arrives while its event is being emitted, and `uuid4` gives an id that
is new to the buffer. -/
structure Undisturbed (state : DetectorState) (step : DetectorStep) : Prop where
  fresh : ∀ emission, step = .call (.emitTransition emission) →
    state.memory.status emission.eventId = none
  window : ∀ payload eventId, step = .call (.onAckMessage payload) →
    ackedId payload = .ok (some (some eventId)) →
    ∀ point, state.point .main = some point → ¬point.emits eventId

/-- What the main thread relies on: the event it emits is not acknowledged, and
its scans are for other statuses. -/
def DetectorPoint.Knows (buffer : Buffer) : DetectorPoint → Prop
  | .publishEvent message => buffer.status message.eventId ≠ some .acked
  | .markSent eventId => buffer.status eventId ≠ some .acked
  | .scan _ status later => status ≠ .acked ∧ .acked ∉ later
  | .republish _ _ _ later | .updateRetry _ _ _ later => .acked ∉ later
  | .ended => True

def assertions : Program.Assertions DetectorThread DetectorPoint Buffer where
  always _ := True
  knows
    | .main, point, buffer => point.Knows buffer
    | .mqtt, _, _ => False

theorem knows_nextRow {now : LocalTime} {rows : List PendingEvent} {later : List BufferStatus}
    (others : .acked ∉ later) {point : DetectorPoint} (next : point ∈ nextRow now rows later)
    (buffer : Buffer) : point.Knows buffer := by
  cases rows with
  | cons row rows =>
      cases Option.mem_some.mp next
      exact others
  | nil =>
      cases later with
      | nil => cases next
      | cons status later =>
          cases Option.mem_some.mp next
          rw [List.mem_cons, not_or] at others
          exact ⟨fun same => others.1 same.symm, others.2⟩

section Undisturbed

variable {context : RuntimeContext} {state : DetectorState} {step : DetectorStep}
  {thread : DetectorThread} {outcome : Outcome Buffer DetectorPoint DetectorOutput}

/-- The MQTT thread handles an ACK in one action. -/
theorem point_onAckMessage (buffer : Buffer) (payload : Decoded) :
    (RuntimeContext.onAckMessage buffer payload).point = none := by
  rw [RuntimeContext.onAckMessage]
  split <;> rfl

/-- Every action establishes what its thread relies on next. -/
theorem knows_own (holds : assertions.Holds state) (undisturbed : Undisturbed state step)
    (acts : context.program.Acts state step thread outcome) {point : DetectorPoint}
    (next : point ∈ outcome.point) : assertions.knows thread point outcome.memory := by
  cases acts with
  | call routine free =>
      cases routine with
      | emitTransition emission =>
          cases Option.mem_some.mp next
          have absent := undisturbed.fresh emission rfl
          change (state.memory.insertPending emission.toRow).status emission.eventId ≠ some .acked
          rw [Buffer.status_insertPending, if_pos ⟨rfl, absent⟩]
          intro same
          cases same
      | retryPending now => exact knows_nextRow (by decide) next _
      | onAckMessage payload =>
          change point ∈ (RuntimeContext.onAckMessage state.memory payload).point at next
          rw [point_onAckMessage] at next
          cases next
  | resume thread publish point stands =>
      have relied := holds.2 thread point stands
      cases thread with
      | mqtt => exact absurd relied id
      | main =>
          cases point with
          | publishEvent message =>
              cases publish with
              | returned =>
                  cases Option.mem_some.mp next
                  exact relied
              | raised error =>
                  cases Option.mem_some.mp next
                  trivial
          | markSent eventId => cases next
          | scan now status later => exact knows_nextRow relied.2 next _
          | republish now row rows later =>
              cases publish with
              | returned =>
                  cases Option.mem_some.mp next
                  exact relied
              | raised error =>
                  cases Option.mem_some.mp next
                  trivial
          | updateRetry now row rows later =>
              simp only [RuntimeContext.program, RuntimeContext.resume] at next
              split at next
              · exact knows_nextRow relied next _
              · cases Option.mem_some.mp next
                trivial
          | ended =>
              cases Option.mem_some.mp next
              trivial

/-- An ACK leaves the main thread's assertion alone when it comes outside the
window of its event. -/
theorem knows_onAckMessage {payload : Decoded} {buffer : Buffer} {point : DetectorPoint}
    (relied : point.Knows buffer)
    (window : ∀ eventId, ackedId payload = .ok (some (some eventId)) → ¬point.emits eventId) :
    point.Knows (RuntimeContext.onAckMessage buffer payload).memory := by
  rw [RuntimeContext.onAckMessage]
  split
  · exact relied
  next bound acked =>
    cases bound with
    | none => exact relied
    | some eventId =>
        have apart := window eventId acked
        cases point with
        | publishEvent message =>
            have other : some message.eventId ≠ some eventId :=
              fun same => apart (Option.some.inj same)
            rw [DetectorPoint.Knows, Buffer.status_markAcked, if_neg other]
            exact relied
        | markSent sentId =>
            have other : some sentId ≠ some eventId := fun same => apart (Option.some.inj same)
            rw [DetectorPoint.Knows, Buffer.status_markAcked, if_neg other]
            exact relied
        | _ => exact relied
  · exact relied

/-- Only ACKs interfere with the main thread. -/
theorem knows_other (holds : assertions.Holds state) (undisturbed : Undisturbed state step)
    (acts : context.program.Acts state step thread outcome) (bystander : DetectorThread)
    (point : DetectorPoint) (apart : bystander ≠ thread)
    (stands : state.point bystander = some point) :
    assertions.knows bystander point outcome.memory := by
  have relied := holds.2 bystander point stands
  cases bystander with
  | mqtt => exact absurd relied id
  | main =>
      cases acts with
      | call routine free =>
          cases routine with
          | emitTransition emission => exact absurd rfl apart
          | retryPending now => exact absurd rfl apart
          | onAckMessage payload =>
              apply knows_onAckMessage relied
              intro eventId acked
              exact undisturbed.window payload eventId rfl acked point stands
      | resume thread publish other standsOther =>
          cases thread with
          | main => exact absurd rfl apart
          | mqtt => exact absurd (holds.2 .mqtt other standsOther) id

/-- The assertions are a sound outline of the detector. -/
def outline (context : RuntimeContext) : context.program.Outline Undisturbed where
  toAssertions := assertions
  own _ _ _ _ holds undisturbed acts :=
    ⟨trivial, fun _ next => knows_own holds undisturbed acts next⟩
  other _ _ _ _ holds undisturbed acts := knows_other holds undisturbed acts
  crash _ _ _ _ := ⟨trivial, fun _ _ alive => nomatch alive⟩

/-- A scan for another status does not select an acknowledged event. -/
theorem not_selected {buffer : Buffer} {eventId : String}
    (acked : buffer.status eventId = some .acked) {now : LocalTime} {status : BufferStatus}
    {later : List BufferStatus} (other : status ≠ .acked) {rows : List PendingEvent}
    (selected : .selected rows ∈ (RuntimeContext.scanBuffer buffer now status later).emits) :
    ∀ row ∈ rows, row.eventId ≠ eventId := by
  intro row member same
  simp only [RuntimeContext.scanBuffer, List.mem_singleton, DetectorOutput.selected.injEq]
    at selected
  rw [selected] at member
  have found := Buffer.status_of_due member
  rw [same, acked] at found
  exact other (Option.some.inj found).symm

/-- An action of a thread keeps an event acknowledged and does not select it. -/
theorem acked_acts (holds : assertions.Holds state) (undisturbed : Undisturbed state step)
    (acts : context.program.Acts state step thread outcome) {eventId : String}
    (acked : state.memory.status eventId = some .acked) :
    outcome.memory.status eventId = some .acked ∧
      ∀ rows, .selected rows ∈ outcome.emits → ∀ row ∈ rows, row.eventId ≠ eventId := by
  cases acts with
  | call routine free =>
      cases routine with
      | emitTransition emission =>
          constructor
          · change (state.memory.insertPending emission.toRow).status eventId = _
            rw [Buffer.status_insertPending, if_neg, acked]
            rw [acked]
            rintro ⟨-, absent⟩
            cases absent
          · intro rows selected
            cases selected
      | retryPending now =>
          exact ⟨acked, fun rows selected => not_selected acked (by decide) selected⟩
      | onAckMessage payload =>
          simp only [RuntimeContext.program, RuntimeContext.start, RuntimeContext.onAckMessage]
          split
          · exact ⟨acked, fun rows selected => nomatch selected⟩
          · refine ⟨?_, fun rows selected => nomatch selected⟩
            rw [Buffer.status_markAcked, acked]
            split <;> rfl
          · refine ⟨acked, fun rows selected => ?_⟩
            cases List.mem_singleton.mp selected
  | resume thread publish point stands =>
      have relied := holds.2 thread point stands
      cases thread with
      | mqtt => exact absurd relied id
      | main =>
          cases point with
          | publishEvent message =>
              cases publish with
              | returned =>
                  exact ⟨acked, fun rows selected => by cases List.mem_singleton.mp selected⟩
              | raised error =>
                  exact ⟨acked, fun rows selected => by cases List.mem_singleton.mp selected⟩
          | markSent sentId =>
              refine ⟨?_, fun rows selected => nomatch selected⟩
              change (state.memory.markSent sentId).status eventId = _
              rw [Buffer.status_markSent, if_neg, acked]
              rintro rfl
              exact relied acked
          | scan now status later =>
              exact ⟨acked, fun rows selected => not_selected acked relied.1 selected⟩
          | republish now row rows later =>
              cases publish with
              | returned =>
                  exact ⟨acked, fun rows selected => by cases List.mem_singleton.mp selected⟩
              | raised error =>
                  exact ⟨acked, fun rows selected => by cases List.mem_singleton.mp selected⟩
          | updateRetry now row rows later =>
              simp only [RuntimeContext.program, RuntimeContext.resume]
              split
              · refine ⟨?_, fun rows selected => nomatch selected⟩
                rw [Buffer.status_updateRetryMetadata]
                exact acked
              · exact ⟨acked, fun rows selected => by cases List.mem_singleton.mp selected⟩
          | ended => exact ⟨acked, fun rows selected => nomatch selected⟩

end Undisturbed

section Runs

variable {context : RuntimeContext} {state : DetectorState}

theorem acked_step {step : DetectorStep} (holds : assertions.Holds state)
    (undisturbed : Undisturbed state step) {eventId : String}
    (acked : state.memory.status eventId = some .acked) :
    (context.program.step state step).1.memory.status eventId = some .acked ∧
      ∀ rows, .selected rows ∈ (context.program.step state step).2 →
        ∀ row ∈ rows, row.eventId ≠ eventId := by
  rcases context.program.step_cases state step with
    ⟨thread, outcome, acts, same⟩ | ⟨which, rfl⟩ | same
  · rw [same]
    exact acked_acts holds undisturbed acts acked
  · exact ⟨acked, fun rows selected => nomatch selected⟩
  · rw [same]
    exact ⟨acked, fun rows selected => nomatch selected⟩

theorem acked_run {steps : List DetectorStep} (holds : assertions.Holds state)
    (undisturbed : context.program.machine.Meets Undisturbed state steps) {eventId : String}
    (acked : state.memory.status eventId = some .acked) :
    (context.program.machine.final state steps).memory.status eventId = some .acked ∧
      ∀ rows, .selected rows ∈ context.program.machine.trace state steps →
        ∀ row ∈ rows, row.eventId ≠ eventId := by
  induction steps generalizing state with
  | nil => exact ⟨acked, fun rows selected => nomatch selected⟩
  | cons step steps ih =>
      rcases @acked_step context state step holds undisturbed.1 eventId acked with
        ⟨still, unselected⟩
      rcases ih ((outline context).step holds undisturbed.1) undisturbed.2 still with
        ⟨atEnd, later⟩
      refine ⟨atEnd, ?_⟩
      intro rows selected
      rcases List.mem_append.mp selected with here | afterwards
      · exact unselected rows here
      · exact later rows afterwards

/-- In a run without an ACK in the window of its event, `acked` is final. -/
theorem ackedAbsorbs_of_undisturbed (context : RuntimeContext) (buffer : Buffer)
    (steps : List DetectorStep)
    (undisturbed : context.program.machine.Meets Undisturbed (Program.idle buffer) steps) :
    AckedAbsorbs context (Program.idle buffer) steps := by
  intro earlier later eventId split acked
  subst split
  rw [Machine.meets_append] at undisturbed
  have start : (outline context).Holds (Program.idle buffer) :=
    ⟨trivial, fun thread point stands => nomatch stands⟩
  have reached := (outline context).run start undisturbed.1
  rw [Machine.final_append]
  exact acked_run reached undisturbed.2 acked

end Runs

/-! ## An ACK in the window -/

namespace Site

def context : RuntimeContext where
  deviceId := "hub"
  retryPolicy := ⟨.int 5, .int 3, .int 600⟩

/-- 2026-09-25 12:00:00 in Japan and the given number of seconds. -/
def localTime (seconds : Int) : LocalTime where
  wall := ⟨(63925934400 + seconds) * Instant.microsPerSecond⟩
  offset := 9 * 3600 * Instant.microsPerSecond

def emission : Emission where
  transition := ⟨.enter, 0, .float (9 / 10)⟩
  eventId := "e1"
  synced := true
  now := localTime 0

/-- The bridge's ACK of the event. -/
def ackMessage : Decoded :=
  .value (.obj [("event_id", .str "e1"), ("mk_date_committed", .str "20260925120000")])

def emit : DetectorStep := .call (.emitTransition emission)
def publish : DetectorStep := .resume .main .returned
def receiveAck : DetectorStep := .call (.onAckMessage ackMessage)
def markSent : DetectorStep := .resume .main .returned

/-- An event is emitted and acknowledged, and a scan follows. -/
def acknowledged : List DetectorStep :=
  [emit, publish, markSent, receiveAck, .call (.retryPending (localTime 5))]

end Site

/-- The ACK comes between `publish_event` and `mark_sent`. -/
theorem not_ackedAbsorbs_early_ack :
    ¬AckedAbsorbs Site.context (Program.idle Table.empty)
      [Site.emit, Site.publish, Site.receiveAck, Site.markSent] := by
  intro absorbs
  have still := (absorbs [Site.emit, Site.publish, Site.receiveAck] [Site.markSent] "e1" rfl
    (by decide +kernel)).1
  revert still
  decide +kernel

/-- The ACK comes after `mark_sent`. -/
theorem ackedAbsorbs_late_ack :
    AckedAbsorbs Site.context (Program.idle Table.empty) Site.acknowledged := by
  apply ackedAbsorbs_of_undisturbed
  refine ⟨⟨?_, ?_⟩, ⟨?_, ?_⟩, ⟨?_, ?_⟩, ⟨?_, ?_⟩, ⟨?_, ?_⟩, trivial⟩
  · intro emission _
    rfl
  · intro payload eventId same
    cases same
  · intro emission same
    cases same
  · intro payload eventId same
    cases same
  · intro emission same
    cases same
  · intro payload eventId same
    cases same
  · intro emission same
    cases same
  · intro payload eventId _ _ point stands
    cases stands
  · intro emission same
    cases same
  · intro payload eventId same
    cases same

end PresenceLogger.Detector
