import PresenceLogger.Bridge.ExactlyOnce
import PresenceLogger.Detector.Absorbing

/-!
# Reboots of the host

The detector and the bridge run on one host, whose monotonic clock starts anew at each
reboot while their two databases stay.  An event is noted with the boot in which it
was recorded, and the baseline with the boot in which it was taken.
-/

namespace PresenceLogger.EndToEnd

open Library Bridge Detector

/-! ## The host -/

/-- What is noted of an event when its monotonic clock is read. -/
structure Recorded where
  boot : Nat
  monotonicNs : Int
  synced : Bool
  deriving DecidableEq, Repr

/-- What `_on_event` is called with for a published event. -/
def toPayload (message : EventMessage) : EventPayload where
  eventId := message.eventId
  eventType := message.event
  mkDate := message.eventTime
  monotonicNs := message.monotonicNs
  wallClockSynced := message.wallClockSynced

/-- The two processes, and what was ever published; the last two fields are not read by
either process. -/
structure Host where
  boot : Nat := 0
  detector : DetectorState
  bridge : BridgeState
  published : List EventPayload := []
  recorded : String → Option Recorded := fun _ => none
  baselineBoot : Option Nat := none

inductive HostStep where
  | detector (step : DetectorStep)
  | bridge (step : BridgeStep)
  /-- The host goes down when the bridge has performed so many steps of a routine. -/
  | reboot (routine : Routine) (performed : Nat)

/-- The events that a detector publishes. -/
def payloads (outputs : List DetectorOutput) : List EventPayload :=
  outputs.filterMap fun output =>
    match output with
    | .published message => some (toPayload message)
    | _ => none

/-- The event that a routine receives. -/
def received : Routine → Option EventPayload
  | .onEvent payload _ => some payload
  | _ => none

namespace Host

/-- `uuid4` gives no id twice. -/
def isFresh (host : Host) : DetectorStep → Bool
  | .call (.emitTransition emission) => (host.recorded emission.eventId).isNone
  | _ => true

/-- The note of an event that the detector records. -/
def note (host : Host) : DetectorStep → String → Option Recorded
  | .call (.emitTransition emission) =>
      if host.detector.point .main = none then
        Function.update host.recorded emission.eventId (some {
          boot := host.boot
          monotonicNs := emission.transition.confirmedAtMonotonicNs
          synced := emission.synced })
      else host.recorded
  | _ => host.recorded

def detect (context : RuntimeContext) (host : Host) (step : DetectorStep) : Host :=
  let next := context.program.step host.detector step
  { host with
    detector := next.1
    published := host.published ++ payloads next.2
    recorded := host.note step }

/-- The boot of the baseline after one step of the bridge. -/
def takenIn (host : Host) : Command → Option Nat
  | .pollTime reading =>
      let syncedNow := querySynced reading.query
      if syncedNow && !host.bridge.timeWatcher.isSynced then some host.boot
      else if !syncedNow && host.bridge.timeWatcher.isSynced then none
      else host.baselineBoot
  | .restart => none
  | _ => host.baselineBoot

def perform (host : Host) (command : Command) : Host :=
  { host with bridge := host.bridge.exec command, baselineBoot := host.takenIn command }

def replay (host : Host) (trace : List Command) : Host := trace.foldl perform host

/-- An event is received only if it was published. -/
def hears (host : Host) (routine : Routine) : Bool :=
  match received routine with
  | some payload => payload ∈ host.published
  | none => true

/-- What the bridge performs in a step of the host. -/
def performed (deps : BridgeDeps) (host : Host) : HostStep → List Command
  | .detector _ => []
  | .bridge step => if host.hears step.routine then step.trace deps host.bridge else []
  | .reboot routine performed =>
      if host.hears routine then (BridgeStep.cut routine performed).trace deps host.bridge
      else [.restart]

/-- A boot ends with the threads of the detector. -/
def rebooted (context : RuntimeContext) (host : Host) : Host :=
  { host with
    boot := host.boot + 1
    detector := (context.program.step host.detector (.crash ())).1 }

end Host

/-- The host; the databases survive every step. -/
def hostMachine (context : RuntimeContext) (deps : BridgeDeps) : Machine Host HostStep Empty where
  step host step :=
    (match step with
      | .detector detects => if host.isFresh detects then host.detect context detects else host
      | .bridge _ => host.replay (host.performed deps step)
      | .reboot .. => (host.replay (host.performed deps step)).rebooted context,
      [])

/-- A host on which nothing has been recorded yet. -/
structure Host.IsNew (host : Host) : Prop where
  detector : host.detector = Program.idle Table.empty
  inbox : ∀ eventId, host.bridge.inbox.get eventId = none
  baseline : host.bridge.timeWatcher.baseline = none
  published : host.published = []

/-! ## Notes that stay -/

/-- The event was recorded with this reading of the clocks. -/
def IsNoted (recorded : String → Option Recorded) (eventId : String) (monotonicNs : Int)
    (synced : Bool) : Prop :=
  ∃ boot, recorded eventId = some ⟨boot, monotonicNs, synced⟩

/-- No note is lost. -/
def Keeps (recorded later : String → Option Recorded) : Prop :=
  ∀ eventId noted, recorded eventId = some noted → later eventId = some noted

section Notes

variable {recorded later : String → Option Recorded}

theorem IsNoted.keep (keeps : Keeps recorded later) {eventId : String} {monotonicNs : Int}
    {synced : Bool} (isNoted : IsNoted recorded eventId monotonicNs synced) :
    IsNoted later eventId monotonicNs synced := by
  rcases isNoted with ⟨boot, found⟩
  exact ⟨boot, keeps _ _ found⟩

theorem keeps_note {host : Host} {step : DetectorStep} (fresh : host.isFresh step = true) :
    Keeps host.recorded (host.note step) := by
  intro eventId noted found
  unfold Host.note
  split
  next emission =>
    split
    · rw [Function.update_apply]
      split
      next here =>
        rw [Host.isFresh, ← here, found] at fresh
        cases fresh
      · exact found
    · exact found
  · exact found

end Notes

/-! ## What the detector holds -/

def PendingNoted (recorded : String → Option Recorded) (row : PendingEvent) : Prop :=
  IsNoted recorded row.eventId row.monotonicNs row.wallSynced

def BufferNoted (recorded : String → Option Recorded) (buffer : Buffer) : Prop :=
  ∀ eventId row, buffer.get eventId = some row → PendingNoted recorded row

def MessageNoted (recorded : String → Option Recorded) (message : EventMessage) : Prop :=
  IsNoted recorded message.eventId message.monotonicNs message.wallClockSynced

def PointNoted (recorded : String → Option Recorded) : DetectorPoint → Prop
  | .publishEvent message => MessageNoted recorded message
  | .republish _ row rows _ | .updateRetry _ row rows _ =>
      ∀ pending ∈ row :: rows, PendingNoted recorded pending
  | .markSent _ | .scan .. | .ended => True

/-- What an action leaves behind and publishes is noted. -/
structure OutcomeNoted (recorded : String → Option Recorded)
    (outcome : Outcome Buffer DetectorPoint DetectorOutput) : Prop where
  buffer : BufferNoted recorded outcome.memory
  point : ∀ point ∈ outcome.point, PointNoted recorded point
  published : ∀ message, .published message ∈ outcome.emits → MessageNoted recorded message

section Detector

variable {recorded : String → Option Recorded} {buffer : Buffer}

/-- An update that leaves the clocks of a row alone. -/
theorem bufferNoted_update (noted : BufferNoted recorded buffer) {eventId : String}
    (set : PendingEvent → PendingEvent) (keepsKey : ∀ row, (set row).eventId = row.eventId)
    (clocks : ∀ row, (set row).monotonicNs = row.monotonicNs ∧
      (set row).wallSynced = row.wallSynced) :
    BufferNoted recorded (buffer.update eventId set keepsKey) := by
  intro query row found
  rw [Table.get_update] at found
  split at found
  · rcases Option.map_eq_some_iff.mp found with ⟨old, before, rfl⟩
    rw [PendingNoted, keepsKey, (clocks old).1, (clocks old).2]
    exact noted query old before
  · exact noted query row found

theorem pointNoted_nextRow {now : LocalTime} {rows : List PendingEvent}
    (noted : ∀ pending ∈ rows, PendingNoted recorded pending) (later : List BufferStatus) :
    ∀ point ∈ nextRow now rows later, PointNoted recorded point := by
  intro point next
  cases rows with
  | cons row rows =>
      cases next
      exact noted
  | nil =>
      cases later with
      | nil => cases next
      | cons status later =>
          cases next
          trivial

theorem outcomeNoted_scanBuffer (noted : BufferNoted recorded buffer) (now : LocalTime)
    (status : BufferStatus) (later : List BufferStatus) :
    OutcomeNoted recorded (RuntimeContext.scanBuffer buffer now status later) where
  buffer := noted
  point := by
    apply pointNoted_nextRow
    intro pending due
    exact noted _ _ (Table.get_of_mem (Table.mem_select.mp due).1)
  published message emitted := by cases List.mem_singleton.mp emitted

variable (context : RuntimeContext)

theorem outcomeNoted_resume {point : DetectorPoint} (noted : BufferNoted recorded buffer)
    (known : PointNoted recorded point) (publish : PublishOutcome) :
    OutcomeNoted recorded (context.resume buffer point publish) := by
  have ended (outputs : List DetectorOutput)
      (silent : ∀ message, .published message ∉ outputs) : OutcomeNoted recorded
        { memory := buffer, point := some .ended, emits := outputs } := {
    buffer := noted
    point := fun next isNext => by
      cases isNext
      trivial
    published := fun message emitted => absurd emitted (silent message) }
  cases point with
  | publishEvent message =>
      cases publish with
      | raised error => exact ended _ (by simp)
      | returned =>
          exact {
            buffer := noted
            point := fun next isNext => by
              cases isNext
              trivial
            published := fun other emitted => by
              cases List.mem_singleton.mp emitted
              exact known }
  | markSent eventId =>
      exact {
        buffer := bufferNoted_update noted (fun row => row.withStatus .sent) (fun _ => rfl)
          fun _ => ⟨rfl, rfl⟩
        point := fun next isNext => by cases isNext
        published := fun message emitted => absurd emitted List.not_mem_nil }
  | scan now status later => exact outcomeNoted_scanBuffer noted now status later
  | republish now row rows later =>
      cases publish with
      | raised error => exact ended _ (by simp)
      | returned =>
          exact {
            buffer := noted
            point := fun next isNext => by
              cases isNext
              exact known
            published := fun other emitted => by
              cases List.mem_singleton.mp emitted
              exact known row (.head _) }
  | updateRetry now row rows later =>
      rw [RuntimeContext.resume]
      split
      · exact {
          buffer := bufferNoted_update noted (fun row => row.withRetry _ _) (fun _ => rfl)
            fun _ => ⟨rfl, rfl⟩
          point := pointNoted_nextRow (fun pending among => known pending (.tail _ among)) later
          published := fun message emitted => absurd emitted List.not_mem_nil }
      · exact ended _ (by simp)
  | ended => exact ended _ (by simp)

theorem outcomeNoted_start {routine : DetectorRoutine} (noted : BufferNoted recorded buffer)
    (emits : ∀ emission, routine = .emitTransition emission →
      IsNoted recorded emission.eventId emission.transition.confirmedAtMonotonicNs
        emission.synced) :
    OutcomeNoted recorded (context.start buffer routine) := by
  cases routine with
  | retryPending now => exact outcomeNoted_scanBuffer noted now .pending [.sent]
  | emitTransition emission =>
      have isNoted := emits emission rfl
      exact {
        buffer := by
          intro query row found
          have found : (buffer.insertOrIgnore emission.toRow).get query = some row := found
          rw [Table.get_insertOrIgnore] at found
          split at found
          · cases found
            exact isNoted
          · exact noted query row found
        point := fun next isNext => by
          cases isNext
          exact isNoted
        published := fun message emitted => absurd emitted List.not_mem_nil }
  | onAckMessage payload =>
      have quiet (later : Buffer) (still : BufferNoted recorded later)
          (outputs : List DetectorOutput) (silent : ∀ message, .published message ∉ outputs) :
          OutcomeNoted recorded { memory := later, point := none, emits := outputs } := {
        buffer := still
        point := fun next isNext => by cases isNext
        published := fun message emitted => absurd emitted (silent message) }
      rw [RuntimeContext.start, RuntimeContext.onAckMessage]
      split
      · exact quiet _ noted _ (by simp)
      next eventId _ =>
        refine quiet _ ?_ _ (by simp)
        cases eventId with
        | none => exact noted
        | some eventId =>
            exact bufferNoted_update noted (fun row => row.withStatus .acked) (fun _ => rfl)
              fun _ => ⟨rfl, rfl⟩
      · exact quiet _ noted _ (by simp)

end Detector

/-! ## What the host holds -/

/-- Everything on the host that carries an event's clocks is noted, and a baseline that is
held was taken in this boot. -/
structure Host.Sound (host : Host) : Prop where
  buffer : BufferNoted host.recorded host.detector.memory
  points : ∀ thread point, host.detector.point thread = some point →
    PointNoted host.recorded point
  published : ∀ payload ∈ host.published,
    IsNoted host.recorded payload.eventId payload.monotonicNs payload.wallClockSynced
  inbox : ∀ eventId row, host.bridge.inbox.get eventId = some row →
    IsNoted host.recorded row.eventId row.monotonicNs row.wallSynced
  baseline : host.bridge.timeWatcher.baseline ≠ none → host.baselineBoot = some host.boot

section Sound

variable {host : Host}

theorem sound_of_isNew (new : host.IsNew) : host.Sound where
  buffer eventId row found := by
    rw [new.detector] at found
    cases found
  points thread point stands := by
    rw [new.detector] at stands
    cases stands
  published payload among := by
    rw [new.published] at among
    exact absurd among List.not_mem_nil
  inbox eventId row found := by
    rw [new.inbox] at found
    cases found
  baseline held := absurd new.baseline held

/-! ### The detector -/

theorem Host.Sound.keep (sound : host.Sound) {recorded : String → Option Recorded}
    (keeps : Keeps host.recorded recorded) : { host with recorded := recorded }.Sound where
  buffer eventId row found := (sound.buffer eventId row found).keep keeps
  points thread point stands := by
    have known := sound.points thread point stands
    cases point with
    | publishEvent message => exact IsNoted.keep keeps known
    | republish now row rows later =>
        exact fun pending among => (known pending among).keep keeps
    | updateRetry now row rows later =>
        exact fun pending among => (known pending among).keep keeps
    | _ => trivial
  published payload among := (sound.published payload among).keep keeps
  inbox eventId row found := (sound.inbox eventId row found).keep keeps
  baseline := sound.baseline

theorem mem_payloads {outputs : List DetectorOutput} {payload : EventPayload} :
    payload ∈ payloads outputs ↔
      ∃ message, .published message ∈ outputs ∧ payload = toPayload message := by
  constructor
  · intro among
    rcases List.mem_filterMap.mp among with ⟨output, emitted, made⟩
    cases output with
    | published message => exact ⟨message, emitted, (Option.some.inj made).symm⟩
    | selected rows => cases made
    | raised error => cases made
  · rintro ⟨message, emitted, rfl⟩
    exact List.mem_filterMap.mpr ⟨_, emitted, rfl⟩

/-- An action of a thread leaves the host sound. -/
theorem Host.Sound.install (sound : host.Sound) {thread : DetectorThread}
    {outcome : Outcome Buffer DetectorPoint DetectorOutput}
    (noted : OutcomeNoted host.recorded outcome) :
    { host with
      detector := Program.install host.detector thread outcome
      published := host.published ++ payloads outcome.emits }.Sound where
  buffer := noted.buffer
  points other point stands := by
    rcases Program.of_install_point stands with ⟨-, here⟩ | ⟨-, there⟩
    · exact noted.point point here
    · exact sound.points other point there
  published payload among := by
    rcases List.mem_append.mp among with before | new
    · exact sound.published payload before
    · rcases mem_payloads.mp new with ⟨message, emitted, rfl⟩
      exact noted.published message emitted
  inbox := sound.inbox
  baseline := sound.baseline

theorem sound_detect {context : RuntimeContext} (sound : host.Sound) {step : DetectorStep}
    (fresh : host.isFresh step = true) : (host.detect context step).Sound := by
  have kept := sound.keep (keeps_note fresh)
  rcases context.program.step_cases host.detector step with
    ⟨thread, outcome, acts, same⟩ | ⟨which, rfl⟩ | same
  · rw [Host.detect, same]
    apply kept.install
    cases acts with
    | call routine free =>
        apply outcomeNoted_start context kept.buffer
        rintro emission rfl
        refine ⟨host.boot, ?_⟩
        have idle : host.detector.point .main = none := free
        simp only [Host.note, if_pos idle, Function.update_self]
    | resume thread input point stands =>
        exact outcomeNoted_resume context kept.buffer (kept.points thread point stands) input
  · exact {
      buffer := sound.buffer
      points := fun thread point stands => by cases stands
      published := fun payload among => by
        have among : payload ∈ host.published ++ [] := among
        rw [List.append_nil] at among
        exact sound.published payload among
      inbox := sound.inbox
      baseline := sound.baseline }
  · rw [Host.detect, same]
    have silent : host.published ++ payloads [] = host.published := List.append_nil _
    rw [silent]
    exact kept

/-! ### The bridge -/

/-- A step of the bridge that inserts only events that were published. -/
theorem sound_perform (sound : host.Sound) {command : Command}
    (inserts : ∀ event, command = .insertEvent event →
      IsNoted host.recorded event.eventId event.monotonicNs event.wallSynced) :
    (host.perform command).Sound where
  buffer := sound.buffer
  points := sound.points
  published := sound.published
  inbox eventId row found := by
    rw [Host.perform] at found
    cases command with
    | insertEvent event =>
        simp only [BridgeState.exec, Inbox.insertReceived, Table.get_insertOrIgnore] at found
        split at found
        · cases found
          exact inserts _ rfl
        · exact sound.inbox eventId row found
    | markSent id mkDateCommitted profileAtSend sentAtIso =>
        simp only [BridgeState.exec, Inbox.get_markSent] at found
        split at found
        · rcases Option.map_eq_some_iff.mp found with ⟨old, before, rfl⟩
          exact sound.inbox eventId old before
        · exact sound.inbox eventId row found
    | updateRetry id retryCount nextRetryAtIso lastError =>
        simp only [BridgeState.exec, Inbox.get_updateRetry] at found
        split at found
        · rcases Option.map_eq_some_iff.mp found with ⟨old, before, rfl⟩
          exact sound.inbox eventId old before
        · exact sound.inbox eventId row found
    | deleteEvent id =>
        simp only [BridgeState.exec, Table.get_delete] at found
        split at found
        · cases found
        · exact sound.inbox eventId row found
    | _ => exact sound.inbox eventId row found
  baseline := by
    intro held
    cases command with
    | pollTime reading =>
        simp only [Host.perform, BridgeState.exec, TimeWatcher.poll, Host.takenIn] at held ⊢
        split at held
        next gained => rw [if_pos gained]
        next notGained =>
          rw [if_neg notGained]
          split at held
          · exact absurd rfl held
          next notLost =>
            rw [if_neg notLost]
            exact sound.baseline held
    | restart => exact absurd rfl held
    | _ => exact sound.baseline held

theorem sound_replay (sound : host.Sound) {trace : List Command}
    (inserts : ∀ event, .insertEvent event ∈ trace →
      IsNoted host.recorded event.eventId event.monotonicNs event.wallSynced) :
    (host.replay trace).Sound := by
  induction trace generalizing host with
  | nil => exact sound
  | cons command trace ih =>
      apply ih (sound_perform sound fun event same => inserts event (same ▸ List.mem_cons_self))
      exact fun event later => inserts event (.tail _ later)

/-- What the bridge inserts it has received. -/
theorem noted_of_insertEvent {deps : BridgeDeps} (sound : host.Sound) {routine : Routine}
    (hears : host.hears routine = true) {event : InboxEvent}
    (member : .insertEvent event ∈ routine.performed deps host.bridge) :
    IsNoted host.recorded event.eventId event.monotonicNs event.wallSynced := by
  rcases Routine.of_insertEvent member with ⟨payload, receivedAt, rfl, rfl⟩
  exact sound.published payload (of_decide_eq_true hears)

theorem sound_performed (deps : BridgeDeps) (sound : host.Sound) (step : HostStep) :
    (host.replay (host.performed deps step)).Sound := by
  apply sound_replay sound
  intro event member
  cases step with
  | detector step => exact absurd member List.not_mem_nil
  | bridge step =>
      rw [Host.performed] at member
      split at member
      next hears =>
        exact noted_of_insertEvent sound hears
          (BridgeStep.mem_performed_of_mem_trace member (by simp))
      · exact absurd member List.not_mem_nil
  | reboot routine performed =>
      rw [Host.performed] at member
      split at member
      next hears =>
        have cut : .insertEvent event ∈ (BridgeStep.cut routine performed).trace deps host.bridge :=
          member
        exact noted_of_insertEvent sound hears
          (BridgeStep.mem_performed_of_mem_trace cut (by simp))
      · cases List.mem_singleton.mp member

/-- A reboot leaves no baseline. -/
theorem baseline_reboot (deps : BridgeDeps) (host : Host) (routine : Routine) (count : Nat) :
    (host.replay (host.performed deps (.reboot routine count))).bridge.timeWatcher.baseline =
      none := by
  have last (trace : List Command) :
      (host.replay (trace ++ [.restart])).bridge.timeWatcher.baseline = none := by
    rw [Host.replay, List.foldl_append]
    rfl
  rw [Host.performed]
  split
  · exact last _
  · exact last []

theorem sound_step (context : RuntimeContext) (deps : BridgeDeps) (sound : host.Sound)
    (step : HostStep) : ((hostMachine context deps).step host step).1.Sound := by
  have performed := sound_performed deps sound step
  cases step with
  | detector detects =>
      simp only [hostMachine]
      split
      next fresh => exact sound_detect sound fresh
      · exact sound
  | bridge step => exact performed
  | reboot routine count =>
      exact {
        buffer := performed.buffer
        points := fun thread point stands => by cases stands
        published := performed.published
        inbox := performed.inbox
        baseline := fun held => absurd (baseline_reboot deps host routine count) held }

end Sound

/-! ## Dates from the baseline -/

/-- The call of the event sender in a step. -/
def HostStep.senderCall : HostStep → Option SenderCall
  | .bridge (.complete (.senderRunOnce call)) => some call
  | .bridge (.cut (.senderRunOnce call) _) => some call
  | .reboot (.senderRunOnce call) _ => some call
  | _ => none

/-- Every event that was recorded without sync and is merged has got its date from a
baseline of the boot in which its clock was read. -/
def DatedInItsBoot (deps : BridgeDeps) (host : Host) (step : HostStep) : Prop :=
  ∀ attempt event, .merge attempt ∈ host.performed deps step → attempt.path = .event →
    host.bridge.inbox.get attempt.eventId = some event → event.wallSynced = false →
    ∃ noted baseline, host.recorded event.eventId = some noted ∧
      noted.monotonicNs = event.monotonicNs ∧
      host.bridge.timeWatcher.baseline = some baseline ∧
      attempt.key.mkDate = baseline.mkDate event.monotonicNs ∧
      host.baselineBoot = some noted.boot

/-- When the sender is let through on a baseline, the due events that were recorded without
sync are of the present boot. -/
def DueInThisBoot (host : Host) (step : HostStep) : Prop :=
  ∀ call ∈ step.senderCall, ∀ profileName profile, call.Admits host.bridge profileName profile →
    host.bridge.timeWatcher.baseline ≠ none →
    ∀ event ∈ host.bridge.inbox.iterReceivedDue call.now.isoformat, event.wallSynced = false →
      ∀ noted, host.recorded event.eventId = some noted → noted.boot = host.boot

/-- An event MERGE is made by the sender's call. -/
theorem attempts_of_merge {deps : BridgeDeps} {host : Host} {step : HostStep}
    {attempt : MergeAttempt} (member : .merge attempt ∈ host.performed deps step)
    (path : attempt.path = .event) :
    ∃ call ∈ step.senderCall, ∃ profileName profile event mkDate,
      deps.sender.Attempts host.bridge call profileName profile event mkDate ∧
        attempt = deps.sender.attempt profile profileName mkDate call event := by
  have ofCall {routine : Routine}
      (inRoutine : .merge attempt ∈ routine.performed deps host.bridge) :
      ∃ call, routine = .senderRunOnce call ∧ ∃ profileName profile event mkDate,
        deps.sender.Attempts host.bridge call profileName profile event mkDate ∧
          attempt = deps.sender.attempt profile profileName mkDate call event := by
    rcases Routine.of_merge inRoutine with ⟨call, rfl, -, inCall⟩ | ⟨call, -, other, -⟩
    · exact ⟨call, rfl, deps.sender.merge_mem_runOnce.mp inCall⟩
    · cases path.symm.trans other
  cases step with
  | detector step => exact absurd member List.not_mem_nil
  | bridge step =>
      rw [Host.performed] at member
      split at member
      · rcases ofCall (BridgeStep.mem_performed_of_mem_trace member (by simp)) with
          ⟨call, isCall, attempts⟩
        refine ⟨call, ?_, attempts⟩
        cases step with
        | complete routine =>
            have isCall : routine = .senderRunOnce call := isCall
            subst isCall
            rfl
        | cut routine count =>
            have isCall : routine = .senderRunOnce call := isCall
            subst isCall
            rfl
      · exact absurd member List.not_mem_nil
  | reboot routine count =>
      rw [Host.performed] at member
      split at member
      · have cut : .merge attempt ∈ (BridgeStep.cut routine count).trace deps host.bridge :=
          member
        rcases ofCall (BridgeStep.mem_performed_of_mem_trace cut (by simp)) with
          ⟨call, isCall, attempts⟩
        have isCall : routine = .senderRunOnce call := isCall
        subst isCall
        exact ⟨call, rfl, attempts⟩
      · cases List.mem_singleton.mp member

/-- An event without a date of its own is dated by the baseline. -/
theorem baseline_of_resolveMkDate {baseline : Option SyncBaseline} {event : InboxEvent}
    {mkDate : String} (unsynced : event.wallSynced = false)
    (dated : resolveMkDate baseline event = some mkDate) :
    ∃ held, baseline = some held ∧ mkDate = held.mkDate event.monotonicNs := by
  have own : (event.mkDate.filter fun mkDate => event.wallSynced ∧ mkDate ≠ "") = none := by
    cases event.mkDate <;> simp [unsynced, Option.filter]
  rw [resolveMkDate, own] at dated
  rcases Option.map_eq_some_iff.mp dated with ⟨held, rfl, same⟩
  exact ⟨held, rfl, same.symm⟩

theorem datedInItsBoot_of_sound {deps : BridgeDeps} {host : Host} {step : HostStep}
    (sound : host.Sound) (due : DueInThisBoot host step) : DatedInItsBoot deps host step := by
  intro attempt event member path found unsynced
  rcases attempts_of_merge member path with
    ⟨call, isCall, profileName, profile, row, mkDate, attempts, rfl⟩
  have same : row = event := Option.some.inj ((Inbox.get_of_due attempts.due).symm.trans found)
  subst same
  rcases baseline_of_resolveMkDate unsynced attempts.dated with ⟨baseline, held, date⟩
  have present : host.bridge.timeWatcher.baseline ≠ none := by
    rw [held]
    exact Option.some_ne_none _
  rcases sound.inbox _ _ found with ⟨boot, isNoted⟩
  have here := due call isCall profileName profile attempts.toAdmits present row attempts.due
    unsynced _ isNoted
  refine ⟨_, baseline, isNoted, rfl, held, date, ?_⟩
  rw [sound.baseline present]
  exact congrArg some here.symm

/-- A run in which no event without sync is due after its boot, when there is a baseline
again, dates every such event by a baseline of its boot. -/
theorem datedInItsBoot_run (context : RuntimeContext) (deps : BridgeDeps) {host : Host}
    (new : host.IsNew) {steps : List HostStep}
    (due : (hostMachine context deps).Meets DueInThisBoot host steps) :
    (hostMachine context deps).Meets (DatedInItsBoot deps) host steps := by
  apply Machine.Meets.of_stateInvariant _ (sound_of_isNew new) due
  intro state step sound allowed
  exact ⟨sound_step context deps sound step, datedInItsBoot_of_sound sound allowed⟩

namespace Site

/-- The site before its first event. -/
def host : Host where
  detector := Program.idle Table.empty
  bridge := Site.bridge [] []

theorem host_isNew : host.IsNew where
  detector := rfl
  inbox _ := rfl
  baseline := rfl
  published := rfl

/-- An event five seconds after boot, on a host without sync, and what becomes of it on
its way to the bridge. -/
def receivedUnsynced : List HostStep :=
  [.detector (.call (.emitTransition { Site.emission with
      transition := ⟨.enter, 5000000000, .float (9 / 10)⟩
      synced := false })),
    .detector Site.publish, .detector Site.markSent,
    .bridge (.complete (.onEvent Site.undated (Site.time 6)))]

def gainSync : HostStep := .bridge (Site.clock 10 "yes" (Site.time 10))

def call : SenderCall := Site.senderCall 11 (Site.answered (.committed 1))

def send : HostStep := .bridge (.complete (.senderRunOnce call))

/-- The host goes down before it has sync. -/
def rebootedUnsynced : List HostStep :=
  receivedUnsynced ++ [.reboot (.pollNetwork Site.nmcli) 0, gainSync]

/-- The date that the baseline of the second boot gives to the event. -/
def misdated : MergeAttempt :=
  Site.deps.sender.attempt Site.profile "HIME-H-REAP" "20260925120005" call
    (Site.undated.toRow (some "HIME-H-REAP") (Site.time 6))

end Site

/-- The event is received in the first boot and dated in the second. -/
theorem not_datedInItsBoot_rebooted :
    Site.host.IsNew ∧
      ¬(hostMachine Site.context Site.deps).Meets (DatedInItsBoot Site.deps) Site.host
        (Site.rebootedUnsynced ++ [Site.send]) := by
  refine ⟨Site.host_isNew, ?_⟩
  intro dated
  have last := ((Machine.meets_append _ _ _ _ _).mp dated).2.1
  rcases last Site.misdated (Site.undated.toRow (some "HIME-H-REAP") (Site.time 6))
    (by decide +kernel) rfl (by decide +kernel) rfl with ⟨noted, baseline, found, -, -, -, taken⟩
  have first : ((hostMachine Site.context Site.deps).final Site.host
      Site.rebootedUnsynced).recorded "e1" = some ⟨0, 5000000000, false⟩ := by
    decide +kernel
  have second : ((hostMachine Site.context Site.deps).final Site.host
      Site.rebootedUnsynced).baselineBoot = some 1 := by
    decide +kernel
  cases first.symm.trans found
  cases second.symm.trans taken

/-- It is dated in its boot when sync comes before the next reboot. -/
theorem datedInItsBoot_synced :
    (hostMachine Site.context Site.deps).Meets (DatedInItsBoot Site.deps) Site.host
      (Site.receivedUnsynced ++ [Site.gainSync, Site.send]) := by
  apply datedInItsBoot_run Site.context Site.deps Site.host_isNew
  refine ⟨?_, ?_, ?_, ?_, ?_, ?_, trivial⟩
  case refine_6 =>
    intro call isCall profileName profile _ _ event due _ noted found
    cases isCall
    have here : ∀ event ∈ ((hostMachine Site.context Site.deps).final Site.host
        (Site.receivedUnsynced ++ [Site.gainSync])).bridge.inbox.iterReceivedDue
          Site.call.now.isoformat,
        ∀ noted ∈ ((hostMachine Site.context Site.deps).final Site.host
          (Site.receivedUnsynced ++ [Site.gainSync])).recorded event.eventId, noted.boot = 0 := by
      decide +kernel
    exact here event due noted found
  all_goals
    intro call isCall
    cases isCall

end PresenceLogger.EndToEnd
