import PresenceLogger.Bridge.RecordSender
import PresenceLogger.Library.Run

/-!
# Runs of the bridge

The routines of the main loop and of the two message handlers, taken in any
order.  A routine either completes (up to an exception of its own) or is cut
short by a crash after any number of its atomic steps.
-/

namespace PresenceLogger.Bridge

open Library

structure BridgeDeps where
  sender : SenderDeps
  recordSender : RecordSenderDeps
  deriving DecidableEq, Repr

/-- The parts of a parsed event that `_on_event` stores in modelled columns. -/
structure EventPayload where
  eventId : String
  eventType : EventType
  mkDate : Option String
  monotonicNs : Int
  wallClockSynced : Bool
  deriving DecidableEq, Repr

/-- The parts of a parsed record that `_on_record` stores in modelled columns. -/
structure RecordPayload where
  eventId : String
  mkDate : String
  staNo1 : String
  staNo2 : String
  staNo3 : String
  t1Status : Int
  deviceId : Option String
  deriving DecidableEq, Repr

/-- The row `_on_event` builds. -/
def EventPayload.toRow (payload : EventPayload) (ssid : Option String) (receivedAt : Instant) :
    InboxEvent where
  eventId := payload.eventId
  eventType := payload.eventType
  mkDate := payload.mkDate
  monotonicNs := payload.monotonicNs
  wallSynced := payload.wallClockSynced
  status := .received
  ssidAtReceive := ssid
  profileAtSend := none
  mkDateCommitted := none
  receivedAtIso := receivedAt.isoformat
  sentAtIso := none
  retryCount := 0
  nextRetryAtIso := none
  lastError := none

/-- The row `_on_record` builds. -/
def RecordPayload.toRow (payload : RecordPayload) (receivedAt : Instant) : RecordInboxEvent where
  eventId := payload.eventId
  mkDate := payload.mkDate
  staNo1 := payload.staNo1
  staNo2 := payload.staNo2
  staNo3 := payload.staNo3
  t1Status := payload.t1Status
  deviceId := payload.deviceId
  status := .received
  receivedAtIso := receivedAt.isoformat
  sentAtIso := none
  mkDateCommitted := none
  retryCount := 0
  nextRetryAtIso := none
  lastError := none

inductive Routine where
  | senderRunOnce (call : SenderCall)
  | recordRunOnce (call : RecordSenderCall)
  | onEvent (payload : EventPayload) (receivedAt : Instant)
  | onRecord (payload : RecordPayload) (receivedAt : Instant)
  | pollNetwork (nmcli : CommandOutcome)
  | pollTime (reading : ClockReading)
  | deleteSentEvents (keepNewest : Int)
  | deleteSentRecords (keepNewest : Int)
  | ringEvictEvents (maxRows : Int)
  | ringEvictRecords (maxRows : Int)

/-- `_on_event` -/
def BridgeState.onEvent (bridge : BridgeState) (payload : EventPayload) (receivedAt : Instant) :
    List Command :=
  match bridge.resolver.peek bridge.network.cachedSsid with
  | .drop => []
  | .send _ | .hold => [.insertEvent (payload.toRow bridge.network.cachedSsid receivedAt)]

section Machine

variable (deps : BridgeDeps)

def Routine.plan (bridge : BridgeState) : Routine → List Command
  | .senderRunOnce call => deps.sender.runOnce bridge call
  | .recordRunOnce call => deps.recordSender.runOnce bridge call
  | .onEvent payload receivedAt => bridge.onEvent payload receivedAt
  | .onRecord payload receivedAt => deps.recordSender.receive bridge (payload.toRow receivedAt)
  | .pollNetwork nmcli => [.getCurrentSsid nmcli]
  | .pollTime reading => [.pollTime reading]
  | .deleteSentEvents keepNewest => (bridge.inbox.deleteSentIds keepNewest).map .deleteEvent
  | .deleteSentRecords keepNewest =>
      (bridge.recordInbox.deleteSentIds keepNewest).map .deleteRecord
  | .ringEvictEvents maxRows => (bridge.inbox.ringEvictIds maxRows).map .deleteEvent
  | .ringEvictRecords maxRows => (bridge.recordInbox.ringEvictIds maxRows).map .deleteRecord

/-- What a routine performs: nothing while no process runs, and otherwise its
plan up to an exception. -/
def Routine.performed (bridge : BridgeState) (routine : Routine) : List Command :=
  if bridge.running then upToRaise (routine.plan deps bridge) else []

theorem Routine.performed_cases (bridge : BridgeState) (routine : Routine) :
    routine.performed deps bridge = upToRaise (routine.plan deps bridge) ∨
      routine.performed deps bridge = [] := by
  unfold performed
  split
  · exact .inl rfl
  · exact .inr rfl

inductive BridgeStep where
  | complete (routine : Routine)
  /-- The process dies after so many atomic steps, and a new one starts. -/
  | cut (routine : Routine) (performed : Nat)

def BridgeStep.trace (bridge : BridgeState) : BridgeStep → List Command
  | .complete routine => routine.performed deps bridge
  | .cut routine performed => (routine.performed deps bridge).take performed ++ [.restart]

/-- The bridge as a machine whose outputs are its atomic steps. -/
def bridgeMachine : Machine BridgeState BridgeStep Command where
  step bridge step := (bridge.replay (step.trace deps bridge), step.trace deps bridge)

/-- The state a run ends in is the effect of its trace. -/
theorem final_eq_replay (bridge : BridgeState) (steps : List BridgeStep) :
    (bridgeMachine deps).final bridge steps =
      bridge.replay ((bridgeMachine deps).trace bridge steps) := by
  induction steps generalizing bridge with
  | nil => rfl
  | cons step steps ih =>
      rw [Machine.final, Machine.trace, BridgeState.replay_append]
      exact ih _

theorem final_complete (bridge : BridgeState) (routine : Routine) :
    (bridgeMachine deps).final bridge [.complete routine] =
      bridge.replay (routine.performed deps bridge) := rfl

/-! ## Which routine a step comes from -/

variable {deps}

theorem Routine.mem_plan_of_mem_performed {bridge : BridgeState} {routine : Routine}
    {command : Command} (member : command ∈ routine.performed deps bridge) :
    command ∈ routine.plan deps bridge := by
  unfold performed at member
  split at member
  · exact mem_of_mem_upToRaise member
  · exact absurd member List.not_mem_nil

theorem Routine.running_of_mem {bridge : BridgeState} {routine : Routine}
    {command : Command} (member : command ∈ routine.performed deps bridge) :
    bridge.running = true := by
  unfold performed at member
  split at member
  next running => exact running
  next => exact absurd member List.not_mem_nil

def BridgeStep.routine : BridgeStep → Routine
  | .complete routine | .cut routine _ => routine

/-- What a step emits was planned by its routine, a restart apart. -/
theorem BridgeStep.mem_performed_of_mem_trace {bridge : BridgeState} {step : BridgeStep}
    {command : Command} (member : command ∈ step.trace deps bridge)
    (started : command ≠ .restart) : command ∈ step.routine.performed deps bridge := by
  cases step with
  | complete routine => exact member
  | cut routine performed =>
      rcases List.mem_append.mp member with inPart | last
      · exact List.mem_of_mem_take inPart
      · exact absurd (List.mem_singleton.mp last) started

/-- A step on the event path comes from the sender, the event handler or the
retention of the event inbox. -/
theorem Routine.of_concernsEvents {bridge : BridgeState} {routine : Routine}
    {command : Command} (member : command ∈ routine.performed deps bridge)
    (concerns : command.concernsEvents = true) :
    (∃ call, routine = .senderRunOnce call ∧
      command ∈ upToRaise (deps.sender.runOnce bridge call)) ∨
    (∃ payload receivedAt, routine = .onEvent payload receivedAt ∧
      command = .insertEvent (payload.toRow bridge.network.cachedSsid receivedAt)) ∨
    ∃ eventId, command = .deleteEvent eventId ∧
      ∀ payload receivedAt, routine ≠ .onEvent payload receivedAt := by
  unfold performed at member
  split at member
  next =>
    cases routine with
    | senderRunOnce call => exact .inl ⟨call, rfl, member⟩
    | recordRunOnce call =>
        rw [deps.recordSender.concernsEvents_of_mem_runOnce member] at concerns
        cases concerns
    | onEvent payload receivedAt =>
        have planned := mem_of_mem_upToRaise member
        simp only [plan, BridgeState.onEvent] at planned
        right
        left
        refine ⟨payload, receivedAt, rfl, ?_⟩
        split at planned
        · exact absurd planned List.not_mem_nil
        · exact List.mem_singleton.mp planned
        · exact List.mem_singleton.mp planned
    | onRecord payload receivedAt =>
        have planned := mem_of_mem_upToRaise member
        rw [deps.recordSender.concernsEvents_of_mem_receive planned] at concerns
        cases concerns
    | pollNetwork nmcli =>
        rw [List.mem_singleton.mp (mem_of_mem_upToRaise member)] at concerns
        cases concerns
    | pollTime reading =>
        rw [List.mem_singleton.mp (mem_of_mem_upToRaise member)] at concerns
        cases concerns
    | deleteSentEvents keepNewest | ringEvictEvents maxRows =>
        obtain ⟨eventId, -, rfl⟩ := List.mem_map.mp (mem_of_mem_upToRaise member)
        exact .inr (.inr ⟨eventId, rfl, by simp⟩)
    | deleteSentRecords keepNewest | ringEvictRecords maxRows =>
        obtain ⟨eventId, -, rfl⟩ := List.mem_map.mp (mem_of_mem_upToRaise member)
        cases concerns
  next => exact absurd member List.not_mem_nil

/-- The routines of the record path. -/
def Routine.ofRecords : Routine → Bool
  | .recordRunOnce _ | .onRecord .. => true
  | _ => false

/-- The other routines at most drop rows of records. -/
theorem Routine.concernsRecords_of_mem_performed {bridge : BridgeState} {routine : Routine}
    {command : Command} (member : command ∈ routine.performed deps bridge)
    (apart : routine.ofRecords = false) :
    command.concernsRecords = false ∨ ∃ eventId, command = .deleteRecord eventId := by
  unfold performed at member
  split at member
  next =>
    have planned := mem_of_mem_upToRaise member
    cases routine with
    | senderRunOnce call => exact .inl (deps.sender.concernsRecords_of_mem_runOnce member)
    | recordRunOnce call => cases apart
    | onEvent payload receivedAt =>
        left
        simp only [plan, BridgeState.onEvent] at planned
        split at planned
        · exact absurd planned List.not_mem_nil
        · rw [List.mem_singleton.mp planned]
          rfl
        · rw [List.mem_singleton.mp planned]
          rfl
    | onRecord payload receivedAt => cases apart
    | pollNetwork nmcli | pollTime reading =>
        left
        rw [List.mem_singleton.mp planned]
        rfl
    | deleteSentEvents keepNewest | ringEvictEvents maxRows =>
        rcases List.mem_map.mp planned with ⟨eventId, -, rfl⟩
        exact .inl rfl
    | deleteSentRecords keepNewest | ringEvictRecords maxRows =>
        rcases List.mem_map.mp planned with ⟨eventId, -, rfl⟩
        exact .inr ⟨eventId, rfl⟩
  next => exact absurd member List.not_mem_nil

/-- What enters the event inbox was delivered. -/
theorem Routine.of_insertEvent {bridge : BridgeState} {routine : Routine} {event : InboxEvent}
    (member : .insertEvent event ∈ routine.performed deps bridge) :
    ∃ payload receivedAt, routine = .onEvent payload receivedAt ∧
      event = payload.toRow bridge.network.cachedSsid receivedAt := by
  rcases Routine.of_concernsEvents member rfl with ⟨call, -, inCall⟩ |
    ⟨payload, receivedAt, routine, same⟩ | ⟨eventId, other, -⟩
  · rcases deps.sender.mem_runOnce inCall with opening |
      ⟨profileName, profile, row, mkDate, -, inRow⟩
    · exact absurd opening id
    · rcases List.mem_cons.mp inRow with other | inSettle
      · cases other
      · cases deps.sender.followsMerge_of_mem_settle inSettle
  · exact ⟨payload, receivedAt, routine, Command.insertEvent.inj same⟩
  · cases other

/-- The routines that make no MERGE and do not use the breaker. -/
def Routine.isQuiet : Routine → Bool
  | .senderRunOnce _ | .recordRunOnce _ => false
  | _ => true

theorem Routine.quiet_steps {bridge : BridgeState} {routine : Routine}
    (quiet : routine.isQuiet = true) {command : Command}
    (member : command ∈ routine.plan deps bridge) :
    (∀ attempt, command ≠ .merge attempt) ∧ ∀ profileName, ¬command.touchesBreaker profileName := by
  cases routine with
  | senderRunOnce call => cases quiet
  | recordRunOnce call => cases quiet
  | onEvent payload receivedAt =>
      simp only [plan, BridgeState.onEvent] at member
      split at member
      · exact absurd member List.not_mem_nil
      · simp [List.mem_singleton.mp member, Command.touchesBreaker]
      · simp [List.mem_singleton.mp member, Command.touchesBreaker]
  | onRecord payload receivedAt => exact deps.recordSender.receive_quiet member
  | pollNetwork nmcli => simp [List.mem_singleton.mp member, Command.touchesBreaker]
  | pollTime reading => simp [List.mem_singleton.mp member, Command.touchesBreaker]
  | deleteSentEvents keepNewest | ringEvictEvents maxRows =>
      rcases List.mem_map.mp member with ⟨eventId, -, rfl⟩
      simp [Command.touchesBreaker]
  | deleteSentRecords keepNewest | ringEvictRecords maxRows =>
      rcases List.mem_map.mp member with ⟨eventId, -, rfl⟩
      simp [Command.touchesBreaker]

theorem Routine.quiet_merges {bridge : BridgeState} {routine : Routine}
    (quiet : routine.isQuiet = true) : merges (routine.performed deps bridge) = [] := by
  apply merges_eq_nil
  intro attempt member
  exact (quiet_steps quiet (mem_plan_of_mem_performed member)).1 attempt rfl

theorem Routine.quiet_breaker {bridge : BridgeState} {routine : Routine}
    (quiet : routine.isQuiet = true) :
    (bridge.replay (routine.performed deps bridge)).breaker = bridge.breaker := by
  apply BridgeState.wholeBreakerFrame.replay
  intro command member touched
  rcases touched with ⟨profileName, touches⟩
  exact (quiet_steps quiet (mem_plan_of_mem_performed member)).2 profileName touches

/-- A MERGE comes from one of the senders. -/
theorem Routine.of_merge {bridge : BridgeState} {routine : Routine} {attempt : MergeAttempt}
    (member : .merge attempt ∈ routine.performed deps bridge) :
    (∃ call, routine = .senderRunOnce call ∧ attempt.path = .event ∧
      .merge attempt ∈ upToRaise (deps.sender.runOnce bridge call)) ∨
    ∃ call, routine = .recordRunOnce call ∧ attempt.path = .record ∧
      .merge attempt ∈ upToRaise (deps.recordSender.runOnce bridge call) := by
  unfold performed at member
  split at member
  next =>
    cases routine with
    | senderRunOnce call =>
        obtain ⟨profileName, profile, event, mkDate, -, rfl⟩ :=
          deps.sender.merge_mem_runOnce.mp member
        exact .inl ⟨call, rfl, rfl, member⟩
    | recordRunOnce call =>
        obtain ⟨profileName, profile, rec, -, rfl⟩ :=
          deps.recordSender.merge_mem_runOnce.mp member
        exact .inr ⟨call, rfl, rfl, member⟩
    | _ => exact absurd rfl ((quiet_steps rfl (mem_of_mem_upToRaise member)).1 attempt)
  next => exact absurd member List.not_mem_nil

end Machine

/-! ## The site's configuration -/

namespace Site

/-- `config/site` -/
def deps : BridgeDeps where
  sender :=
    { deviceStation := ⟨"996", "995", "994"⟩
      topicAck := "presence/event/ack"
      backoffPolicy := ⟨.int 5, .int 3, .int 600⟩ }
  recordSender :=
    { topicAck := some "presence/record/ack"
      topicNack := some "presence/record/nack"
      backoffPolicy := ⟨.int 5, .int 3, .int 600⟩ }

def profile : Profile where
  clientMode := .jdbc
  station := some ⟨"996", "995", "994"⟩

/-- The answer of `nmcli` on the site's network. -/
def nmcli : CommandOutcome := .exited 0 "yes:HIME-H-REAP\n".toList

/-- The bridge on the site's network, with these rows in its inboxes. -/
def bridge (events : List InboxEvent) (records : List RecordInboxEvent) : BridgeState where
  inbox := events.foldl Inbox.insertReceived Table.empty
  recordInbox := records.foldl RecordInbox.insertReceived Table.empty
  breaker := { halfOpenAfterSeconds := 900, permanentCodes := [942, 904, 1017, 1031, 12514] }
  resolver := { profiles := [("HIME-H-REAP", profile)], unknownPolicy := .drop }
  network := { preferredSsids := ["HIME-H-REAP"], cachedSsid := some "HIME-H-REAP" }

/-- 2026-09-25 03:00:00 UTC and the given number of seconds. -/
def time (seconds : Int) : Instant := ⟨63925902000000000 + seconds * Instant.microsPerSecond⟩

/-- An event with a wall clock of its own. -/
def event (eventId : String) : EventPayload where
  eventId := eventId
  eventType := .enter
  mkDate := some "20260925120000"
  monotonicNs := 0
  wallClockSynced := true

def record (eventId : String) : RecordPayload where
  eventId := eventId
  mkDate := "20260925120000"
  staNo1 := "100"
  staNo2 := "200"
  staNo3 := "300"
  t1Status := 3
  deviceId := none

/-- One event waiting. -/
def oneEvent : BridgeState := bridge [(event "e1").toRow (some "HIME-H-REAP") (time 0)] []

/-- One record waiting. -/
def oneRecord : BridgeState := bridge [] [(record "r1").toRow (time 0)]

/-- A call of the event sender whose MERGEs all end in this way. -/
def senderCall (seconds : Int) (backend : BackendOutcome) : SenderCall where
  now := time seconds
  nmcli := nmcli
  oracle profile _ := executeMergeForProfile profile backend

/-- A call of the record sender whose MERGEs all end in this way. -/
def recordCall (seconds : Int) (backend : BackendOutcome) : RecordSenderCall where
  now := time seconds
  oracle profile _ := executeMergeForProfile profile backend

/-- The sidecar reports the end of this transaction. -/
def answered (transaction : Transaction) : BackendOutcome where
  connection := .connected (.committed 1)
  http := sidecarResponse transaction

theorem get_eq_profile {events : List InboxEvent} {records : List RecordInboxEvent}
    {profileName : String} {found : Profile}
    (configured : (bridge events records).resolver.get profileName = some found) :
    found = profile := by
  simp only [bridge, ProfileResolver.get, List.lookup_cons, List.lookup_nil] at configured
  split at configured
  · exact (Option.some.inj configured).symm
  · cases configured

theorem get_replay_eq_profile {events : List InboxEvent} {records : List RecordInboxEvent}
    {trace : List Command} {profileName : String} {found : Profile}
    (configured : ((bridge events records).replay trace).resolver.get profileName = some found) :
    found = profile := by
  rw [ProfileResolver.get, BridgeState.replay_profiles] at configured
  exact get_eq_profile configured

end Site

end PresenceLogger.Bridge
