import PresenceLogger.Bridge.Runs

/-!
# At most one Oracle row for an event

A MERGE inserts its key unless the table has it, so retries are harmless as long
as they bind the same key.  The MK_DATE of an event without a wall clock of its
own is computed again for each attempt, from the baseline of that moment.
-/

namespace PresenceLogger.Bridge

open Library

/-- The rows a trace inserts on behalf of an event into a table with these keys:
a MERGE that Oracle keeps inserts its key unless it is there. -/
def insertedFor (eventId : String) (keys : List MergeKey) (trace : List Command) :
    List MergeAttempt :=
  (inserted MergeAttempt.key keys
    ((merges trace).filter fun attempt => attempt.reply.durable)).filter
    fun attempt => attempt.path = .event ∧ attempt.eventId = eventId

/-- The row holds what this event said. -/
structure EventPayload.StoredAs (payload : EventPayload) (row : InboxEvent) : Prop where
  eventType : row.eventType = payload.eventType
  mkDate : row.mkDate = payload.mkDate
  monotonicNs : row.monotonicNs = payload.monotonicNs
  wallSynced : row.wallSynced = payload.wallClockSynced

/-- `_resolve_mk_date` for a row that holds this event. -/
def EventPayload.mkDateUnder (payload : EventPayload) (baseline : Option SyncBaseline) :
    Option String :=
  resolveMkDate baseline (payload.toRow none ⟨0⟩)

/-- One profile is configured. -/
def BridgeState.OnlyProfile (bridge : BridgeState) (profile : Profile) : Prop :=
  ∀ profileName found, bridge.resolver.get profileName = some found → found = profile

/-- The condition on one step: every delivery of the event is the same message,
and a call whose MERGE for it commits gives it this MK_DATE. -/
structure SteadyMkDate (deps : BridgeDeps) (payload : EventPayload) (mkDate : String)
    (bridge : BridgeState) (step : BridgeStep) : Prop where
  delivery : ∀ other receivedAt, step.routine = .onEvent other receivedAt →
    other.eventId = payload.eventId → other = payload
  commit : ∀ call, step.routine = .senderRunOnce call →
    ∀ profileName profile event used,
      deps.sender.Attempts bridge call profileName profile event used →
      event.eventId = payload.eventId → (call.oracle profile event).durable = true →
      payload.mkDateUnder bridge.timeWatcher.baseline = some mkDate

/-- The event's inbox row, if there is one, holds the event. -/
def Stores (payload : EventPayload) (bridge : BridgeState) : Prop :=
  ∀ row, bridge.inbox.get payload.eventId = some row → payload.StoredAs row

theorem EventPayload.StoredAs.resolveMkDate_eq {payload : EventPayload} {row : InboxEvent}
    (stored : payload.StoredAs row) (baseline : Option SyncBaseline) :
    resolveMkDate baseline row = payload.mkDateUnder baseline := by
  simp only [EventPayload.mkDateUnder, resolveMkDate, stored.mkDate, stored.wallSynced,
    stored.monotonicNs, EventPayload.toRow]
  rfl

/-- A step keeps what the row holds, if what it inserts holds it. -/
theorem stores_exec {payload : EventPayload} {bridge : BridgeState} {command : Command}
    (same : ∀ event, command = .insertEvent event → event.eventId = payload.eventId →
      payload.StoredAs event)
    (stores : Stores payload bridge) : Stores payload (bridge.exec command) := by
  intro row found
  by_cases touched : command.touchedEvent = some payload.eventId
  · cases command with
    | insertEvent event =>
        simp only [BridgeState.exec, Inbox.insertReceived, Table.get_insertOrIgnore] at found
        split at found
        · obtain rfl := Option.some.inj found
          exact same event rfl (Option.some.inj touched)
        · exact stores row found
    | markSent id mkDateCommitted profileAtSend sentAtIso =>
        simp only [BridgeState.exec, Inbox.get_markSent] at found
        split at found
        · obtain ⟨old, wasThere, rfl⟩ := Option.map_eq_some_iff.mp found
          have kept := stores old wasThere
          exact ⟨kept.eventType, kept.mkDate, kept.monotonicNs, kept.wallSynced⟩
        · exact stores row found
    | updateRetry id retryCount nextRetryAtIso lastError =>
        simp only [BridgeState.exec, Inbox.get_updateRetry] at found
        split at found
        · obtain ⟨old, wasThere, rfl⟩ := Option.map_eq_some_iff.mp found
          have kept := stores old wasThere
          exact ⟨kept.eventType, kept.mkDate, kept.monotonicNs, kept.wallSynced⟩
        · exact stores row found
    | deleteEvent id =>
        simp only [BridgeState.exec, Table.get_delete] at found
        split at found
        · cases found
        · exact stores row found
    | _ => cases touched
  · rw [bridge.exec_inbox_get touched] at found
    exact stores row found

theorem stores_replay {payload : EventPayload} {bridge : BridgeState} {trace : List Command}
    (same : ∀ event, .insertEvent event ∈ trace → event.eventId = payload.eventId →
      payload.StoredAs event)
    (stores : Stores payload bridge) : Stores payload (bridge.replay trace) := by
  induction trace generalizing bridge with
  | nil => exact stores
  | cons command trace ih =>
      apply ih
      · intro event member
        exact same event (List.mem_cons_of_mem _ member)
      · apply stores_exec _ stores
        rintro event rfl
        exact same event List.mem_cons_self

/-- What a step inserts for the event holds the event. -/
theorem storedAs_of_insertEvent {deps : BridgeDeps} {payload : EventPayload}
    {bridge : BridgeState} {step : BridgeStep} {mkDate : String}
    (steady : SteadyMkDate deps payload mkDate bridge step) {event : InboxEvent}
    (member : .insertEvent event ∈ step.trace deps bridge)
    (same : event.eventId = payload.eventId) : payload.StoredAs event := by
  have performed := BridgeStep.mem_performed_of_mem_trace member (by simp)
  obtain ⟨other, receivedAt, routine, inserted⟩ := Routine.of_insertEvent performed
  subst inserted
  obtain rfl := steady.delivery other receivedAt routine same
  exact ⟨rfl, rfl, rfl, rfl⟩

/-- Every committed MERGE of a step binds the event's one key. -/
theorem key_of_merge {deps : BridgeDeps} {payload : EventPayload} {mkDate : String}
    {profile : Profile} {bridge : BridgeState} {step : BridgeStep}
    (only : bridge.OnlyProfile profile) (stores : Stores payload bridge)
    (steady : SteadyMkDate deps payload mkDate bridge step) {attempt : MergeAttempt}
    (member : .merge attempt ∈ step.trace deps bridge) (path : attempt.path = .event)
    (same : attempt.eventId = payload.eventId) (durable : attempt.reply.durable = true) :
    attempt.key = deps.sender.mergeKey profile (payload.toRow none ⟨0⟩) mkDate := by
  have performed := BridgeStep.mem_performed_of_mem_trace member (by simp)
  rcases Routine.of_merge performed with ⟨call, routine, -, inCall⟩ | ⟨call, -, other, -⟩
  · obtain ⟨profileName, found, event, used, attempts, rfl⟩ :=
      deps.sender.merge_mem_runOnce.mp inCall
    obtain rfl := only profileName found attempts.configured
    have stored : payload.StoredAs event := by
      apply stores
      rw [← same]
      exact Inbox.get_of_due attempts.due
    have date := steady.commit call routine profileName found event used attempts same durable
    rw [← stored.resolveMkDate_eq, attempts.dated] at date
    obtain rfl := Option.some.inj date
    simp only [SenderDeps.attempt, SenderDeps.mergeKey, InboxEvent.t1Status, stored.eventType,
      EventPayload.toRow]
  · rw [path] at other
    cases other

theorem key_of_merge_run {deps : BridgeDeps} {payload : EventPayload} {mkDate : String}
    {profile : Profile} {init : BridgeState} {steps : List BridgeStep}
    (only : init.OnlyProfile profile) (stores : Stores payload init)
    (steady : (bridgeMachine deps).Meets (SteadyMkDate deps payload mkDate) init steps)
    {attempt : MergeAttempt} (member : .merge attempt ∈ (bridgeMachine deps).trace init steps)
    (path : attempt.path = .event) (same : attempt.eventId = payload.eventId)
    (durable : attempt.reply.durable = true) :
    attempt.key = deps.sender.mergeKey profile (payload.toRow none ⟨0⟩) mkDate := by
  induction steps generalizing init with
  | nil => exact absurd member List.not_mem_nil
  | cons step steps ih =>
      rcases List.mem_append.mp member with here | later
      · exact key_of_merge only stores steady.1 here path same durable
      · apply ih _ _ steady.2 later
        · intro profileName found configured
          apply only profileName found
          rwa [ProfileResolver.get, ← BridgeState.replay_profiles]
        · apply stores_replay _ stores
          intro event inserted
          exact storedAs_of_insertEvent steady.1 inserted

/-- In every run in which the MERGEs that commit for an event give it one
MK_DATE, at most one row is inserted for it. -/
theorem insertedFor_le_one (deps : BridgeDeps) (payload : EventPayload) (mkDate : String)
    (profile : Profile) (keys : List MergeKey) (init : BridgeState) (steps : List BridgeStep)
    (only : init.OnlyProfile profile) (stores : Stores payload init)
    (steady : (bridgeMachine deps).Meets (SteadyMkDate deps payload mkDate) init steps) :
    (insertedFor payload.eventId keys ((bridgeMachine deps).trace init steps)).length ≤ 1 := by
  apply length_filter_inserted_le_one
  intro attempt member accepted
  obtain ⟨inMerges, durable⟩ := List.mem_filter.mp member
  obtain ⟨path, same⟩ := of_decide_eq_true accepted
  exact key_of_merge_run only stores steady (mem_merges.mp inMerges) path same durable

/-- The condition on the deliveries alone. -/
def SameDelivery (payload : EventPayload) (_ : BridgeState) (step : BridgeStep) : Prop :=
  ∀ other receivedAt, step.routine = .onEvent other receivedAt →
    other.eventId = payload.eventId → other = payload

theorem EventPayload.mkDateUnder_of_dated {payload : EventPayload} {mkDate : String}
    (synced : payload.wallClockSynced = true) (dated : payload.mkDate = some mkDate)
    (present : mkDate ≠ "") (baseline : Option SyncBaseline) :
    payload.mkDateUnder baseline = some mkDate := by
  simp [mkDateUnder, resolveMkDate, toRow, synced, dated, present, Option.filter]

/-- An event with a wall clock of its own is inserted at most once, whatever the
clock of the bridge does. -/
theorem insertedFor_le_one_of_dated {deps : BridgeDeps} {payload : EventPayload}
    {mkDate : String} {profile : Profile} {init : BridgeState} {steps : List BridgeStep}
    (synced : payload.wallClockSynced = true) (dated : payload.mkDate = some mkDate)
    (present : mkDate ≠ "") (keys : List MergeKey) (only : init.OnlyProfile profile)
    (stores : Stores payload init)
    (same : (bridgeMachine deps).Meets (SameDelivery payload) init steps) :
    (insertedFor payload.eventId keys ((bridgeMachine deps).trace init steps)).length ≤ 1 := by
  apply insertedFor_le_one deps payload mkDate profile keys init steps only stores
  apply Machine.Meets.mono _ same
  intro bridge step delivery
  refine ⟨delivery, ?_⟩
  intro call _ profileName found event used _ _ _
  exact payload.mkDateUnder_of_dated synced dated present _

/-! ## A clock that is stepped between two attempts -/

namespace Site

/-- An event without a wall clock of its own, five seconds after boot. -/
def undated : EventPayload :=
  { event "e1" with mkDate := none, monotonicNs := 5000000000, wallClockSynced := false }

/-- A poll of the clock, so many seconds after boot. -/
def clock (seconds : Int) (answer : String) (wall : Instant) : BridgeStep :=
  .complete (.pollTime
    { monotonicNs := seconds * 1000000000, query := .exited 0 answer.toList, wall := wall })

/-- The MERGE commits and the bridge is told of a lost connection. -/
def lostReply : Transaction := .sqlException 1 3113 (some "ORA-03113") true

/-- The event, a commit whose reply is lost, and a second attempt. -/
def retriedCommit : List BridgeStep :=
  [.complete (.onEvent undated (time 5)), clock 10 "yes" (time 10),
    .complete (.senderRunOnce (senderCall 11 (answered lostReply))),
    .complete (.senderRunOnce (senderCall 32 (answered (.committed 1))))]

/-- The same, but the clock loses sync and is a second ahead afterwards. -/
def steppedClock : List BridgeStep :=
  [.complete (.onEvent undated (time 5)), clock 10 "yes" (time 10),
    .complete (.senderRunOnce (senderCall 11 (answered lostReply))),
    clock 20 "no" (time 20), clock 30 "yes" (time 31),
    .complete (.senderRunOnce (senderCall 32 (answered (.committed 1))))]

end Site

/-- The stepped clock gives the event a second MK_DATE and a second row. -/
theorem insertedFor_steppedClock :
    ¬(insertedFor "e1" [] ((bridgeMachine Site.deps).trace (Site.bridge [] [])
      Site.steppedClock)).length ≤ 1 := by
  decide +kernel

/-- With one baseline the second attempt finds the key. -/
theorem insertedFor_retriedCommit :
    (insertedFor Site.undated.eventId [] ((bridgeMachine Site.deps).trace (Site.bridge [] [])
      Site.retriedCommit)).length ≤ 1 := by
  apply insertedFor_le_one Site.deps Site.undated "20260925120005" Site.profile
  · intro profileName found configured
    exact Site.get_eq_profile configured
  · intro row found
    cases found
  · refine ⟨⟨?_, ?_⟩, ⟨?_, ?_⟩, ⟨?_, ?_⟩, ⟨?_, ?_⟩, trivial⟩
    · intro other receivedAt routine _
      cases routine
      rfl
    · intro call routine
      cases routine
    · intro other receivedAt routine
      cases routine
    · intro call routine
      cases routine
    · intro other receivedAt routine
      cases routine
    · intro call _ profileName found event used _ _ _
      decide +kernel
    · intro other receivedAt routine
      cases routine
    · intro call _ profileName found event used _ _ _
      decide +kernel

end PresenceLogger.Bridge
