import PresenceLogger.Bridge.Command
import PresenceLogger.Bridge.Retry

/-!
# The event sender

`Sender.run_once` as the list of its atomic steps, computed from the state it
reads and the answers it gets: the SSID is refreshed, the profile resolved, the
breaker asked once, and then every due row with an MK_DATE is sent in turn.
-/

namespace PresenceLogger.Bridge

open Library

/-- The configuration part of `SenderDeps`. -/
structure SenderDeps where
  deviceStation : Station
  topicAck : String
  backoffPolicy : BackoffPolicy
  deriving DecidableEq, Repr

/-- One call of `Sender.run_once`, with every answer it gets from outside. -/
structure SenderCall where
  now : Instant
  nmcli : CommandOutcome
  oracle : Profile → InboxEvent → MergeReply

/-- `_resolve_mk_date` -/
def resolveMkDate (baseline : Option SyncBaseline) (event : InboxEvent) : Option String :=
  match event.mkDate.filter fun mkDate => event.wallSynced ∧ mkDate ≠ "" with
  | some mkDate => some mkDate
  | none => baseline.map fun baseline => baseline.mkDate event.monotonicNs

/-- `1 if event.event_type == "ENTER" else 2` -/
def InboxEvent.t1Status (event : InboxEvent) : Int :=
  match event.eventType with
  | .enter => 1
  | .exit => 2

/-- `f"ORA-{code}: {message}"` -/
def oraText (oraCode : Option Int) (errorMessage : Option String) : String :=
  "ORA-" ++ oraCode.elim "None" toString ++ ": " ++ errorMessage.getD "None"

namespace SenderDeps

variable (deps : SenderDeps)

/-- The values `_send_one` binds in its MERGE. -/
def mergeKey (profile : Profile) (event : InboxEvent) (mkDate : String) : MergeKey where
  mkDate := mkDate
  staNo1 := (stationForProfile profile deps.deviceStation).staNo1
  staNo2 := (stationForProfile profile deps.deviceStation).staNo2
  staNo3 := (stationForProfile profile deps.deviceStation).staNo3
  t1Status := event.t1Status

/-- The ACK of a committed event. -/
def ack (mkDate : String) (now : Instant) (event : InboxEvent) : Ack where
  topic := deps.topicAck
  eventId := event.eventId
  mkDateCommitted := some mkDate
  committedAtIso := some now.isoformatMilliseconds

/-- The steps of `_send_one` after the MERGE. -/
def settle (profileName mkDate : String) (now : Instant) (event : InboxEvent)
    (result : MergeResult) : List Command :=
  match result.oraCode with
  | none =>
      [.markSent event.eventId mkDate profileName now.isoformat,
       .recordSuccess profileName,
       .publishAck (deps.ack mkDate now event)]
  | some code =>
      .recordFailure profileName (some code) now ::
        match nextRetryAt now (event.retryCount + 1) deps.backoffPolicy with
        | .ok next =>
            [.updateRetry event.eventId (event.retryCount + 1) next.isoformat
              (oraText (some code) result.errorMessage)]
        | .error error => [.raise error]

/-- `_send_one` -/
def sendOne (profile : Profile) (profileName mkDate : String) (now : Instant)
    (event : InboxEvent) (reply : MergeReply) : List Command :=
  .merge
    { path := .event
      profileName := profileName
      eventId := event.eventId
      key := deps.mergeKey profile event mkDate
      now := now
      reply := reply } ::
    deps.settle profileName mkDate now event reply.result

/-- The body of the loop in `run_once`. -/
def sendRow (baseline : Option SyncBaseline) (profile : Profile) (profileName : String)
    (call : SenderCall) (event : InboxEvent) : List Command :=
  match resolveMkDate baseline event with
  | none => []
  | some mkDate =>
      deps.sendOne profile profileName mkDate call.now event (call.oracle profile event)

/-- `Sender.run_once` -/
def runOnce (bridge : BridgeState) (call : SenderCall) : List Command :=
  let network := bridge.network.getCurrentSsid call.nmcli
  .getCurrentSsid call.nmcli :: .resolveSsid ::
    match (bridge.resolver.resolve network.cachedSsid).2 with
    | .hold | .drop => []
    | .send profileName =>
        .queryBreaker profileName call.now ::
          if (bridge.breaker.stateFor profileName (some call.now)).2 = .open then []
          else
            match bridge.resolver.get profileName with
            | none => [.raise .keyError]
            | some profile =>
                (bridge.inbox.iterReceivedDue call.now.isoformat).flatMap
                  (deps.sendRow bridge.timeWatcher.baseline profile profileName call)

/-! ## What one call performs -/

/-- The rows the loop of `run_once` gets to. -/
def visited (bridge : BridgeState) (call : SenderCall) (profileName : String)
    (profile : Profile) : List InboxEvent :=
  untilRaise (deps.sendRow bridge.timeWatcher.baseline profile profileName call)
    (bridge.inbox.iterReceivedDue call.now.isoformat)

end SenderDeps

/-- The guards of `run_once` let it send under this profile. -/
structure SenderCall.Admits (call : SenderCall) (bridge : BridgeState) (profileName : String)
    (profile : Profile) : Prop where
  send : (bridge.resolver.resolve (bridge.network.getCurrentSsid call.nmcli).cachedSsid).2 =
    .send profileName
  allowed : (bridge.breaker.stateFor profileName (some call.now)).2 ≠ .open
  configured : bridge.resolver.get profileName = some profile

namespace SenderDeps

variable (deps : SenderDeps)

theorem followsMerge_of_mem_settle {profileName mkDate : String} {now : Instant}
    {event : InboxEvent} {result : MergeResult} {command : Command}
    (member : command ∈ deps.settle profileName mkDate now event result) :
    command.followsMerge = true := by
  unfold settle at member
  split at member
  · simp only [List.mem_cons, List.not_mem_nil, or_false] at member
    rcases member with rfl | rfl | rfl <;> rfl
  · rcases List.mem_cons.mp member with rfl | later
    · rfl
    · split at later <;> (rw [List.mem_singleton.mp later]; rfl)

/-- `run_once` sends this row with this MK_DATE. -/
structure Attempts (bridge : BridgeState) (call : SenderCall) (profileName : String)
    (profile : Profile) (event : InboxEvent) (mkDate : String) : Prop
    extends call.Admits bridge profileName profile where
  reached : event ∈ deps.visited bridge call profileName profile
  dated : resolveMkDate bridge.timeWatcher.baseline event = some mkDate

theorem upToRaise_settle (profileName mkDate : String) (now : Instant) (event : InboxEvent)
    (result : MergeResult) :
    upToRaise (deps.settle profileName mkDate now event result) =
      deps.settle profileName mkDate now event result := by
  unfold settle
  split
  · rfl
  · split <;> rfl

theorem upToRaise_sendRow (baseline : Option SyncBaseline) (profile : Profile)
    (profileName : String) (call : SenderCall) (event : InboxEvent) :
    upToRaise (deps.sendRow baseline profile profileName call event) =
      deps.sendRow baseline profile profileName call event := by
  unfold sendRow
  split
  · rfl
  · simp only [sendOne, upToRaise, Command.isRaise, upToRaise_settle, Bool.false_eq_true,
      if_false]

/-- An admitted call asks its guards and then sends the rows it gets to. -/
theorem upToRaise_runOnce {bridge : BridgeState} {call : SenderCall} {profileName : String}
    {profile : Profile} (admits : call.Admits bridge profileName profile) :
    upToRaise (deps.runOnce bridge call) =
      [.getCurrentSsid call.nmcli, .resolveSsid, .queryBreaker profileName call.now] ++
        (deps.visited bridge call profileName profile).flatMap
          (deps.sendRow bridge.timeWatcher.baseline profile profileName call) := by
  have calm : ([.getCurrentSsid call.nmcli, .resolveSsid,
      .queryBreaker profileName call.now] : List Command).any Command.isRaise = false := rfl
  have plan : deps.runOnce bridge call =
      [.getCurrentSsid call.nmcli, .resolveSsid, .queryBreaker profileName call.now] ++
        (bridge.inbox.iterReceivedDue call.now.isoformat).flatMap
          (deps.sendRow bridge.timeWatcher.baseline profile profileName call) := by
    simp only [runOnce, admits.send, if_neg admits.allowed, admits.configured]
    rfl
  rw [plan, upToRaise_append_of_calm calm, upToRaise_flatMap, visited]
  intro event _
  exact deps.upToRaise_sendRow _ _ _ _ _

/-- Any other call ends at one of its guards. -/
theorem upToRaise_runOnce_refused {bridge : BridgeState} {call : SenderCall}
    (refused : ∀ profileName profile, ¬call.Admits bridge profileName profile) :
    upToRaise (deps.runOnce bridge call) = [.getCurrentSsid call.nmcli, .resolveSsid] ∨
      ∃ profileName rest,
        upToRaise (deps.runOnce bridge call) =
          .getCurrentSsid call.nmcli :: .resolveSsid :: .queryBreaker profileName call.now ::
            rest ∧
        (rest = [] ∨ rest = [.raise .keyError]) := by
  simp only [runOnce]
  split
  · exact .inl rfl
  · exact .inl rfl
  next profileName send =>
    right
    split
    · exact ⟨profileName, [], rfl, .inl rfl⟩
    next allowed =>
      split
      · exact ⟨profileName, [.raise .keyError], rfl, .inr rfl⟩
      next profile configured =>
        exact absurd ⟨send, allowed, configured⟩ (refused profileName profile)

theorem isOpening_of_not_admitted {bridge : BridgeState} {call : SenderCall}
    (refused : ∀ profileName profile, ¬call.Admits bridge profileName profile)
    {command : Command} (member : command ∈ upToRaise (deps.runOnce bridge call)) :
    command.IsOpening := by
  rcases deps.upToRaise_runOnce_refused refused with early | ⟨profileName, rest, late, tail⟩
  · rw [early] at member
    simp only [List.mem_cons, List.not_mem_nil, or_false] at member
    rcases member with rfl | rfl <;> trivial
  · rw [late] at member
    rcases tail with rfl | rfl <;> simp only [List.mem_cons, List.not_mem_nil, or_false] at member
    · rcases member with rfl | rfl | rfl <;> trivial
    · rcases member with rfl | rfl | rfl | rfl <;> trivial

/-- Every step of a call asks a guard or belongs to a row that is sent. -/
theorem mem_runOnce {bridge : BridgeState} {call : SenderCall} {command : Command}
    (member : command ∈ upToRaise (deps.runOnce bridge call)) :
    command.IsOpening ∨
      ∃ profileName profile event mkDate,
        deps.Attempts bridge call profileName profile event mkDate ∧
        command ∈ deps.sendOne profile profileName mkDate call.now event
          (call.oracle profile event) := by
  by_cases admitted : ∃ profileName profile, call.Admits bridge profileName profile
  · obtain ⟨profileName, profile, admits⟩ := admitted
    rw [deps.upToRaise_runOnce admits] at member
    rcases List.mem_append.mp member with opening | inBatch
    · left
      simp only [List.mem_cons, List.not_mem_nil, or_false] at opening
      rcases opening with rfl | rfl | rfl <;> trivial
    · right
      obtain ⟨event, reached, inRow⟩ := List.mem_flatMap.mp inBatch
      unfold sendRow at inRow
      split at inRow
      next => exact absurd inRow List.not_mem_nil
      next mkDate dated =>
        exact ⟨profileName, profile, event, mkDate, ⟨admits, reached, dated⟩, inRow⟩
  · left
    apply deps.isOpening_of_not_admitted _ member
    intro profileName profile admits
    exact admitted ⟨profileName, profile, admits⟩

/-- The event sender leaves the record path alone. -/
theorem concernsRecords_of_mem_runOnce {bridge : BridgeState} {call : SenderCall}
    {command : Command} (member : command ∈ upToRaise (deps.runOnce bridge call)) :
    command.concernsRecords = false := by
  rcases deps.mem_runOnce member with opening | ⟨profileName, profile, event, mkDate, -, inRow⟩
  · exact opening.concernsRecords
  · rcases List.mem_cons.mp inRow with rfl | inSettle
    · rfl
    · simp only [settle] at inSettle
      split at inSettle
      · simp only [List.mem_cons, List.not_mem_nil, or_false] at inSettle
        rcases inSettle with rfl | rfl | rfl <;> rfl
      · rcases List.mem_cons.mp inSettle with rfl | later
        · rfl
        · split at later <;> (rw [List.mem_singleton.mp later]; rfl)

/-- The MERGE `_send_one` makes. -/
def attempt (profile : Profile) (profileName mkDate : String) (call : SenderCall)
    (event : InboxEvent) : MergeAttempt where
  path := .event
  profileName := profileName
  eventId := event.eventId
  key := deps.mergeKey profile event mkDate
  now := call.now
  reply := call.oracle profile event

/-- The MERGEs of one call are those of the rows it sends. -/
theorem merge_mem_runOnce {bridge : BridgeState} {call : SenderCall} {attempt : MergeAttempt} :
    .merge attempt ∈ upToRaise (deps.runOnce bridge call) ↔
      ∃ profileName profile event mkDate,
        deps.Attempts bridge call profileName profile event mkDate ∧
        attempt = deps.attempt profile profileName mkDate call event := by
  constructor
  · intro member
    rcases deps.mem_runOnce member with opening | ⟨profileName, profile, event, mkDate, sent, inRow⟩
    · exact absurd opening id
    · refine ⟨profileName, profile, event, mkDate, sent, ?_⟩
      rcases List.mem_cons.mp inRow with same | inSettle
      · exact Command.merge.inj same
      · exact absurd (deps.followsMerge_of_mem_settle inSettle) (by simp [Command.followsMerge])
  · rintro ⟨profileName, profile, event, mkDate, sent, rfl⟩
    rw [deps.upToRaise_runOnce sent.toAdmits]
    refine List.mem_append_right _ (List.mem_flatMap.mpr ⟨event, sent.reached, ?_⟩)
    simp only [sendRow, sent.dated, sendOne, SenderDeps.attempt, List.mem_cons, true_or]

theorem merges_sendOne (profile : Profile) (profileName mkDate : String) (call : SenderCall)
    (event : InboxEvent) :
    merges (deps.sendOne profile profileName mkDate call.now event (call.oracle profile event)) =
      [deps.attempt profile profileName mkDate call event] := by
  have none : merges (deps.settle profileName mkDate call.now event
      (call.oracle profile event).result) = [] := by
    apply merges_eq_nil
    intro attempt member
    cases deps.followsMerge_of_mem_settle member
  exact congrArg (_ :: ·) none

/-- The MERGEs of an admitted call, in the order of the rows it gets to. -/
theorem merges_runOnce {bridge : BridgeState} {call : SenderCall} {profileName : String}
    {profile : Profile} (admits : call.Admits bridge profileName profile) :
    merges (upToRaise (deps.runOnce bridge call)) =
      (deps.visited bridge call profileName profile).filterMap fun event =>
        (resolveMkDate bridge.timeWatcher.baseline event).map fun mkDate =>
          deps.attempt profile profileName mkDate call event := by
  rw [deps.upToRaise_runOnce admits, merges_append]
  induction deps.visited bridge call profileName profile with
  | nil => rfl
  | cons event events ih =>
      rw [List.flatMap_cons, merges_append, List.filterMap_cons]
      cases dated : resolveMkDate bridge.timeWatcher.baseline event with
      | none =>
          rw [sendRow, dated]
          exact ih
      | some mkDate =>
          rw [sendRow, dated]
          simp only [merges_sendOne, Option.map_some]
          exact congrArg (_ :: ·) ih

/-! ## What one call makes of the rows -/

/-- The row `_send_one` leaves behind. -/
def settledRow (profileName mkDate : String) (now : Instant) (event : InboxEvent)
    (result : MergeResult) : InboxEvent :=
  match result.oraCode with
  | none => event.asSent mkDate profileName now.isoformat
  | some code =>
      match nextRetryAt now (event.retryCount + 1) deps.backoffPolicy with
      | .ok next =>
          event.withRetry (event.retryCount + 1) next.isoformat
            (oraText (some code) result.errorMessage)
      | .error _ => event

theorem get_replay_settle {bridge : BridgeState} {event : InboxEvent}
    (found : bridge.inbox.get event.eventId = some event) (profileName mkDate : String)
    (now : Instant) (result : MergeResult) :
    (bridge.replay (deps.settle profileName mkDate now event result)).inbox.get event.eventId =
      some (deps.settledRow profileName mkDate now event result) := by
  unfold settle settledRow
  cases result.oraCode with
  | none => simp [BridgeState.exec, Inbox.get_markSent, found]
  | some code =>
      cases nextRetryAt now (event.retryCount + 1) deps.backoffPolicy with
      | ok next => simp [BridgeState.exec, Inbox.get_updateRetry, found]
      | error error => simp [BridgeState.exec, found]

/-- Sending a row touches no other row. -/
theorem touchedEvent_of_mem_sendOne {profile : Profile} {profileName mkDate : String}
    {now : Instant} {event : InboxEvent} {reply : MergeReply} {command : Command}
    (member : command ∈ deps.sendOne profile profileName mkDate now event reply)
    {eventId : String} (different : event.eventId ≠ eventId) :
    command.touchedEvent ≠ some eventId := by
  rcases List.mem_cons.mp member with rfl | inSettle
  · simp [Command.touchedEvent]
  · unfold settle at inSettle
    split at inSettle
    · simp only [List.mem_cons, List.not_mem_nil, or_false] at inSettle
      rcases inSettle with rfl | rfl | rfl <;> simp [Command.touchedEvent, different]
    · rcases List.mem_cons.mp inSettle with rfl | later
      · simp [Command.touchedEvent]
      · split at later <;>
          (rw [List.mem_singleton.mp later]; simp [Command.touchedEvent, different])

theorem touchedEvent_of_mem_sendRow {baseline : Option SyncBaseline} {profile : Profile}
    {profileName : String} {call : SenderCall} {event : InboxEvent} {command : Command}
    (member : command ∈ deps.sendRow baseline profile profileName call event) {eventId : String}
    (different : event.eventId ≠ eventId) : command.touchedEvent ≠ some eventId := by
  unfold sendRow at member
  split at member
  · exact absurd member List.not_mem_nil
  · exact deps.touchedEvent_of_mem_sendOne member different

theorem visited_sublist (bridge : BridgeState) (call : SenderCall) (profileName : String)
    (profile : Profile) :
    (deps.visited bridge call profileName profile).Sublist
      (bridge.inbox.iterReceivedDue call.now.isoformat) :=
  untilRaise_sublist _ _

theorem nodup_visited (bridge : BridgeState) (call : SenderCall) (profileName : String)
    (profile : Profile) :
    ((deps.visited bridge call profileName profile).map InboxEvent.eventId).Nodup :=
  (Inbox.nodup_due _ _).sublist ((deps.visited_sublist bridge call profileName profile).map _)

theorem Attempts.due {deps : SenderDeps} {bridge : BridgeState} {call : SenderCall}
    {profileName mkDate : String} {profile : Profile} {event : InboxEvent}
    (attempts : deps.Attempts bridge call profileName profile event mkDate) :
    event ∈ bridge.inbox.iterReceivedDue call.now.isoformat :=
  (deps.visited_sublist bridge call profileName profile).mem attempts.reached

/-- A row that is sent ends as `_send_one` leaves it, whatever the rest of the
batch does. -/
theorem get_runOnce_of_attempts {bridge : BridgeState} {call : SenderCall}
    {profileName mkDate : String} {profile : Profile} {event : InboxEvent}
    (attempts : deps.Attempts bridge call profileName profile event mkDate) :
    (bridge.replay (upToRaise (deps.runOnce bridge call))).inbox.get event.eventId =
      some (deps.settledRow profileName mkDate call.now event
        (call.oracle profile event).result) := by
  rw [deps.upToRaise_runOnce attempts.toAdmits, BridgeState.replay_append]
  obtain ⟨reached, same, ends⟩ := (BridgeState.inboxFrame event.eventId).loop
    (bridge.replay [.getCurrentSsid call.nmcli, .resolveSsid, .queryBreaker profileName call.now])
    (deps.nodup_visited bridge call profileName profile) attempts.reached
    (fun other different command member =>
      deps.touchedEvent_of_mem_sendRow member different)
  simp only [BridgeState.inboxFrame] at same ends
  rw [ends]
  simp only [sendRow, attempts.dated, sendOne, BridgeState.replay_cons]
  apply deps.get_replay_settle
  rw [← Inbox.get_of_due attempts.due]
  exact same

end SenderDeps

end PresenceLogger.Bridge
