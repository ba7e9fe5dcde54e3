import PresenceLogger.Bridge.Sender

/-!
# The record sender

`RecordSender.run_once` sends the children's records as they are, under the
cached SSID; `receive` answers a record that arrives, again if need be.
-/

namespace PresenceLogger.Bridge

open Library

/-- The configuration part of `RecordSenderDeps`. -/
structure RecordSenderDeps where
  topicAck : Option String
  topicNack : Option String := none
  backoffPolicy : BackoffPolicy
  unretryableOraCodes : List Int := []
  deriving DecidableEq, Repr

structure RecordSenderCall where
  now : Instant
  oracle : Profile → RecordInboxEvent → MergeReply

/-- A topic that is set and not empty. -/
def usableTopic (topic : Option String) : Option String := topic.filter (· ≠ "")

def RecordInboxEvent.mergeKey (rec : RecordInboxEvent) : MergeKey where
  mkDate := rec.mkDate
  staNo1 := rec.staNo1
  staNo2 := rec.staNo2
  staNo3 := rec.staNo3
  t1Status := rec.t1Status

/-- `_content_matches` -/
def contentMatches (stored incoming : RecordInboxEvent) : Bool :=
  stored.deviceId = incoming.deviceId ∧ stored.mkDate = incoming.mkDate ∧
    stored.staNo1 = incoming.staNo1 ∧ stored.staNo2 = incoming.staNo2 ∧
    stored.staNo3 = incoming.staNo3 ∧ stored.t1Status = incoming.t1Status

namespace RecordSenderDeps

variable (deps : RecordSenderDeps)

/-- What `_send_one` makes of a result. -/
inductive Verdict where
  | committed
  | unretryable (oraCode : Int)
  | retry
  deriving DecidableEq, Repr

def verdict (result : MergeResult) : Verdict :=
  match result.oraCode, result.errorMessage with
  | none, none => .committed
  | none, some _ => .retry
  | some code, _ => if code ∈ deps.unretryableOraCodes then .unretryable code else .retry

theorem verdict_eq_committed_iff {result : MergeResult} :
    deps.verdict result = .committed ↔ result.oraCode = none ∧ result.errorMessage = none := by
  rw [verdict]
  cases result.oraCode with
  | none => cases result.errorMessage <;> simp
  | some code =>
      simp only
      split <;> simp

/-- The steps of `_send_one` after the MERGE. -/
def settle (profileName : String) (now : Instant) (rec : RecordInboxEvent)
    (result : MergeResult) : List Command :=
  match deps.verdict result with
  | .committed =>
      .markRecordSent rec.eventId rec.mkDate now.isoformat :: .recordSuccess profileName ::
        (usableTopic deps.topicAck).toList.map fun topic =>
          .publishRecordAck
            { topic := topic
              eventId := rec.eventId
              mkDateCommitted := some rec.mkDate
              committedAtIso := some now.isoformatMilliseconds }
  | .unretryable code =>
      let lastError := oraText (some code) result.errorMessage ++ " (諦め)"
      .markRecordFailed rec.eventId now.isoformat lastError ::
        (usableTopic deps.topicNack).toList.map fun topic =>
          .publishRecordNack
            { topic := topic
              eventId := rec.eventId
              reason := lastError
              failedAtIso := now.isoformat }
  | .retry =>
      .recordFailure profileName result.oraCode now ::
        match nextRetryAt now (rec.retryCount + 1) deps.backoffPolicy with
        | .ok next =>
            [.updateRecordRetry rec.eventId (rec.retryCount + 1) next.isoformat
              (oraText result.oraCode result.errorMessage)]
        | .error error => [.raise error]

/-- `_send_one` -/
def sendOne (profileName : String) (now : Instant) (rec : RecordInboxEvent)
    (reply : MergeReply) : List Command :=
  .merge
    { path := .record
      profileName := profileName
      eventId := rec.eventId
      key := rec.mergeKey
      now := now
      reply := reply } ::
    deps.settle profileName now rec reply.result

/-- `RecordSender.run_once` -/
def runOnce (bridge : BridgeState) (call : RecordSenderCall) : List Command :=
  match bridge.resolver.peek bridge.network.cachedSsid with
  | .hold | .drop => []
  | .send profileName =>
      .queryBreaker profileName call.now ::
        if (bridge.breaker.stateFor profileName (some call.now)).2 = .open then []
        else
          match bridge.resolver.get profileName with
          | none => [.raise .keyError]
          | some profile =>
              (bridge.recordInbox.iterReceivedDue call.now.isoformat).flatMap fun rec =>
                deps.sendOne profileName call.now rec (call.oracle profile rec)

/-- `receive`, when its lookup found `existing`. -/
def receiveAfter (existing : Option RecordInboxEvent) (rec : RecordInboxEvent) :
    List Command :=
  match existing with
  | none => [.insertRecord rec]
  | some existing =>
      match existing.status with
      | .failed =>
          if contentMatches existing rec then
            (usableTopic deps.topicNack).toList.map fun topic =>
              .publishRecordNack
                { topic := topic
                  eventId := existing.eventId
                  reason := (existing.lastError.filter (· ≠ "")).getD "unretryable"
                  failedAtIso := (existing.failedAtIso.filter (· ≠ "")).getD "" }
          else []
      | .received => []
      | .sent =>
          if contentMatches existing rec then
            (usableTopic deps.topicAck).toList.map fun topic =>
              .publishRecordAck
                { topic := topic
                  eventId := existing.eventId
                  mkDateCommitted := existing.mkDateCommitted
                  committedAtIso := existing.sentAtIso }
          else []

/-- `RecordSender.receive` -/
def receive (bridge : BridgeState) (rec : RecordInboxEvent) : List Command :=
  deps.receiveAfter (bridge.recordInbox.get rec.eventId) rec

/-! ## What one call performs -/

/-- The rows the loop of `run_once` gets to. -/
def visited (bridge : BridgeState) (call : RecordSenderCall) (profileName : String)
    (profile : Profile) : List RecordInboxEvent :=
  untilRaise (fun rec => deps.sendOne profileName call.now rec (call.oracle profile rec))
    (bridge.recordInbox.iterReceivedDue call.now.isoformat)

end RecordSenderDeps

/-- The guards of `run_once` let it send under this profile. -/
structure RecordSenderCall.Admits (call : RecordSenderCall) (bridge : BridgeState)
    (profileName : String) (profile : Profile) : Prop where
  send : bridge.resolver.peek bridge.network.cachedSsid = .send profileName
  allowed : (bridge.breaker.stateFor profileName (some call.now)).2 ≠ .open
  configured : bridge.resolver.get profileName = some profile

namespace RecordSenderDeps

variable (deps : RecordSenderDeps)

theorem upToRaise_settle (profileName : String) (now : Instant) (rec : RecordInboxEvent)
    (result : MergeResult) :
    upToRaise (deps.settle profileName now rec result) =
      deps.settle profileName now rec result := by
  unfold settle
  cases deps.verdict result with
  | committed => cases usableTopic deps.topicAck <;> rfl
  | unretryable code => cases usableTopic deps.topicNack <;> rfl
  | retry =>
      simp only
      split <;> rfl

theorem upToRaise_sendOne (profileName : String) (now : Instant) (rec : RecordInboxEvent)
    (reply : MergeReply) :
    upToRaise (deps.sendOne profileName now rec reply) =
      deps.sendOne profileName now rec reply := by
  simp only [sendOne, upToRaise, Command.isRaise, upToRaise_settle, Bool.false_eq_true, if_false]

/-- An admitted call asks the breaker and then sends the rows it gets to. -/
theorem upToRaise_runOnce {bridge : BridgeState} {call : RecordSenderCall}
    {profileName : String} {profile : Profile} (admits : call.Admits bridge profileName profile) :
    upToRaise (deps.runOnce bridge call) =
      .queryBreaker profileName call.now ::
        (deps.visited bridge call profileName profile).flatMap fun rec =>
          deps.sendOne profileName call.now rec (call.oracle profile rec) := by
  have plan : deps.runOnce bridge call =
      .queryBreaker profileName call.now ::
        (bridge.recordInbox.iterReceivedDue call.now.isoformat).flatMap fun rec =>
          deps.sendOne profileName call.now rec (call.oracle profile rec) := by
    simp only [runOnce, admits.send, if_neg admits.allowed, admits.configured]
  have calm : (Command.queryBreaker profileName call.now).isRaise = false := rfl
  rw [plan, upToRaise, calm, if_neg Bool.false_ne_true, upToRaise_flatMap, visited]
  intro rec _
  exact deps.upToRaise_sendOne _ _ _ _

/-- Any other call ends at one of its guards. -/
theorem upToRaise_runOnce_refused {bridge : BridgeState} {call : RecordSenderCall}
    (refused : ∀ profileName profile, ¬call.Admits bridge profileName profile) :
    upToRaise (deps.runOnce bridge call) = [] ∨
      ∃ profileName rest,
        upToRaise (deps.runOnce bridge call) = .queryBreaker profileName call.now :: rest ∧
        (rest = [] ∨ rest = [.raise .keyError]) := by
  simp only [runOnce]
  split
  · exact .inl rfl
  · exact .inl rfl
  next profileName send =>
    right
    split
    · exact ⟨profileName, [], rfl, .inl rfl⟩
    next allowed =>
      split
      · exact ⟨profileName, [.raise .keyError], rfl, .inr rfl⟩
      next profile configured =>
        exact absurd ⟨send, allowed, configured⟩ (refused profileName profile)

theorem isOpening_of_not_admitted {bridge : BridgeState} {call : RecordSenderCall}
    (refused : ∀ profileName profile, ¬call.Admits bridge profileName profile)
    {command : Command} (member : command ∈ upToRaise (deps.runOnce bridge call)) :
    command.IsOpening := by
  rcases deps.upToRaise_runOnce_refused refused with early | ⟨profileName, rest, late, tail⟩
  · rw [early] at member
    exact absurd member List.not_mem_nil
  · rw [late] at member
    rcases tail with rfl | rfl <;> simp only [List.mem_cons, List.not_mem_nil, or_false] at member
    · rcases member with rfl
      trivial
    · rcases member with rfl | rfl <;> trivial

theorem mem_settle {profileName : String} {now : Instant} {rec : RecordInboxEvent}
    {result : MergeResult} {command : Command}
    (member : command ∈ deps.settle profileName now rec result) :
    command.followsMerge = true ∧ command.concernsEvents = false := by
  unfold settle at member
  cases found : deps.verdict result with
  | committed =>
      simp only [found, List.mem_cons, List.mem_map] at member
      rcases member with rfl | rfl | ⟨topic, -, rfl⟩ <;> exact ⟨rfl, rfl⟩
  | unretryable code =>
      simp only [found, List.mem_cons, List.mem_map] at member
      rcases member with rfl | ⟨topic, -, rfl⟩ <;> exact ⟨rfl, rfl⟩
  | retry =>
      simp only [found, List.mem_cons] at member
      rcases member with rfl | member
      · exact ⟨rfl, rfl⟩
      · split at member <;> (rw [List.mem_singleton.mp member]; exact ⟨rfl, rfl⟩)

/-- `run_once` sends this row. -/
structure Attempts (bridge : BridgeState) (call : RecordSenderCall) (profileName : String)
    (profile : Profile) (rec : RecordInboxEvent) : Prop
    extends call.Admits bridge profileName profile where
  reached : rec ∈ deps.visited bridge call profileName profile

/-- Every step of a call asks a guard or belongs to a row that is sent. -/
theorem mem_runOnce {bridge : BridgeState} {call : RecordSenderCall} {command : Command}
    (member : command ∈ upToRaise (deps.runOnce bridge call)) :
    command.IsOpening ∨
      ∃ profileName profile rec,
        deps.Attempts bridge call profileName profile rec ∧
        command ∈ deps.sendOne profileName call.now rec (call.oracle profile rec) := by
  by_cases admitted : ∃ profileName profile, call.Admits bridge profileName profile
  · obtain ⟨profileName, profile, admits⟩ := admitted
    rw [deps.upToRaise_runOnce admits] at member
    rcases List.mem_cons.mp member with rfl | inBatch
    · left
      trivial
    · right
      obtain ⟨rec, reached, inRow⟩ := List.mem_flatMap.mp inBatch
      exact ⟨profileName, profile, rec, ⟨admits, reached⟩, inRow⟩
  · left
    apply deps.isOpening_of_not_admitted _ member
    intro profileName profile admits
    exact admitted ⟨profileName, profile, admits⟩

/-- The record sender leaves the event path alone. -/
theorem concernsEvents_of_mem_runOnce {bridge : BridgeState} {call : RecordSenderCall}
    {command : Command} (member : command ∈ upToRaise (deps.runOnce bridge call)) :
    command.concernsEvents = false := by
  rcases deps.mem_runOnce member with opening | ⟨profileName, profile, rec, -, inRow⟩
  · exact opening.concernsEvents
  · rcases List.mem_cons.mp inRow with rfl | inSettle
    · rfl
    · exact (deps.mem_settle inSettle).2

/-- The MERGE `_send_one` makes. -/
def attempt (profile : Profile) (profileName : String) (call : RecordSenderCall)
    (rec : RecordInboxEvent) : MergeAttempt where
  path := .record
  profileName := profileName
  eventId := rec.eventId
  key := rec.mergeKey
  now := call.now
  reply := call.oracle profile rec

/-- The MERGEs of one call are those of the rows it sends. -/
theorem merge_mem_runOnce {bridge : BridgeState} {call : RecordSenderCall}
    {attempt : MergeAttempt} :
    .merge attempt ∈ upToRaise (deps.runOnce bridge call) ↔
      ∃ profileName profile rec,
        deps.Attempts bridge call profileName profile rec ∧
        attempt = RecordSenderDeps.attempt profile profileName call rec := by
  constructor
  · intro member
    rcases deps.mem_runOnce member with opening | ⟨profileName, profile, rec, sent, inRow⟩
    · exact absurd opening id
    · refine ⟨profileName, profile, rec, sent, ?_⟩
      rcases List.mem_cons.mp inRow with same | inSettle
      · exact Command.merge.inj same
      · exact absurd (deps.mem_settle inSettle).1 (by simp [Command.followsMerge])
  · rintro ⟨profileName, profile, rec, sent, rfl⟩
    rw [deps.upToRaise_runOnce sent.toAdmits]
    refine List.mem_cons_of_mem _ (List.mem_flatMap.mpr ⟨rec, sent.reached, ?_⟩)
    exact List.mem_cons_self

theorem mem_receive {bridge : BridgeState} {rec : RecordInboxEvent} {command : Command}
    (member : command ∈ deps.receive bridge rec) :
    command = .insertRecord rec ∨ (∃ ack, command = .publishRecordAck ack) ∨
      ∃ nack, command = .publishRecordNack nack := by
  simp only [receive, receiveAfter] at member
  split at member
  · exact .inl (List.mem_singleton.mp member)
  · split at member
    · split at member
      · rcases List.mem_map.mp member with ⟨topic, -, rfl⟩
        exact .inr (.inr ⟨_, rfl⟩)
      · exact absurd member List.not_mem_nil
    · exact absurd member List.not_mem_nil
    · split at member
      · rcases List.mem_map.mp member with ⟨topic, -, rfl⟩
        exact .inr (.inl ⟨_, rfl⟩)
      · exact absurd member List.not_mem_nil

theorem concernsEvents_of_mem_receive {bridge : BridgeState} {rec : RecordInboxEvent}
    {command : Command} (member : command ∈ deps.receive bridge rec) :
    command.concernsEvents = false := by
  rcases deps.mem_receive member with rfl | ⟨ack, rfl⟩ | ⟨nack, rfl⟩ <;> rfl

theorem receive_quiet {bridge : BridgeState} {rec : RecordInboxEvent} {command : Command}
    (member : command ∈ deps.receive bridge rec) :
    (∀ attempt, command ≠ .merge attempt) ∧ ∀ profileName, ¬command.touchesBreaker profileName := by
  rcases deps.mem_receive member with rfl | ⟨ack, rfl⟩ | ⟨nack, rfl⟩ <;>
    simp [Command.touchesBreaker]

theorem merges_sendOne (profile : Profile) (profileName : String) (call : RecordSenderCall)
    (rec : RecordInboxEvent) :
    merges (deps.sendOne profileName call.now rec (call.oracle profile rec)) =
      [RecordSenderDeps.attempt profile profileName call rec] := by
  have none : merges (deps.settle profileName call.now rec (call.oracle profile rec).result) =
      [] := by
    apply merges_eq_nil
    intro attempt member
    cases (deps.mem_settle member).1
  exact congrArg (_ :: ·) none

/-- The MERGEs of an admitted call, in the order of the rows it gets to. -/
theorem merges_runOnce {bridge : BridgeState} {call : RecordSenderCall} {profileName : String}
    {profile : Profile} (admits : call.Admits bridge profileName profile) :
    merges (upToRaise (deps.runOnce bridge call)) =
      (deps.visited bridge call profileName profile).map
        (RecordSenderDeps.attempt profile profileName call) := by
  rw [deps.upToRaise_runOnce admits]
  have opening (rest : List Command) :
      merges (.queryBreaker profileName call.now :: rest) = merges rest := rfl
  rw [opening]
  induction deps.visited bridge call profileName profile with
  | nil => rfl
  | cons rec recs ih =>
      rw [List.flatMap_cons, merges_append, merges_sendOne, ih]
      rfl

/-! ## What one call makes of the rows -/

/-- The row `_send_one` leaves behind. -/
def settledRow (now : Instant) (rec : RecordInboxEvent) (result : MergeResult) :
    RecordInboxEvent :=
  match deps.verdict result with
  | .committed => rec.asSent rec.mkDate now.isoformat
  | .unretryable code =>
      rec.asFailed now.isoformat (oraText (some code) result.errorMessage ++ " (諦め)")
  | .retry =>
      match nextRetryAt now (rec.retryCount + 1) deps.backoffPolicy with
      | .ok next =>
          rec.withRetry (rec.retryCount + 1) next.isoformat
            (oraText result.oraCode result.errorMessage)
      | .error _ => rec

theorem get_replay_settle {bridge : BridgeState} {rec : RecordInboxEvent}
    (found : bridge.recordInbox.get rec.eventId = some rec) (profileName : String)
    (now : Instant) (result : MergeResult) :
    (bridge.replay (deps.settle profileName now rec result)).recordInbox.get rec.eventId =
      some (deps.settledRow now rec result) := by
  unfold settle settledRow
  cases deps.verdict result with
  | committed =>
      cases usableTopic deps.topicAck <;> simp [BridgeState.exec, RecordInbox.get_markSent, found]
  | unretryable code =>
      cases usableTopic deps.topicNack <;>
        simp [BridgeState.exec, RecordInbox.get_markFailed, found]
  | retry =>
      cases nextRetryAt now (rec.retryCount + 1) deps.backoffPolicy with
      | ok next =>
          simp only [BridgeState.replay_cons, BridgeState.replay_nil, BridgeState.exec,
            RecordInbox.get_updateRetry, found, if_true, Option.map_some]
      | error error => simpa [BridgeState.exec] using found

/-- Sending a row touches no other row. -/
theorem touchedRecord_of_mem_sendOne {profileName : String} {now : Instant}
    {rec : RecordInboxEvent} {reply : MergeReply} {command : Command}
    (member : command ∈ deps.sendOne profileName now rec reply) {eventId : String}
    (different : rec.eventId ≠ eventId) : command.touchedRecord ≠ some eventId := by
  rcases List.mem_cons.mp member with rfl | inSettle
  · simp [Command.touchedRecord]
  · unfold settle at inSettle
    cases found : deps.verdict reply.result with
    | committed =>
        simp only [found, List.mem_cons, List.mem_map] at inSettle
        rcases inSettle with rfl | rfl | ⟨topic, -, rfl⟩ <;>
          simp [Command.touchedRecord, different]
    | unretryable code =>
        simp only [found, List.mem_cons, List.mem_map] at inSettle
        rcases inSettle with rfl | ⟨topic, -, rfl⟩ <;> simp [Command.touchedRecord, different]
    | retry =>
        simp only [found, List.mem_cons] at inSettle
        rcases inSettle with rfl | later
        · simp [Command.touchedRecord]
        · split at later <;>
            (rw [List.mem_singleton.mp later]; simp [Command.touchedRecord, different])

theorem visited_sublist (bridge : BridgeState) (call : RecordSenderCall)
    (profileName : String) (profile : Profile) :
    (deps.visited bridge call profileName profile).Sublist
      (bridge.recordInbox.iterReceivedDue call.now.isoformat) :=
  untilRaise_sublist _ _

theorem nodup_visited (bridge : BridgeState) (call : RecordSenderCall) (profileName : String)
    (profile : Profile) :
    ((deps.visited bridge call profileName profile).map RecordInboxEvent.eventId).Nodup :=
  (RecordInbox.nodup_due _ _).sublist
    ((deps.visited_sublist bridge call profileName profile).map _)

theorem Attempts.due {deps : RecordSenderDeps} {bridge : BridgeState} {call : RecordSenderCall}
    {profileName : String} {profile : Profile} {rec : RecordInboxEvent}
    (attempts : deps.Attempts bridge call profileName profile rec) :
    rec ∈ bridge.recordInbox.iterReceivedDue call.now.isoformat :=
  (deps.visited_sublist bridge call profileName profile).mem attempts.reached

/-- A row that is sent ends as `_send_one` leaves it, whatever the rest of the
batch does. -/
theorem get_runOnce_of_attempts {bridge : BridgeState} {call : RecordSenderCall}
    {profileName : String} {profile : Profile} {rec : RecordInboxEvent}
    (attempts : deps.Attempts bridge call profileName profile rec) :
    (bridge.replay (upToRaise (deps.runOnce bridge call))).recordInbox.get rec.eventId =
      some (deps.settledRow call.now rec (call.oracle profile rec).result) := by
  rw [deps.upToRaise_runOnce attempts.toAdmits, BridgeState.replay_cons]
  obtain ⟨reached, same, ends⟩ := (BridgeState.recordFrame rec.eventId).loop
    (bridge.exec (.queryBreaker profileName call.now))
    (deps.nodup_visited bridge call profileName profile) attempts.reached
    (fun other different command member =>
      deps.touchedRecord_of_mem_sendOne member different)
  simp only [BridgeState.recordFrame] at same ends
  rw [ends]
  simp only [sendOne, BridgeState.replay_cons]
  apply deps.get_replay_settle
  rw [← RecordInbox.get_of_due attempts.due]
  exact same

end RecordSenderDeps

end PresenceLogger.Bridge
