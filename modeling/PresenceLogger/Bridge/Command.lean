import PresenceLogger.Bridge.CircuitBreaker
import PresenceLogger.Bridge.Inbox
import PresenceLogger.Bridge.Profile
import PresenceLogger.Bridge.RecordInbox

/-!
# The bridge's atomic steps

The bridge's routines read its state and then perform a list of atomic steps:
one SQL statement, one MERGE, one publication, or one update of an in-memory
object.  A routine's effect is the sequence of its steps, so a run is described
by its trace, and a crash cuts the trace at any point.
-/

namespace PresenceLogger.Bridge

open Library

/-- Which inbox a MERGE is made for. -/
inductive Path where
  | event
  | record
  deriving DecidableEq, Repr

/-- The bind variables of a MERGE, which are its whole `ON` clause. -/
structure MergeKey where
  mkDate : String
  staNo1 : String
  staNo2 : String
  staNo3 : String
  t1Status : Int
  deriving DecidableEq, Repr

/-- One call of `execute_merge_for_profile`, with the answer it got. -/
structure MergeAttempt where
  path : Path
  profileName : String
  eventId : String
  key : MergeKey
  now : Instant
  reply : MergeReply
  deriving DecidableEq, Repr

/-- The body of `publish_ack`. -/
structure Ack where
  topic : String
  eventId : String
  mkDateCommitted : Option String
  committedAtIso : Option String
  deriving DecidableEq, Repr

/-- The body of `publish_nack`. -/
structure Nack where
  topic : String
  eventId : String
  reason : String
  failedAtIso : String
  deriving DecidableEq, Repr

inductive Command where
  | getCurrentSsid (nmcli : CommandOutcome)
  | resolveSsid
  | pollTime (reading : ClockReading)
  | queryBreaker (profileName : String) (now : Instant)
  | recordSuccess (profileName : String)
  | recordFailure (profileName : String) (oraCode : Option Int) (now : Instant)
  | merge (attempt : MergeAttempt)
  | insertEvent (event : InboxEvent)
  | markSent (eventId mkDateCommitted profileAtSend sentAtIso : String)
  | updateRetry (eventId : String) (retryCount : Int) (nextRetryAtIso lastError : String)
  | deleteEvent (eventId : String)
  | insertRecord (rec : RecordInboxEvent)
  | markRecordSent (eventId mkDateCommitted sentAtIso : String)
  | markRecordFailed (eventId failedAtIso lastError : String)
  | updateRecordRetry (eventId : String) (retryCount : Int) (nextRetryAtIso lastError : String)
  | deleteRecord (eventId : String)
  | publishAck (ack : Ack)
  | publishRecordAck (ack : Ack)
  | publishRecordNack (nack : Nack)
  /-- The process ends; nothing that follows in its trace is performed. -/
  | raise (error : PyError)
  /-- The process starts again: only the two tables survive. -/
  | restart
  deriving DecidableEq, Repr

/-- The MERGEs of a trace. -/
def merges (trace : List Command) : List MergeAttempt :=
  trace.filterMap fun command =>
    match command with
    | .merge attempt => some attempt
    | _ => none

@[simp] theorem mem_merges {trace : List Command} {attempt : MergeAttempt} :
    attempt ∈ merges trace ↔ .merge attempt ∈ trace := by
  constructor
  · intro member
    obtain ⟨command, inTrace, same⟩ := List.mem_filterMap.mp member
    cases command with
    | merge other => exact Option.some.inj same ▸ inTrace
    | _ => cases same
  · intro member
    exact List.mem_filterMap.mpr ⟨_, member, rfl⟩

@[simp] theorem merges_append (left right : List Command) :
    merges (left ++ right) = merges left ++ merges right :=
  List.filterMap_append

/-- A trace without MERGEs. -/
theorem merges_eq_nil {trace : List Command} (none : ∀ attempt, .merge attempt ∉ trace) :
    merges trace = [] := by
  apply List.eq_nil_iff_forall_not_mem.mpr
  intro attempt member
  exact none attempt (mem_merges.mp member)

/-- The bridge's two databases and the objects `main` builds; `running` is false
from the exception that ends the process to the next start. -/
structure BridgeState where
  inbox : Inbox
  recordInbox : RecordInbox
  breaker : CircuitBreaker
  resolver : ProfileResolver
  network : NetworkWatcher
  timeWatcher : TimeWatcher := {}
  running : Bool := true

namespace BridgeState

/-- A new process on the same databases, with the same configuration. -/
def restarted (bridge : BridgeState) : BridgeState where
  inbox := bridge.inbox
  recordInbox := bridge.recordInbox
  breaker := { bridge.breaker with entry := fun _ => {} }
  resolver := { bridge.resolver with lastKnown := none }
  network := { bridge.network with cachedSsid := none }

/-- The effect of one step on the bridge's own state. -/
def exec (bridge : BridgeState) : Command → BridgeState
  | .getCurrentSsid nmcli => { bridge with network := bridge.network.getCurrentSsid nmcli }
  | .resolveSsid =>
      { bridge with resolver := (bridge.resolver.resolve bridge.network.cachedSsid).1 }
  | .pollTime reading => { bridge with timeWatcher := bridge.timeWatcher.poll reading }
  | .queryBreaker profileName now =>
      { bridge with breaker := (bridge.breaker.stateFor profileName (some now)).1 }
  | .recordSuccess profileName =>
      { bridge with breaker := bridge.breaker.recordSuccess profileName }
  | .recordFailure profileName oraCode now =>
      { bridge with breaker := bridge.breaker.recordFailure profileName oraCode now }
  | .insertEvent event => { bridge with inbox := bridge.inbox.insertReceived event }
  | .markSent eventId mkDateCommitted profileAtSend sentAtIso =>
      { bridge with
        inbox := bridge.inbox.markSent eventId mkDateCommitted profileAtSend sentAtIso }
  | .updateRetry eventId retryCount nextRetryAtIso lastError =>
      { bridge with
        inbox := bridge.inbox.updateRetry eventId retryCount nextRetryAtIso lastError }
  | .deleteEvent eventId => { bridge with inbox := bridge.inbox.delete eventId }
  | .insertRecord rec => { bridge with recordInbox := bridge.recordInbox.insertReceived rec }
  | .markRecordSent eventId mkDateCommitted sentAtIso =>
      { bridge with
        recordInbox := bridge.recordInbox.markSent eventId mkDateCommitted sentAtIso }
  | .markRecordFailed eventId failedAtIso lastError =>
      { bridge with
        recordInbox := bridge.recordInbox.markFailed eventId failedAtIso lastError }
  | .updateRecordRetry eventId retryCount nextRetryAtIso lastError =>
      { bridge with
        recordInbox :=
          bridge.recordInbox.updateRetry eventId retryCount nextRetryAtIso lastError }
  | .deleteRecord eventId => { bridge with recordInbox := bridge.recordInbox.delete eventId }
  | .raise _ => { bridge with running := false }
  | .restart => bridge.restarted
  | .merge _ | .publishAck _ | .publishRecordAck _ | .publishRecordNack _ => bridge

/-- The state after a whole trace. -/
def replay (bridge : BridgeState) (trace : List Command) : BridgeState :=
  trace.foldl exec bridge

@[simp] theorem replay_nil (bridge : BridgeState) : bridge.replay [] = bridge := rfl

@[simp] theorem replay_cons (bridge : BridgeState) (command : Command) (trace : List Command) :
    bridge.replay (command :: trace) = (bridge.exec command).replay trace := rfl

@[simp] theorem replay_append (bridge : BridgeState) (left right : List Command) :
    bridge.replay (left ++ right) = (bridge.replay left).replay right :=
  List.foldl_append

end BridgeState

/-! ## Frames -/

/-- A part of the state, and the steps that may change it. -/
structure Frame (ρ : Type*) where
  observe : BridgeState → ρ
  touches : Command → Prop
  exec : ∀ bridge command, ¬touches command → observe (bridge.exec command) = observe bridge

namespace Frame

variable {ρ : Type*} {α : Type*} (frame : Frame ρ)

/-- What no step of a trace touches is as it was. -/
theorem replay (bridge : BridgeState) {trace : List Command}
    (untouched : ∀ command ∈ trace, ¬frame.touches command) :
    frame.observe (bridge.replay trace) = frame.observe bridge := by
  induction trace generalizing bridge with
  | nil => rfl
  | cons command trace ih =>
      rw [BridgeState.replay_cons,
        ih _ fun later member => untouched later (List.mem_cons_of_mem _ member)]
      exact frame.exec bridge command (untouched command List.mem_cons_self)

/-- After a loop, what belongs to one item is as the body left it at that item, if the body
leaves it alone at the others. -/
theorem loop_of_apart (bridge : BridgeState) {body : α → List Command} {before after : List α}
    {item : α} (apart : ∀ other, other ∈ before ∨ other ∈ after →
      ∀ command ∈ body other, ¬frame.touches command) :
    ∃ reached : BridgeState, frame.observe reached = frame.observe bridge ∧
      frame.observe (bridge.replay ((before ++ item :: after).flatMap body)) =
        frame.observe (reached.replay (body item)) := by
  have untouchedBefore : ∀ command ∈ before.flatMap body, ¬frame.touches command := by
    intro command inBefore
    obtain ⟨other, here, inBody⟩ := List.mem_flatMap.mp inBefore
    exact apart other (.inl here) command inBody
  have untouchedAfter : ∀ command ∈ after.flatMap body, ¬frame.touches command := by
    intro command inAfter
    obtain ⟨other, here, inBody⟩ := List.mem_flatMap.mp inAfter
    exact apart other (.inr here) command inBody
  refine ⟨bridge.replay (before.flatMap body), frame.replay bridge untouchedBefore, ?_⟩
  rw [List.flatMap_append, List.flatMap_cons, BridgeState.replay_append,
    BridgeState.replay_append]
  exact frame.replay _ untouchedAfter

/-- After a loop over distinct items, what belongs to one item is as the body
left it at that item. -/
theorem loop (bridge : BridgeState) {body : α → List Command} {key : α → String}
    {items : List α} (nodup : (items.map key).Nodup) {item : α} (member : item ∈ items)
    (apart : ∀ other, key other ≠ key item → ∀ command ∈ body other, ¬frame.touches command) :
    ∃ reached : BridgeState, frame.observe reached = frame.observe bridge ∧
      frame.observe (bridge.replay (items.flatMap body)) =
        frame.observe (reached.replay (body item)) := by
  obtain ⟨before, after, rfl⟩ := List.append_of_mem member
  rw [List.map_append, List.map_cons, List.nodup_append, List.nodup_cons] at nodup
  obtain ⟨-, ⟨fresh, -⟩, disjoint⟩ := nodup
  apply frame.loop_of_apart
  intro other elsewhere
  apply apart
  intro same
  rcases elsewhere with here | here
  · exact disjoint _ (List.mem_map_of_mem here) _ List.mem_cons_self same
  · exact fresh (same ▸ List.mem_map_of_mem here)

end Frame

/-- The steps that ask the guards of a sender, and an exception. -/
def Command.IsOpening : Command → Prop
  | .getCurrentSsid _ | .resolveSsid | .queryBreaker .. | .raise _ => True
  | _ => False

/-- The steps on the event inbox and the detector's topic. -/
def Command.concernsEvents : Command → Bool
  | .insertEvent _ | .markSent .. | .updateRetry .. | .deleteEvent _ | .publishAck _ => true
  | _ => false

/-- The steps on the record inbox and the children's topics. -/
def Command.concernsRecords : Command → Bool
  | .insertRecord _ | .markRecordSent .. | .markRecordFailed .. | .updateRecordRetry ..
  | .deleteRecord _ | .publishRecordAck _ | .publishRecordNack _ => true
  | _ => false

/-- The steps of a sender that come after a MERGE. -/
def Command.followsMerge : Command → Bool
  | .recordSuccess _ | .recordFailure .. | .raise _ => true
  | .markSent .. | .updateRetry .. | .publishAck _ => true
  | .markRecordSent .. | .markRecordFailed .. | .updateRecordRetry .. => true
  | .publishRecordAck _ | .publishRecordNack _ => true
  | _ => false

/-- The event whose inbox row a step may change. -/
def Command.touchedEvent : Command → Option String
  | .insertEvent event => some event.eventId
  | .markSent eventId _ _ _ => some eventId
  | .updateRetry eventId _ _ _ => some eventId
  | .deleteEvent eventId => some eventId
  | _ => none

/-- The record whose inbox row a step may change. -/
def Command.touchedRecord : Command → Option String
  | .insertRecord rec => some rec.eventId
  | .markRecordSent eventId _ _ => some eventId
  | .markRecordFailed eventId _ _ => some eventId
  | .updateRecordRetry eventId _ _ _ => some eventId
  | .deleteRecord eventId => some eventId
  | _ => none

theorem Command.touchedEvent_eq_none {command : Command}
    (elsewhere : command.concernsEvents = false) : command.touchedEvent = none := by
  cases command <;> first | rfl | cases elsewhere

theorem Command.IsOpening.concernsEvents {command : Command} (opening : command.IsOpening) :
    command.concernsEvents = false := by
  cases command <;> first | rfl | exact absurd opening id

theorem Command.IsOpening.concernsRecords {command : Command} (opening : command.IsOpening) :
    command.concernsRecords = false := by
  cases command <;> first | rfl | exact absurd opening id

/-- The profile whose breaker entry a step may change; a restart resets all of
them. -/
def Command.touchesBreaker (profileName : String) : Command → Prop
  | .queryBreaker name _ => name = profileName
  | .recordSuccess name => name = profileName
  | .recordFailure name _ _ => name = profileName
  | .restart => True
  | _ => False

namespace BridgeState

/-- A step leaves every inbox row alone but the one it touches. -/
theorem exec_inbox_get (bridge : BridgeState) {command : Command} {eventId : String}
    (untouched : command.touchedEvent ≠ some eventId) :
    (bridge.exec command).inbox.get eventId = bridge.inbox.get eventId := by
  cases command with
  | insertEvent event =>
      have different : ¬(event.eventId = eventId ∧ bridge.inbox.get eventId = none) :=
        fun both => untouched (congrArg some both.1)
      simp only [exec, Inbox.insertReceived, Table.get_insertOrIgnore, if_neg different]
  | markSent id mkDateCommitted profileAtSend sentAtIso =>
      have different : eventId ≠ id := fun same => untouched (congrArg some same.symm)
      simp only [exec, Inbox.get_markSent, if_neg different]
  | updateRetry id retryCount nextRetryAtIso lastError =>
      have different : eventId ≠ id := fun same => untouched (congrArg some same.symm)
      simp only [exec, Inbox.get_updateRetry, if_neg different]
  | deleteEvent id =>
      have different : eventId ≠ id := fun same => untouched (congrArg some same.symm)
      simp only [exec, Table.get_delete, if_neg different]
  | _ => rfl

def inboxFrame (eventId : String) : Frame (Option InboxEvent) where
  observe bridge := bridge.inbox.get eventId
  touches command := command.touchedEvent = some eventId
  exec bridge _ untouched := bridge.exec_inbox_get untouched

/-- A step leaves every record row alone but the one it touches. -/
theorem exec_recordInbox_get (bridge : BridgeState) {command : Command} {eventId : String}
    (untouched : command.touchedRecord ≠ some eventId) :
    (bridge.exec command).recordInbox.get eventId = bridge.recordInbox.get eventId := by
  cases command with
  | insertRecord rec =>
      have different : ¬(rec.eventId = eventId ∧ bridge.recordInbox.get eventId = none) :=
        fun both => untouched (congrArg some both.1)
      simp only [exec, RecordInbox.insertReceived, Table.get_insertOrIgnore, if_neg different]
  | markRecordSent id mkDateCommitted sentAtIso =>
      have different : eventId ≠ id := fun same => untouched (congrArg some same.symm)
      simp only [exec, RecordInbox.get_markSent, if_neg different]
  | markRecordFailed id failedAtIso lastError =>
      have different : eventId ≠ id := fun same => untouched (congrArg some same.symm)
      simp only [exec, RecordInbox.get_markFailed, if_neg different]
  | updateRecordRetry id retryCount nextRetryAtIso lastError =>
      have different : eventId ≠ id := fun same => untouched (congrArg some same.symm)
      simp only [exec, RecordInbox.get_updateRetry, if_neg different]
  | deleteRecord id =>
      have different : eventId ≠ id := fun same => untouched (congrArg some same.symm)
      simp only [exec, Table.get_delete, if_neg different]
  | _ => rfl

def recordFrame (eventId : String) : Frame (Option RecordInboxEvent) where
  observe bridge := bridge.recordInbox.get eventId
  touches command := command.touchedRecord = some eventId
  exec bridge _ untouched := bridge.exec_recordInbox_get untouched

/-- A step leaves every breaker entry alone but that of its own profile. -/
theorem exec_breaker_entry (bridge : BridgeState) {command : Command} {profileName : String}
    (untouched : ¬command.touchesBreaker profileName) :
    (bridge.exec command).breaker.entry profileName = bridge.breaker.entry profileName := by
  cases command with
  | queryBreaker name now =>
      exact CircuitBreaker.setEntry_entry_of_ne _ _ fun same => untouched same.symm
  | recordSuccess name =>
      exact CircuitBreaker.setEntry_entry_of_ne _ _ fun same => untouched same.symm
  | recordFailure name oraCode now =>
      simp only [exec, CircuitBreaker.recordFailure]
      split
      · exact CircuitBreaker.setEntry_entry_of_ne _ _ fun same => untouched same.symm
      · rfl
  | restart => exact absurd trivial untouched
  | _ => rfl

/-- A step that touches no entry leaves the whole breaker alone. -/
def wholeBreakerFrame : Frame CircuitBreaker where
  observe bridge := bridge.breaker
  touches command := ∃ profileName, command.touchesBreaker profileName
  exec bridge command untouched := by
    cases command with
    | queryBreaker name now => exact absurd ⟨name, rfl⟩ untouched
    | recordSuccess name => exact absurd ⟨name, rfl⟩ untouched
    | recordFailure name oraCode now => exact absurd ⟨name, rfl⟩ untouched
    | restart => exact absurd ⟨"", trivial⟩ untouched
    | _ => rfl

/-- The configured profiles never change. -/
theorem exec_profiles (bridge : BridgeState) (command : Command) :
    (bridge.exec command).resolver.profiles = bridge.resolver.profiles := by
  cases command with
  | resolveSsid =>
      simp only [exec, ProfileResolver.resolve]
      split <;> rfl
  | _ => rfl

theorem replay_profiles (bridge : BridgeState) (trace : List Command) :
    (bridge.replay trace).resolver.profiles = bridge.resolver.profiles := by
  induction trace generalizing bridge with
  | nil => rfl
  | cons command trace ih => rw [replay_cons, ih, exec_profiles]

end BridgeState

/-! ## Exceptions -/

def Command.isRaise : Command → Bool
  | .raise _ => true
  | _ => false

/-- The part of a plan that is performed: it ends with the first exception. -/
def upToRaise : List Command → List Command
  | [] => []
  | command :: rest => if command.isRaise then [command] else command :: upToRaise rest

theorem upToRaise_append_of_raises {left : List Command}
    (raises : left.any Command.isRaise = true) (right : List Command) :
    upToRaise (left ++ right) = upToRaise left := by
  induction left with
  | nil => simp at raises
  | cons command left ih =>
      simp only [List.cons_append, upToRaise]
      split
      next => rfl
      next calm =>
        rw [ih (by simpa [calm] using raises)]

theorem upToRaise_append_of_calm {left : List Command}
    (calm : left.any Command.isRaise = false) (right : List Command) :
    upToRaise (left ++ right) = left ++ upToRaise right := by
  induction left with
  | nil => rfl
  | cons command left ih =>
      simp only [List.any_cons, Bool.or_eq_false_iff] at calm
      simp only [List.cons_append, upToRaise, calm.1, ih calm.2, Bool.false_eq_true, if_false]

theorem mem_of_mem_upToRaise {plan : List Command} {command : Command}
    (member : command ∈ upToRaise plan) : command ∈ plan := by
  induction plan with
  | nil => exact member
  | cons first plan ih =>
      unfold upToRaise at member
      split at member
      · exact List.mem_singleton.mp member ▸ List.mem_cons_self
      · rcases List.mem_cons.mp member with rfl | later
        · exact List.mem_cons_self
        · exact List.mem_cons_of_mem _ (ih later)

theorem upToRaise_of_calm {plan : List Command} (calm : plan.any Command.isRaise = false) :
    upToRaise plan = plan := by
  simpa [upToRaise] using upToRaise_append_of_calm calm []

variable {α : Type*}

/-- The items a loop gets to: up to the first one whose body raises. -/
def untilRaise (body : α → List Command) : List α → List α
  | [] => []
  | item :: items =>
      if (body item).any Command.isRaise then [item] else item :: untilRaise body items

theorem untilRaise_sublist (body : α → List Command) (items : List α) :
    (untilRaise body items).Sublist items := by
  induction items with
  | nil => exact List.Sublist.refl []
  | cons item items ih =>
      unfold untilRaise
      split
      · exact (List.nil_sublist items).cons_cons item
      · exact ih.cons_cons item

/-- A loop whose body only raises at its end performs whole bodies. -/
theorem upToRaise_flatMap {body : α → List Command} {items : List α}
    (atEnd : ∀ item ∈ items, upToRaise (body item) = body item) :
    upToRaise (items.flatMap body) = (untilRaise body items).flatMap body := by
  induction items with
  | nil => rfl
  | cons item items ih =>
      have here := atEnd item List.mem_cons_self
      have later := ih fun other member => atEnd other (List.mem_cons_of_mem _ member)
      rw [List.flatMap_cons, untilRaise]
      split
      next raises => rw [upToRaise_append_of_raises raises, here]; simp
      next calm =>
        rw [upToRaise_append_of_calm (by simpa using calm), later, List.flatMap_cons]

end PresenceLogger.Bridge
