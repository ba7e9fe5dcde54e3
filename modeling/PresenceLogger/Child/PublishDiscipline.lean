import Mathlib.Data.List.Induction
import Mathlib.Tactic.Linarith
import PresenceLogger.Child.AckSession

/-!
# When the child publishes

The session's events, each taken as a whole: what the broker does to the
connection, the messages, the sends and the restarts.  A record is published on
a granted subscription only, and not again before its resend time.
-/

namespace PresenceLogger.Child

open Library

inductive ChildEvent where
  | connect (mid : Option Int)
  | suback (mid : Int) (granted : List Int)
  | disconnect
  | message (message : Message)
  /-- A send whose publication has this `rc`, waiting until its deadline; what the
  network thread receives meanwhile is taken after it. -/
  | send (rec : Record) (now : ℚ) (rc : Int)
  | restart

/-- The actions of an event, with none of another thread in between. -/
def ChildEvent.actions : ChildEvent → List ChildStep
  | .connect mid => [.call (.onConnect mid)]
  | .suback mid granted => [.call (.onSubscribe mid granted)]
  | .disconnect => [.call .onDisconnect]
  | .message received => .call (.onMessage received) :: Program.resumes .network [{}, {}]
  | .send rec now rc =>
      .call (.send rec now) ::
        Program.resumes .main [{}, {}, { rc := rc }, { expired := true }]
  | .restart => [.crash ()]

namespace AckSession

variable (config : AckSession)

def eventMachine : Machine ChildState ChildEvent ChildOutput where
  step state event :=
    (config.program.machine.final state event.actions,
      config.program.machine.trace state event.actions)

/-- What an event does to the memory, and what it publishes. -/
inductive EventEffect (memory : ChildMemory) :
    ChildEvent → ChildMemory → List (Record × ℚ) → Prop where
  | connect (mid : Option Int) :
      EventEffect memory (.connect mid) { memory with session := Session.onConnect mid } []
  | suback (mid : Int) (granted : List Int) :
      EventEffect memory (.suback mid granted)
        { memory with session := memory.session.onSubscribe mid granted } []
  | disconnect :
      EventEffect memory .disconnect { memory with session := memory.session.onDisconnect } []
  | restart : EventEffect memory .restart { memory with session := {} } []
  | unheard (message : Message) : EventEffect memory (.message message) memory []
  | acked (message : Message) (eventId : String) (committedAt : Option String)
      (topic : message.topic = config.ackTopic) :
      EventEffect memory (.message message)
        { memory with ledger := memory.ledger.markAcked config.destination eventId committedAt } []
  | nacked (message : Message) (eventId reason : String) (failedAt : Option String)
      (topic : message.topic = config.nackTopic) (enabled : memory.session.nackEnabled = true) :
      EventEffect memory (.message message)
        { memory with
          ledger := memory.ledger.markNacked config.destination eventId reason failedAt } []
  | unsent (rec : Record) (now : ℚ) (rc : Int) : EventEffect memory (.send rec now rc) memory []
  | first (rec : Record) (now : ℚ) (rc : Int) (subscribed : memory.session.subscribed = true)
      (absent : config.find memory rec.eventId = none) :
      EventEffect memory (.send rec now rc)
        { memory with ledger := memory.ledger.savePending config.destination rec now }
        [(rec, now)]
  | again (rec : Record) (now : ℚ) (rc : Int) (row : DeliveryRow)
      (subscribed : memory.session.subscribed = true)
      (found : config.find memory rec.eventId = some row)
      (due : ∀ last ∈ row.lastAttemptAt, config.resendAfter ≤ now - last) :
      EventEffect memory (.send rec now rc)
        { memory with
          ledger := memory.ledger.touchPending config.destination rec.eventId now }
        [(rec, now)]

variable {config}

/-- A publication, and the wait after it up to its deadline. -/
theorem alone_publish (memory : ChildMemory) (rec : Record) (now : ℚ) (rc : Int) :
    ∃ emits, config.program.alone (proceed memory (.publish rec now))
        [{ rc := rc }, { expired := true }] = finish memory emits ∧
      published emits = [(rec, now)] := by
  by_cases sent : rc = 0
  · rcases config.poll_cases memory rec true with ⟨outcome, same⟩ | ⟨running, -⟩
    · refine ⟨[.published rec now, .returned rec outcome], ?_, rfl⟩
      simp only [Program.alone, proceed, program, resume, sent, ne_eq, not_true_eq_false,
        if_false, same]
      rfl
    · cases running
  · refine ⟨[.published rec now, .returned rec .pending], ?_, rfl⟩
    simp only [Program.alone, proceed, program, resume, sent, ne_eq, not_false_eq_true, if_true]
    rfl

theorem effect_send (memory : ChildMemory) (rec : Record) (now : ℚ) (rc : Int) :
    ∃ next emits, config.program.alone (config.start memory (.send rec now))
        [{}, {}, { rc := rc }, { expired := true }] = finish next emits ∧
      config.EventEffect memory (.send rec now rc) next (published emits) := by
  by_cases subscribed : memory.session.subscribed = true
  · rw [start, if_pos subscribed]
    have looked : config.program.alone (proceed memory (.lookup rec now))
        [{}, {}, { rc := rc }, { expired := true }] =
        config.program.alone (config.lookup memory rec now)
          [{}, { rc := rc }, { expired := true }] := rfl
    rw [looked]
    rcases config.lookup_cases memory rec now with
      ⟨output, same, -, unpublished⟩ | ⟨absent, same⟩ | ⟨row, found, -, -, due, same⟩
    · rw [same]
      refine ⟨memory, [output], rfl, ?_⟩
      have none : published [output] = [] := by
        cases output with
        | published other time => exact absurd rfl (unpublished other time)
        | _ => rfl
      rw [none]
      exact .unsent rec now rc
    · rcases @alone_publish config
        { memory with ledger := memory.ledger.savePending config.destination rec now }
        rec now rc with ⟨emits, published, times⟩
      rw [same]
      refine ⟨_, emits, published, ?_⟩
      rw [times]
      exact .first rec now rc subscribed absent
    · rcases @alone_publish config
        { memory with
          ledger := memory.ledger.touchPending config.destination rec.eventId now }
        rec now rc with ⟨emits, published, times⟩
      rw [same]
      refine ⟨_, emits, published, ?_⟩
      rw [times]
      exact .again rec now rc row subscribed found due
  · rw [start, if_neg subscribed]
    exact ⟨memory, _, rfl, .unsent rec now rc⟩

theorem published_of_callback {emits : List ChildOutput}
    (quiet : ∀ output ∈ emits, output.ofSend = false) : published emits = [] := by
  apply List.filterMap_eq_nil_iff.mpr
  intro output emitted
  have callback := quiet output emitted
  cases output with
  | published rec now => cases callback
  | _ => rfl

theorem effect_message (memory : ChildMemory) (message : Message) :
    ∃ next emits, config.program.alone (config.start memory (.onMessage message)) [{}, {}] =
        finish next emits ∧
      config.EventEffect memory (.message message) next (published emits) := by
  have unheard : ∀ outcome inputs, Ends memory outcome →
      ∃ next emits, config.program.alone outcome inputs = finish next emits ∧
        config.EventEffect memory (.message message) next (published emits) := by
    rintro outcome inputs ⟨emits, rfl, quiet⟩
    refine ⟨memory, emits, Program.alone_done _ rfl inputs, ?_⟩
    rw [published_of_callback quiet]
    exact .unheard message
  rw [start]
  rcases config.onMessage_cases memory message with
    ends | ⟨_, eventId, mkDate, committedAt, topic, -, -, -, same⟩ |
    ⟨eventId, reason, failedAt, topic, enabled, same⟩
  · exact unheard _ _ ends
  · have looked : config.program.alone (config.onMessage memory message) [{}, {}] =
        config.program.alone (config.ackLookup memory eventId mkDate committedAt) [{}] := by
      rw [same]
      rfl
    rw [looked]
    rcases config.ackLookup_cases memory eventId mkDate committedAt with
      ends | ⟨id, row, -, -, -, -, goesOn⟩
    · exact unheard _ _ ends
    · have updated : config.program.alone (proceed memory (.ackUpdate id committedAt)) [{}] =
          config.ackUpdate memory id committedAt := rfl
      rw [goesOn, updated]
      rcases config.ackUpdate_cases memory id committedAt with ends | ⟨bound, done⟩
      · exact unheard _ [] ends
      · rw [done]
        exact ⟨_, [], rfl, .acked message id bound topic⟩
  · have looked : config.program.alone (config.onMessage memory message) [{}, {}] =
        config.program.alone (config.nackLookup memory eventId reason failedAt) [{}] := by
      rw [same]
      rfl
    rw [looked]
    rcases config.nackLookup_cases memory eventId reason failedAt with ends | ⟨id, goesOn⟩
    · exact unheard _ _ ends
    · have updated : config.program.alone (proceed memory (.nackUpdate id reason failedAt)) [{}] =
          config.nackUpdate memory id reason failedAt := rfl
      rw [goesOn, updated]
      rcases config.nackUpdate_cases memory id reason failedAt with ends | ⟨text, bound, done⟩
      · exact unheard _ [] ends
      · rw [done]
        exact ⟨_, [], rfl, .nacked message id text bound topic enabled⟩

theorem run_finish {memory next : ChildMemory} {routine : ChildRoutine}
    {inputs : List ChildInput} {emits : List ChildOutput}
    (same : config.program.alone (config.start memory routine) inputs = finish next emits) :
    config.program.machine.final (Program.idle memory)
        (.call routine :: Program.resumes (config.program.thread routine) inputs) =
        Program.idle next ∧
      config.program.machine.trace (Program.idle memory)
        (.call routine :: Program.resumes (config.program.thread routine) inputs) = emits := by
  have done : (config.program.alone (config.program.start memory routine) inputs).point = none := by
    change (config.program.alone (config.start memory routine) inputs).point = none
    rw [same]
    rfl
  have ran := config.program.run_alone done
  change _ = Program.idle (config.program.alone (config.start memory routine) inputs).memory ∧
    _ = (config.program.alone (config.start memory routine) inputs).emits at ran
  rw [same] at ran
  exact ran

/-- Every event runs to its end, with its effect. -/
theorem effect (config : AckSession) (memory : ChildMemory) (event : ChildEvent) :
    ∃ next, (config.eventMachine.step (Program.idle memory) event).1 = Program.idle next ∧
      config.EventEffect memory event next
        (published (config.eventMachine.step (Program.idle memory) event).2) := by
  cases event with
  | connect mid =>
      rcases @run_finish config memory _ (.onConnect mid) [] _ rfl with ⟨reached, -⟩
      exact ⟨_, reached, .connect mid⟩
  | suback mid granted =>
      rcases @run_finish config memory _ (.onSubscribe mid granted) [] _ rfl with ⟨reached, -⟩
      exact ⟨_, reached, .suback mid granted⟩
  | disconnect =>
      rcases @run_finish config memory _ .onDisconnect [] _ rfl with ⟨reached, -⟩
      exact ⟨_, reached, .disconnect⟩
  | message message =>
      rcases effect_message memory message with ⟨next, emits, same, effect⟩
      rcases run_finish same with ⟨reached, emitted⟩
      rw [← emitted] at effect
      exact ⟨next, reached, effect⟩
  | send rec now rc =>
      rcases effect_send memory rec now rc with ⟨next, emits, same, effect⟩
      rcases run_finish same with ⟨reached, emitted⟩
      rw [← emitted] at effect
      exact ⟨next, reached, effect⟩
  | restart => exact ⟨{ memory with session := {} }, rfl, .restart⟩

theorem EventEffect.subscribed_of_mem {memory next : ChildMemory} {event : ChildEvent}
    {publications : List (Record × ℚ)} {publication : Record × ℚ}
    (effect : config.EventEffect memory event next publications)
    (member : publication ∈ publications) : memory.session.subscribed = true := by
  cases effect with
  | first rec now rc subscribed absent => exact subscribed
  | again rec now rc row subscribed found due => exact subscribed
  | _ => exact absurd member List.not_mem_nil

theorem EventEffect.nackEnabled_of_changed {memory next : ChildMemory} {message : Message}
    {publications : List (Record × ℚ)}
    (effect : config.EventEffect memory (.message message) next publications)
    (topic : message.topic = config.nackTopic) (changed : next.ledger ≠ memory.ledger) :
    memory.session.nackEnabled = true := by
  cases effect with
  | unheard => exact absurd rfl changed
  | acked _ eventId committedAt ackTopic =>
      exact absurd (topic.symm.trans ackTopic) config.nackTopic_ne_ackTopic
  | nacked _ eventId reason failedAt nackTopic enabled => exact enabled

end AckSession

/-! ## The broker's side -/

/-- What the broker and `paho` know: whether the child is connected, and the mids
of the process's SUBSCRIBEs. -/
structure Broker where
  connected : Bool := false
  mids : List Int := []
  deriving DecidableEq, Repr

def Broker.after (broker : Broker) : ChildEvent → Broker
  | .connect mid => { connected := true, mids := mid.toList ++ broker.mids }
  | .disconnect => { broker with connected := false }
  | .restart => {}
  | .suback _ _ | .message _ | .send _ _ _ => broker

def brokerMachine : Machine Broker ChildEvent Unit where
  step broker event := (broker.after event, [])

/-- `client.subscribe` returns a fresh mid, and no SUBACK comes while the child is
disconnected. -/
def Broker.Permits (broker : Broker) : ChildEvent → Prop
  | .connect mid => ∀ fresh ∈ mid, fresh ∉ broker.mids
  | .suback _ _ => broker.connected = true
  | _ => True

/-- The events that end the current connection. -/
def ChildEvent.endsConnection : ChildEvent → Bool
  | .connect _ | .disconnect | .restart => true
  | _ => false

/-- The last SUBACK of the current connection's own SUBSCRIBE, whose mid no other
SUBSCRIBE of the process has, grants the topic at this position. -/
def GrantedBy (mid : Int) (position : Nat) (events : List ChildEvent) : Prop :=
  ∃ before between granted after,
    events = before ++ .connect (some mid) :: (between ++ .suback mid granted :: after) ∧
    mid ∉ (brokerMachine.final {} before).mids ∧
    (∀ event ∈ between ++ after, event.endsConnection = false) ∧
    (∀ other, .suback mid other ∉ after) ∧ isGranted granted position = true

def Granted (position : Nat) (events : List ChildEvent) : Prop :=
  ∃ mid, GrantedBy mid position events

theorem GrantedBy.snoc {mid : Int} {position : Nat} {events : List ChildEvent}
    (granted : GrantedBy mid position events) {event : ChildEvent}
    (keeps : event.endsConnection = false) (another : ∀ codes, event ≠ .suback mid codes) :
    GrantedBy mid position (events ++ [event]) := by
  rcases granted with ⟨before, between, codes, after, rfl, fresh, kept, last, grants⟩
  refine ⟨before, between, codes, after ++ [event], by simp, fresh, ?_, ?_, grants⟩
  · intro other member
    rw [← List.append_assoc] at member
    rcases List.mem_append.mp member with old | new
    · exact kept other old
    · rw [List.mem_singleton.mp new]
      exact keeps
  · intro other member
    rcases List.mem_append.mp member with old | new
    · exact last other old
    · exact another other (List.mem_singleton.mp new).symm

/-- Without a connect the child is not connected again. -/
theorem connected_of_final {broker : Broker} {events : List ChildEvent}
    (single : ∀ mid, .connect mid ∉ events)
    (connected : (brokerMachine.final broker events).connected = true) :
    broker.connected = true ∧ ∀ event ∈ events, event.endsConnection = false := by
  induction events generalizing broker with
  | nil => exact ⟨connected, nofun⟩
  | cons event events ih =>
      rcases ih (fun mid member => single mid (List.mem_cons_of_mem _ member)) connected with
        ⟨afterwards, kept⟩
      cases event with
      | connect mid => exact absurd List.mem_cons_self (single mid)
      | disconnect => cases afterwards
      | restart => cases afterwards
      | _ =>
          refine ⟨afterwards, ?_⟩
          intro other member
          rcases List.mem_cons.mp member with rfl | later
          · rfl
          · exact kept other later

/-! ## The session's flags -/

/-- The last SUBSCRIBE of the process has this mid. -/
def Expects (mid : Int) (events : List ChildEvent) : Prop :=
  ∃ before after, events = before ++ .connect (some mid) :: after ∧
    (∀ other, .connect other ∉ after) ∧ mid ∉ (brokerMachine.final {} before).mids

/-- What the session's attributes say about the events so far. -/
structure Tracks (session : Session) (events : List ChildEvent) : Prop where
  expected : ∀ mid, session.expectedMid = some mid → Expects mid events
  subscribed : session.subscribed = true →
    ∃ mid, session.expectedMid = some mid ∧ GrantedBy mid 0 events
  nackEnabled : session.nackEnabled = true →
    ∃ mid, session.expectedMid = some mid ∧ GrantedBy mid 1 events

theorem Expects.snoc {mid : Int} {events : List ChildEvent} (expects : Expects mid events)
    {event : ChildEvent} (same : ∀ other, event ≠ .connect other) :
    Expects mid (events ++ [event]) := by
  rcases expects with ⟨before, after, rfl, single, fresh⟩
  refine ⟨before, after ++ [event], by simp, ?_, fresh⟩
  intro other member
  rcases List.mem_append.mp member with old | new
  · exact single other old
  · exact same other (List.mem_singleton.mp new).symm

/-- A SUBACK with the expected mid decides about both topics. -/
theorem Expects.suback {mid : Int} {events : List ChildEvent} (expects : Expects mid events)
    (connected : (brokerMachine.final {} events).connected = true) {granted : List Int}
    {position : Nat} (grants : isGranted granted position = true) :
    GrantedBy mid position (events ++ [.suback mid granted]) := by
  rcases expects with ⟨before, after, rfl, single, fresh⟩
  rw [Machine.final_append] at connected
  rcases connected_of_final single connected with ⟨-, kept⟩
  refine ⟨before, after, granted, [], by simp, fresh, ?_, fun _ => List.not_mem_nil, grants⟩
  rw [List.append_nil]
  exact kept

section Tracks

variable {session : Session} {events : List ChildEvent}

/-- An event that leaves the session alone. -/
theorem Tracks.keep (tracks : Tracks session events) {event : ChildEvent}
    (keeps : event.endsConnection = false)
    (another : ∀ mid codes, session.expectedMid = some mid → event ≠ .suback mid codes) :
    Tracks session (events ++ [event]) := by
  constructor
  · intro mid expected
    apply (tracks.expected mid expected).snoc
    rintro other rfl
    cases keeps
  · intro subscribed
    rcases tracks.subscribed subscribed with ⟨mid, expected, granted⟩
    exact ⟨mid, expected, granted.snoc keeps fun codes => another mid codes expected⟩
  · intro enabled
    rcases tracks.nackEnabled enabled with ⟨mid, expected, granted⟩
    exact ⟨mid, expected, granted.snoc keeps fun codes => another mid codes expected⟩

theorem Tracks.connect {mid : Option Int}
    (permits : (brokerMachine.final {} events).Permits (.connect mid)) :
    Tracks (Session.onConnect mid) (events ++ [.connect mid]) := by
  constructor
  · rintro fresh rfl
    exact ⟨events, [], rfl, fun _ => List.not_mem_nil, permits fresh rfl⟩
  · intro subscribed
    cases subscribed
  · intro enabled
    cases enabled

theorem Tracks.suback (tracks : Tracks session events) {mid : Int} {granted : List Int}
    (permits : (brokerMachine.final {} events).Permits (.suback mid granted)) :
    Tracks (session.onSubscribe mid granted) (events ++ [.suback mid granted]) := by
  by_cases other : some mid ≠ session.expectedMid
  · rw [Session.onSubscribe, if_pos other]
    apply tracks.keep rfl
    rintro expected codes same equal
    cases equal
    exact other same.symm
  · rw [Session.onSubscribe, if_neg other]
    have expected : session.expectedMid = some mid := (not_not.mp other).symm
    have expects := tracks.expected mid expected
    constructor
    · intro last sameLast
      exact (tracks.expected last sameLast).snoc nofun
    · intro subscribed
      exact ⟨mid, expected, expects.suback permits subscribed⟩
    · intro enabled
      exact ⟨mid, expected, expects.suback permits enabled⟩

theorem Tracks.disconnect (tracks : Tracks session events) :
    Tracks session.onDisconnect (events ++ [.disconnect]) := by
  constructor
  · intro mid expected
    exact (tracks.expected mid expected).snoc nofun
  · intro subscribed
    cases subscribed
  · intro enabled
    cases enabled

theorem Tracks.restart (events : List ChildEvent) : Tracks {} events := by
  constructor
  · intro mid expected
    cases expected
  · intro subscribed
    cases subscribed
  · intro enabled
    cases enabled

/-- Every event keeps the session's attributes true. -/
theorem Tracks.event {config : AckSession} {memory next : ChildMemory} {event : ChildEvent}
    {publications : List (Record × ℚ)} (tracks : Tracks memory.session events)
    (permits : (brokerMachine.final {} events).Permits event)
    (effect : config.EventEffect memory event next publications) :
    Tracks next.session (events ++ [event]) := by
  cases effect with
  | connect mid => exact .connect permits
  | suback mid granted => exact tracks.suback permits
  | disconnect => exact tracks.disconnect
  | restart => exact .restart _
  | _ => exact tracks.keep rfl nofun

end Tracks

/-! ## The resend time -/

/-- Two publications of one event id are a resend time apart. -/
def Spaced (config : AckSession) (earlier later : Record × ℚ) : Prop :=
  earlier.1.eventId = later.1.eventId → earlier.2 + config.resendAfter ≤ later.2

/-- The ledger has an attempt of every publication, no earlier than it. -/
def Attempted (config : AckSession) (memory : ChildMemory)
    (publications : List (Record × ℚ)) : Prop :=
  ∀ publication ∈ publications, ∃ row last,
    config.find memory publication.1.eventId = some row ∧ row.lastAttemptAt = some last ∧
      publication.2 ≤ last

section Attempted

variable {config : AckSession} {memory next : ChildMemory} {event : ChildEvent}
  {history publications : List (Record × ℚ)}

/-- An update of one row, after which its attempt is no earlier than what was
published. -/
theorem Attempted.update {set : DeliveryRow → DeliveryRow} {eventId : String}
    (attempted : Attempted config memory history)
    (updates : ∀ key, next.ledger.get key =
      if key = (config.destination, eventId) then (memory.ledger.get key).map set
      else memory.ledger.get key)
    (keeps : ∀ row last, row.lastAttemptAt = some last →
      ∃ later, (set row).lastAttemptAt = some later ∧
        ∀ publication ∈ history, publication.2 ≤ last → publication.2 ≤ later) :
    Attempted config next history := by
  intro publication member
  rcases attempted publication member with ⟨row, last, found, attempt, before⟩
  rw [AckSession.find] at found
  by_cases here : (config.destination, publication.1.eventId) = (config.destination, eventId)
  · rcases keeps row last attempt with ⟨later, updated, order⟩
    refine ⟨set row, later, ?_, updated, order publication member before⟩
    rw [AckSession.find, updates, if_pos here, found]
    rfl
  · refine ⟨row, last, ?_, attempt, before⟩
    rw [AckSession.find, updates, if_neg here, found]

/-- A publication of a record that the ledger does not know. -/
theorem Attempted.first {rec : Record} {now : ℚ} (attempted : Attempted config memory history)
    (absent : config.find memory rec.eventId = none) :
    Attempted config
        { memory with ledger := memory.ledger.savePending config.destination rec now }
        (history ++ [(rec, now)]) ∧
      ∀ earlier ∈ history, Spaced config earlier (rec, now) := by
  have other : ∀ publication ∈ history, publication.1.eventId ≠ rec.eventId := by
    intro publication member same
    rcases attempted publication member with ⟨row, last, found, -⟩
    rw [same, absent] at found
    cases found
  constructor
  · intro publication member
    rw [AckSession.find, Ledger.get_savePending]
    rcases List.mem_append.mp member with old | new
    · rcases attempted publication old with ⟨row, last, found, attempt, before⟩
      refine ⟨row, last, ?_, attempt, before⟩
      rw [if_neg]
      · exact found
      · intro same
        exact other publication old (Prod.mk.inj same).2.symm
    · rw [List.mem_singleton.mp new, if_pos rfl]
      rw [AckSession.find] at absent
      rw [absent]
      exact ⟨_, now, rfl, rfl, le_refl now⟩
  · intro earlier member same
    exact absurd same (other earlier member)

/-- A publication of a record whose time has come again. -/
theorem Attempted.again {rec : Record} {now : ℚ} {row : DeliveryRow}
    (attempted : Attempted config memory history)
    (ordered : ∀ publication ∈ history, publication.2 ≤ now)
    (found : config.find memory rec.eventId = some row)
    (due : ∀ last ∈ row.lastAttemptAt, config.resendAfter ≤ now - last) :
    Attempted config
        { memory with
          ledger := memory.ledger.touchPending config.destination rec.eventId now }
        (history ++ [(rec, now)]) ∧
      ∀ earlier ∈ history, Spaced config earlier (rec, now) := by
  have touched := memory.ledger.get_touchPending config.destination rec.eventId now
  constructor
  · intro publication member
    rcases List.mem_append.mp member with old | new
    · apply attempted.update touched _ publication old
      intro other last _
      exact ⟨now, rfl, fun before early _ => ordered before early⟩
    · rw [List.mem_singleton.mp new]
      refine ⟨row.attempted now, now, ?_, rfl, le_refl now⟩
      rw [AckSession.find, touched, if_pos rfl]
      rw [AckSession.find] at found
      rw [found]
      rfl
  · intro earlier member same
    rcases attempted earlier member with ⟨other, last, foundOther, attempt, before⟩
    rw [same] at foundOther
    cases found.symm.trans foundOther
    have wait := due last attempt
    change earlier.2 + config.resendAfter ≤ now
    linarith

/-- The time of a send. -/
def ChildEvent.sendTime : ChildEvent → Option ℚ
  | .send _ now _ => some now
  | _ => none

/-- Every event keeps the attempts, and what it publishes is spaced. -/
theorem Attempted.step (attempted : Attempted config memory history)
    (ordered : ∀ publication ∈ history, ∀ now ∈ event.sendTime, publication.2 ≤ now)
    (effect : config.EventEffect memory event next publications) :
    Attempted config next (history ++ publications) ∧
      (∀ earlier ∈ history, ∀ later ∈ publications, Spaced config earlier later) ∧
      (publications = [] ∨ ∃ rec now, publications = [(rec, now)] ∧
        event.sendTime = some now ∧ memory.session.subscribed = true) := by
  have quiet : Attempted config next history → publications = [] →
      Attempted config next (history ++ publications) ∧
      (∀ earlier ∈ history, ∀ later ∈ publications, Spaced config earlier later) ∧
      (publications = [] ∨ ∃ rec now, publications = [(rec, now)] ∧
        event.sendTime = some now ∧ memory.session.subscribed = true) := by
    rintro still rfl
    rw [List.append_nil]
    exact ⟨still, fun _ _ _ impossible => absurd impossible List.not_mem_nil, .inl rfl⟩
  cases effect with
  | acked message eventId committedAt topic =>
      refine quiet ?_ rfl
      apply attempted.update (memory.ledger.get_markAcked config.destination eventId committedAt)
      intro row last attempt
      exact ⟨last, attempt, fun _ _ before => before⟩
  | nacked message eventId reason failedAt topic enabled =>
      refine quiet ?_ rfl
      apply attempted.update
        (memory.ledger.get_markNacked config.destination eventId reason failedAt)
      intro row last attempt
      refine ⟨last, ?_, fun _ _ before => before⟩
      split
      · exact attempt
      · exact attempt
  | first rec now rc subscribed absent =>
      rcases attempted.first absent with ⟨still, spaced⟩
      refine ⟨still, ?_, .inr ⟨rec, now, rfl, rfl, subscribed⟩⟩
      intro earlier member later new
      rw [List.mem_singleton.mp new]
      exact spaced earlier member
  | again rec now rc row subscribed found due =>
      rcases attempted.again (fun publication member => ordered publication member now rfl)
        found due with ⟨still, spaced⟩
      refine ⟨still, ?_, .inr ⟨rec, now, rfl, rfl, subscribed⟩⟩
      intro earlier member later new
      rw [List.mem_singleton.mp new]
      exact spaced earlier member
  | _ => exact quiet attempted rfl

end Attempted

/-! ## Whole runs -/

/-- Send times do not decrease. -/
def SendsOrdered (events : List ChildEvent) : Prop :=
  (events.filterMap ChildEvent.sendTime).Pairwise (· ≤ ·)

instance (events : List ChildEvent) : Decidable (SendsOrdered events) :=
  inferInstanceAs (Decidable (List.Pairwise _ _))

/-- A new process on an existing database. -/
def opened (ledger : Ledger) : ChildState :=
  Program.idle { ledger := ledger, session := {} }

structure PublishDiscipline (config : AckSession) (ledger : Ledger) (events : List ChildEvent) :
    Prop where
  /-- A record is published on a granted subscription. -/
  granted : ∀ earlier event later publication, events = earlier ++ event :: later →
    publication ∈ published (config.eventMachine.step
      (config.eventMachine.final (opened ledger) earlier) event).2 →
    Granted 0 earlier
  spaced : (published (config.eventMachine.trace (opened ledger) events)).Pairwise
    (Spaced config)
  /-- A NACK changes the ledger on a granted subscription. -/
  nacks : ∀ earlier message later, events = earlier ++ .message message :: later →
    message.topic = config.nackTopic →
    (config.eventMachine.final (opened ledger) (earlier ++ [.message message])).memory.ledger ≠
      (config.eventMachine.final (opened ledger) earlier).memory.ledger →
    Granted 1 earlier

/-- What holds of the state that a run reaches. -/
structure Reached (config : AckSession) (ledger : Ledger) (events : List ChildEvent)
    (memory : ChildMemory) : Prop where
  state : config.eventMachine.final (opened ledger) events = Program.idle memory
  tracks : Tracks memory.session events
  attempted : Attempted config memory
    (published (config.eventMachine.trace (opened ledger) events))
  spaced : (published (config.eventMachine.trace (opened ledger) events)).Pairwise
    (Spaced config)
  times : ∀ publication ∈ published (config.eventMachine.trace (opened ledger) events),
    publication.2 ∈ events.filterMap ChildEvent.sendTime

section Runs

variable {config : AckSession} {ledger : Ledger} {events : List ChildEvent}

theorem published_append (left right : List ChildOutput) :
    published (left ++ right) = published left ++ published right :=
  List.filterMap_append

theorem exists_reached (permits : brokerMachine.Meets Broker.Permits {} events)
    (ordered : SendsOrdered events) : ∃ memory, Reached config ledger events memory := by
  induction events using List.reverseRecOn with
  | nil =>
      refine ⟨{ ledger := ledger, session := {} }, rfl, .restart [], ?_, .nil, ?_⟩
      · intro publication impossible
        exact absurd impossible List.not_mem_nil
      · intro publication impossible
        exact absurd impossible List.not_mem_nil
  | append_singleton events event ih =>
      rw [Machine.meets_append] at permits
      rw [SendsOrdered, List.filterMap_append, List.pairwise_append] at ordered
      rcases ih permits.1 ordered.1 with ⟨memory, reached⟩
      rcases AckSession.effect config memory event with ⟨next, arrived, effect⟩
      have before : ∀ publication ∈
          published (config.eventMachine.trace (opened ledger) events),
          ∀ now ∈ event.sendTime, publication.2 ≤ now := by
        intro publication member now time
        apply ordered.2.2 publication.2 (reached.times publication member) now
        exact List.mem_filterMap.mpr ⟨event, List.mem_singleton_self event, time⟩
      rcases reached.attempted.step before effect with ⟨attempted, apart, made⟩
      have trace : published (config.eventMachine.trace (opened ledger) (events ++ [event])) =
          published (config.eventMachine.trace (opened ledger) events) ++
            published (config.eventMachine.step (Program.idle memory) event).2 := by
        rw [Machine.trace_append, published_append, reached.state]
        simp only [Machine.trace, List.append_nil]
      refine ⟨next, ?_, reached.tracks.event permits.2.1 effect, ?_, ?_, ?_⟩
      · rw [Machine.final_append, reached.state]
        exact arrived
      · rw [trace]
        exact attempted
      · rw [trace]
        refine List.pairwise_append.mpr ⟨reached.spaced, ?_, apart⟩
        rcases made with none | ⟨rec, now, single, -⟩
        · rw [none]
          exact .nil
        · rw [single]
          exact List.pairwise_singleton _ _
      · intro publication member
        rw [trace] at member
        rw [List.filterMap_append, List.mem_append]
        rcases List.mem_append.mp member with old | new
        · exact .inl (reached.times publication old)
        · rcases made with none | ⟨rec, now, single, time, -⟩
          · rw [none] at new
            exact absurd new List.not_mem_nil
          · rw [single] at new
            cases List.mem_singleton.mp new
            exact .inr (List.mem_filterMap.mpr ⟨event, List.mem_singleton_self event, time⟩)

theorem SendsOrdered.left {left right : List ChildEvent} (ordered : SendsOrdered (left ++ right)) :
    SendsOrdered left := by
  rw [SendsOrdered, List.filterMap_append, List.pairwise_append] at ordered
  exact ordered.1

/-- The child publishes on granted subscriptions and a resend time apart, and
listens to NACKs on a granted subscription only. -/
theorem publishDiscipline (config : AckSession) (ledger : Ledger) (events : List ChildEvent)
    (permits : brokerMachine.Meets Broker.Permits {} events) (ordered : SendsOrdered events) :
    PublishDiscipline config ledger events := by
  constructor
  · intro earlier event later publication split member
    subst split
    rcases @exists_reached config ledger earlier ((Machine.meets_append _ _ _ _ _).mp permits).1
      ordered.left with ⟨memory, reached⟩
    rcases AckSession.effect config memory event with ⟨next, -, effect⟩
    rw [reached.state] at member
    rcases reached.tracks.subscribed (effect.subscribed_of_mem member) with ⟨mid, -, granted⟩
    exact ⟨mid, granted⟩
  · rcases @exists_reached config ledger events permits ordered with ⟨memory, reached⟩
    exact reached.spaced
  · intro earlier message later split topic changed
    subst split
    rcases @exists_reached config ledger earlier ((Machine.meets_append _ _ _ _ _).mp permits).1
      ordered.left with ⟨memory, reached⟩
    rcases AckSession.effect config memory (.message message) with ⟨next, arrived, effect⟩
    rw [Machine.final_append, reached.state] at changed
    change (config.eventMachine.step (Program.idle memory) (.message message)).1.memory.ledger ≠
      memory.ledger at changed
    rw [arrived] at changed
    rcases reached.tracks.nackEnabled (effect.nackEnabled_of_changed topic changed) with
      ⟨mid, -, granted⟩
    exact ⟨mid, granted⟩

end Runs

/-- A record is sent, not within the resend time again, and once more after it and
a restart. -/
def Site.sends : List ChildEvent :=
  [.connect (some 1), .suback 1 [2, 2], .send Site.record 0 0, .send Site.record 500 0, .restart,
    .connect (some 1), .suback 1 [2, 128], .send Site.record 600 0]

theorem publishDiscipline_restart :
    published (Site.config.eventMachine.trace (opened Table.empty) Site.sends) =
        [(Site.record, 0), (Site.record, 600)] ∧
      PublishDiscipline Site.config Table.empty Site.sends := by
  constructor
  · decide +kernel
  · refine publishDiscipline Site.config Table.empty Site.sends ?_ ?_
    · refine ⟨?_, rfl, trivial, trivial, trivial, ?_, rfl, trivial, trivial⟩
      · intro fresh same
        exact List.not_mem_nil
      · intro fresh same
        exact List.not_mem_nil
    · decide +kernel

end PresenceLogger.Child
