import PresenceLogger.Child.AckSession
import PresenceLogger.Library.Mqtt
import PresenceLogger.Library.Run

/-!
# Subscriptions over reconnects

The three programs on their MQTT connections.  The bridge and the child send
their subscriptions from `on_connect`; the detector has no such callback.
-/

namespace PresenceLogger.EndToEnd

open Library Library.Mqtt Child

/-! ## The clients -/

structure BridgeMqttClient where
  client : Option Connection := none
  /-- `_subscriptions`, which outlives the client. -/
  subscriptions : List Subscription := []
  /-- Appended by a call that has not yet sent it. -/
  appended : Option Subscription := none
  deriving DecidableEq, Repr

namespace BridgeMqttClient

def connectAndLoop (bridge : BridgeMqttClient) : BridgeMqttClient :=
  { bridge with client := some .opened }

def onConnect (bridge : BridgeMqttClient) (rc : Int) : List Subscription :=
  if rc ≠ 0 then [] else bridge.subscriptions

/-- `_register_subscription` up to its append. -/
def registerSubscription (bridge : BridgeMqttClient) (subscription : Subscription) :
    BridgeMqttClient :=
  { bridge with
    subscriptions := bridge.subscriptions ++ [subscription]
    appended := some subscription }

/-- The rest of `_register_subscription`. -/
def subscribeAppended (bridge : BridgeMqttClient) (subscription : Subscription) :
    BridgeMqttClient :=
  { bridge with
    client := bridge.client.map fun connection => connection.subscribe subscription
    appended := none }

def disconnect (bridge : BridgeMqttClient) : BridgeMqttClient :=
  { bridge with client := none }

end BridgeMqttClient

structure DetectorMqttClient where
  client : Option Connection := none
  deriving DecidableEq, Repr

/-- What `subscribe_ack` asks for. -/
def DetectorMqttClient.ackSubscription (topic : String) : Subscription where
  topicFilter := topic
  qos := 2

/-- What `AckSession` asks for in one SUBSCRIBE. -/
def ackSubscriptions (config : AckSession) : List Subscription :=
  [{ topicFilter := config.ackTopic, qos := 2 }, { topicFilter := config.nackTopic, qos := 2 }]

inductive MqttProgram where
  | bridge (client : BridgeMqttClient)
  | detector (client : DetectorMqttClient)
  | child (config : AckSession) (client : Connection)

/-! ## Their steps -/

/-- The calls of the program's main thread, and what happens to its connection. -/
inductive MqttStep where
  /-- `connect_and_loop`, or `connect` of the child's client; `opened` unless it raises. -/
  | connect (opened : Bool)
  | subscribeEvent (topic : String)
  | subscribeText (topicFilter : String)
  | subscribeAppended
  | subscribeAck (topic : String)
  | disconnect
  | dropped
  | reconnected
  | connack (rc : Int)
  deriving DecidableEq, Repr

/-- The program and the subscriptions it has registered so far. -/
structure Wired where
  program : MqttProgram
  registered : List Subscription := []

namespace Wired

/-- The bridge; its main thread makes no other call before an append is sent. -/
def bridgeStep (bridge : BridgeMqttClient) (registered : List Subscription) :
    MqttStep → BridgeMqttClient × List Subscription
  | .connect opened =>
      (if opened ∧ bridge.appended = none then bridge.connectAndLoop else bridge, registered)
  | .subscribeEvent topic =>
      (if bridge.client.isSome ∧ bridge.appended = none then
        bridge.registerSubscription { topicFilter := topic, qos := 2 } else bridge, registered)
  | .subscribeText topicFilter =>
      (if bridge.client.isSome ∧ bridge.appended = none then
        bridge.registerSubscription { topicFilter := topicFilter, qos := 1 } else bridge,
        registered)
  | .subscribeAppended =>
      match bridge.appended with
      | none => (bridge, registered)
      | some subscription =>
          (bridge.subscribeAppended subscription, registered ++ [subscription])
  | .subscribeAck _ => (bridge, registered)
  | .disconnect => (if bridge.appended = none then bridge.disconnect else bridge, registered)
  | .dropped => ({ bridge with client := bridge.client.map Connection.lost }, registered)
  | .reconnected => ({ bridge with client := bridge.client.map fun _ => .opened }, registered)
  | .connack rc =>
      ({ bridge with
        client := bridge.client.map fun connection => connection.connack rc bridge.onConnect },
        registered)

/-- The detector, which gives its client no `on_connect`. -/
def detectorStep (detector : DetectorMqttClient) (registered : List Subscription) :
    MqttStep → DetectorMqttClient × List Subscription
  | .connect opened =>
      (if opened then { client := some .opened } else detector, registered)
  | .subscribeAck topic =>
      match detector.client with
      | none => (detector, registered)
      | some connection =>
          ({ client := some (connection.subscribe (DetectorMqttClient.ackSubscription topic)) },
            registered ++ [DetectorMqttClient.ackSubscription topic])
  | .disconnect => ({ client := none }, registered)
  | .dropped => ({ client := detector.client.map Connection.lost }, registered)
  | .reconnected => ({ client := detector.client.map fun _ => .opened }, registered)
  | .connack rc =>
      ({ client := detector.client.map fun connection => connection.connack rc fun _ => [] },
        registered)
  | .subscribeEvent _ | .subscribeText _ | .subscribeAppended => (detector, registered)

/-- The child, whose `on_connect` looks at no return code. -/
def childStep (config : AckSession) (connection : Connection) : MqttStep → Connection
  | .connect opened => if opened then .opened else connection
  | .disconnect | .dropped => connection.lost
  | .reconnected => .opened
  | .connack rc => connection.connack rc fun _ => ackSubscriptions config
  | .subscribeEvent _ | .subscribeText _ | .subscribeAppended | .subscribeAck _ => connection

def step (wired : Wired) (input : MqttStep) : Wired :=
  match wired.program with
  | .bridge client =>
      let (client, registered) := bridgeStep client wired.registered input
      { program := .bridge client, registered := registered }
  | .detector client =>
      let (client, registered) := detectorStep client wired.registered input
      { program := .detector client, registered := registered }
  | .child config connection =>
      { wired with program := .child config (childStep config connection input) }

def machine : Machine Wired MqttStep Empty where
  step wired input := (wired.step input, [])

/-- The connection of the program's current client. -/
def connection (wired : Wired) : Option Connection :=
  match wired.program with
  | .bridge bridge => bridge.client
  | .detector detector => detector.client
  | .child _ connection => some connection

/-- A program that has just started; the child names its topics from the start. -/
inductive Started : Wired → Prop
  | bridge : Started { program := .bridge {} }
  | detector : Started { program := .detector {} }
  | child (config : AckSession) :
      Started { program := .child config {}, registered := ackSubscriptions config }

/-- Where the CONNACK has been handled, the session knows every subscription. -/
def Subscribed (wired : Wired) : Prop :=
  ∀ connection ∈ wired.connection, connection.Knows (· = .up) wired.registered

/-- The detector opens no session after it has registered a subscription. -/
def NotReopened (wired : Wired) (input : MqttStep) : Prop :=
  match wired.program, input with
  | .detector _, .connect true => wired.registered = []
  | .detector detector, .reconnected => detector.client = none ∨ wired.registered = []
  | _, _ => True

/-! ## Subscriptions that survive -/

/-- What the bridge keeps: it replays whatever it has registered, and a
registration it is in the middle of as well. -/
structure BridgeKeeps (bridge : BridgeMqttClient) (registered : List Subscription) : Prop where
  known : ∀ connection ∈ bridge.client, connection.Knows (· = .up) registered
  listed : registered ⊆ bridge.subscriptions
  appendedListed : ∀ subscription ∈ bridge.appended, subscription ∈ bridge.subscriptions

/-- A registration under way adds nothing to what the session has to know. -/
theorem BridgeKeeps.registerSubscription {bridge : BridgeMqttClient}
    {registered : List Subscription} (keeps : BridgeKeeps bridge registered)
    (subscription : Subscription) :
    BridgeKeeps (bridge.registerSubscription subscription) registered where
  known := keeps.known
  listed := List.Subset.trans keeps.listed (List.subset_append_left ..)
  appendedListed := by
    intro other isAppended
    cases isAppended
    exact List.mem_append_right _ (List.mem_singleton_self _)

theorem BridgeKeeps.subscribeAppended {bridge : BridgeMqttClient}
    {registered : List Subscription} (keeps : BridgeKeeps bridge registered)
    {subscription : Subscription} (appended : bridge.appended = some subscription) :
    BridgeKeeps (bridge.subscribeAppended subscription) (registered ++ [subscription]) where
  known := by
    intro connection current
    rcases Option.map_eq_some_iff.mp current with ⟨before, was, rfl⟩
    exact (keeps.known before was).subscribe (by simp) subscription
  listed := by
    apply List.append_subset.mpr
    exact ⟨keeps.listed,
      List.cons_subset.mpr
        ⟨keeps.appendedListed subscription appended, List.nil_subset _⟩⟩
  appendedListed := nofun

/-- What happens to the connection leaves the bridge's list alone. -/
theorem BridgeKeeps.withClient {bridge : BridgeMqttClient} {registered : List Subscription}
    (keeps : BridgeKeeps bridge registered) {client : Option Connection}
    (known : ∀ connection ∈ client, connection.Knows (· = .up) registered) :
    BridgeKeeps { bridge with client := client } registered where
  known := known
  listed := keeps.listed
  appendedListed := keeps.appendedListed

theorem BridgeKeeps.step {bridge : BridgeMqttClient} {registered : List Subscription}
    (keeps : BridgeKeeps bridge registered) (input : MqttStep) :
    BridgeKeeps (bridgeStep bridge registered input).1
      (bridgeStep bridge registered input).2 := by
  cases input with
  | connect opened =>
      simp only [bridgeStep]
      split
      · apply keeps.withClient
        intro connection current
        cases current
        exact Connection.knows_opened (by simp)
      · exact keeps
  | subscribeEvent topic =>
      simp only [bridgeStep]
      split
      · exact keeps.registerSubscription _
      · exact keeps
  | subscribeText topicFilter =>
      simp only [bridgeStep]
      split
      · exact keeps.registerSubscription _
      · exact keeps
  | subscribeAppended =>
      simp only [bridgeStep]
      split
      · exact keeps
      next subscription appended => exact keeps.subscribeAppended appended
  | subscribeAck topic => exact keeps
  | disconnect =>
      simp only [bridgeStep]
      split
      · exact keeps.withClient nofun
      · exact keeps
  | dropped =>
      apply keeps.withClient
      intro connection current
      rcases Option.map_eq_some_iff.mp current with ⟨before, -, rfl⟩
      exact Connection.knows_lost (by simp)
  | reconnected =>
      apply keeps.withClient
      intro connection current
      rcases Option.map_eq_some_iff.mp current with ⟨before, -, rfl⟩
      exact Connection.knows_opened (by simp)
  | connack rc =>
      apply keeps.withClient
      intro connection current
      rcases Option.map_eq_some_iff.mp current with ⟨before, was, rfl⟩
      exact (keeps.known before was).connack_replaying keeps.listed

/-- What the detector keeps: a session that is open was sent each subscription
when it was registered. -/
def DetectorKeeps (detector : DetectorMqttClient) (registered : List Subscription) : Prop :=
  ∀ connection ∈ detector.client, connection.Knows (· ≠ .down) registered

theorem knows_opened_nil (when : Link → Prop) : Connection.opened.Knows when [] :=
  fun _ => List.nil_subset _

theorem DetectorKeeps.step {detector : DetectorMqttClient} {registered : List Subscription}
    (keeps : DetectorKeeps detector registered) {input : MqttStep}
    (notReopened : NotReopened { program := .detector detector, registered := registered } input) :
    DetectorKeeps (detectorStep detector registered input).1
      (detectorStep detector registered input).2 := by
  cases input with
  | connect opened =>
      cases opened with
      | false => exact keeps
      | true =>
          have fresh : registered = [] := notReopened
          intro connection current
          cases current
          rw [fresh]
          exact knows_opened_nil _
  | subscribeAck topic =>
      simp only [detectorStep]
      split
      · exact keeps
      next connection current =>
        intro after isAfter
        cases isAfter
        exact (keeps connection current).subscribe (by simp) _
  | disconnect => exact nofun
  | dropped =>
      intro connection current
      rcases Option.map_eq_some_iff.mp current with ⟨before, -, rfl⟩
      exact Connection.knows_lost (by simp)
  | reconnected =>
      intro connection current
      rcases Option.map_eq_some_iff.mp current with ⟨before, was, rfl⟩
      rcases notReopened with absent | fresh
      · rw [absent] at was
        cases was
      · rw [show registered = [] from fresh]
        exact knows_opened_nil _
  | connack rc =>
      intro connection current
      rcases Option.map_eq_some_iff.mp current with ⟨before, was, rfl⟩
      exact (keeps before was).connack_silent rc
  | _ => exact keeps

theorem knows_childStep (config : AckSession) {connection : Connection}
    (knows : connection.Knows (· = .up) (ackSubscriptions config)) (input : MqttStep) :
    (childStep config connection input).Knows (· = .up) (ackSubscriptions config) := by
  cases input with
  | connect opened =>
      simp only [childStep]
      split
      · exact Connection.knows_opened (by simp)
      · exact knows
  | disconnect => exact Connection.knows_lost (by simp)
  | dropped => exact Connection.knows_lost (by simp)
  | reconnected => exact Connection.knows_opened (by simp)
  | connack rc => exact knows.connack_replaying (List.Subset.refl _)
  | _ => exact knows

/-- The invariant of a program's connection. -/
def Keeps (wired : Wired) : Prop :=
  match wired.program with
  | .bridge bridge => BridgeKeeps bridge wired.registered
  | .detector detector => DetectorKeeps detector wired.registered
  | .child config connection =>
      wired.registered = ackSubscriptions config ∧
        connection.Knows (· = .up) (ackSubscriptions config)

theorem keeps_started {wired : Wired} (started : Started wired) : Keeps wired := by
  cases started with
  | bridge => exact ⟨nofun, List.nil_subset _, nofun⟩
  | detector => exact nofun
  | child config => exact ⟨rfl, nofun⟩

theorem keeps_step {wired : Wired} {input : MqttStep} (keeps : Keeps wired)
    (notReopened : NotReopened wired input) : Keeps (wired.step input) := by
  rcases wired with ⟨program, registered⟩
  cases program with
  | bridge bridge => exact BridgeKeeps.step keeps input
  | detector detector => exact DetectorKeeps.step keeps notReopened
  | child config connection => exact ⟨keeps.1, knows_childStep config keeps.2 input⟩

theorem Keeps.subscribed {wired : Wired} (keeps : Keeps wired) : wired.Subscribed := by
  rcases wired with ⟨program, registered⟩
  cases program with
  | bridge bridge => exact keeps.known
  | detector detector =>
      intro connection current up
      exact keeps connection current (by rw [up]; simp)
  | child config connection =>
      intro current isCurrent
      cases isCurrent
      rw [show registered = ackSubscriptions config from keeps.1]
      exact keeps.2

/-- Every session that is up has been sent every registered subscription, in
runs in which the detector opens no session after its first registration. -/
theorem subscribed_of_notReopened {wired : Wired} (started : Started wired)
    {inputs : List MqttStep} (meets : machine.Meets NotReopened wired inputs) :
    (machine.final wired inputs).Subscribed :=
  have kept : Keeps (machine.final wired inputs) :=
    machine.stateInvariant (fun _ _ => keeps_step) (keeps_started started) meets
  kept.subscribed

/-- A detector that loses its connection once. -/
def reopening : List MqttStep :=
  [.connect true, .connack 0, .subscribeAck "presence/event/ack", .dropped, .reconnected,
    .connack 0]

/-- Its ACKs stop arriving with the second session. -/
theorem not_subscribed_reopening :
    ¬∀ wired, Started wired → ∀ inputs, (machine.final wired inputs).Subscribed := by
  intro always
  have subscribed := always _ .detector reopening _ rfl rfl
  have known : ({ topicFilter := "presence/event/ack", qos := 2 } : Subscription) ∈
      ([] : List Subscription) := subscribed List.mem_cons_self
  exact absurd known List.not_mem_nil

/-- A detector that reconnects before it registers anything, and a bridge that loses its
connection in the middle of a registration. -/
theorem subscribed_of_notReopened_runs :
    (machine.final { program := .detector {} }
      [.connect true, .connack 0, .dropped, .reconnected, .connack 0,
        .subscribeAck "presence/event/ack"]).Subscribed ∧
    (machine.final { program := .bridge {} }
      [.connect true, .connack 0, .subscribeEvent "presence/event", .dropped,
        .subscribeAppended, .reconnected, .connack 0]).Subscribed := by
  constructor
  · exact subscribed_of_notReopened .detector ⟨rfl, trivial, trivial, .inr rfl, trivial,
      trivial, trivial⟩
  · exact subscribed_of_notReopened .bridge ⟨trivial, trivial, trivial, trivial, trivial,
      trivial, trivial, trivial⟩

end Wired

end PresenceLogger.EndToEnd
