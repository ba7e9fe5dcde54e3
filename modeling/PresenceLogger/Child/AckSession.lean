import PresenceLogger.Child.DeliveryStore
import PresenceLogger.Library.Threads

/-!
# The child's session

`AckSession` on two threads: the main thread sends records one after the other,
and the network thread runs the MQTT callbacks.  Every statement on the ledger
and every publication is an action of its own.
-/

namespace PresenceLogger.Child

open Library

structure AckSession where
  baseTopic : String
  destination : String
  resendAfter : ℚ
  /-- `str` of a value that is not a string; nothing if the text has surrogates. -/
  render : Json → Option String

/-- The attributes the callbacks set. -/
structure Session where
  subscribed : Bool := false
  nackEnabled : Bool := false
  expectedMid : Option Int := none
  deriving DecidableEq, Repr

structure ChildMemory where
  ledger : Ledger
  session : Session

structure Message where
  topic : String
  retain : Bool
  payload : Decoded

inductive SendOutcome where
  | acked
  | nacked
  | pending
  deriving DecidableEq, Repr

inductive ChildThread where
  | main
  | network
  deriving DecidableEq, Repr

inductive ChildRoutine where
  | send (rec : Record) (now : ℚ)
  /-- `client.subscribe` has returned this mid. -/
  | onConnect (mid : Option Int)
  | onSubscribe (mid : Int) (granted : List Int)
  | onDisconnect
  | onMessage (message : Message)

/-- Where a thread stands; the time of a publication is carried along only to
appear in the trace. -/
inductive ChildPoint where
  | lookup (rec : Record) (now : ℚ)
  | savePending (rec : Record) (now : ℚ)
  | touchPending (rec : Record) (now : ℚ)
  | publish (rec : Record) (now : ℚ)
  | poll (rec : Record)
  | ackLookup (eventId mkDate committedAt : Json)
  | ackUpdate (eventId : String) (committedAt : Json)
  | nackLookup (eventId reason failedAt : Json)
  | nackUpdate (eventId : String) (reason failedAt : Json)

/-- The points of `send`. -/
def ChildPoint.isSending : ChildPoint → Bool
  | .lookup _ _ | .savePending _ _ | .touchPending _ _ | .publish _ _ | .poll _ => true
  | _ => false

/-- What an action reads of its environment: the `rc` of a publication, and
whether the deadline of the wait has passed. -/
structure ChildInput where
  rc : Int := 0
  expired : Bool := false
  deriving DecidableEq, Repr

inductive ChildOutput where
  | published (rec : Record) (now : ℚ)
  | returned (rec : Record) (outcome : SendOutcome)
  /-- `send` has raised. -/
  | sendRaised (error : PyError)
  /-- A callback has raised. -/
  | callbackRaised (error : PyError)
  deriving DecidableEq, Repr

/-- An output of the main thread. -/
def ChildOutput.ofSend : ChildOutput → Bool
  | .callbackRaised _ => false
  | _ => true

/-- The publications of a trace, with their times. -/
def published (trace : List ChildOutput) : List (Record × ℚ) :=
  trace.filterMap fun output =>
    match output with
    | .published rec now => some (rec, now)
    | _ => none

abbrev ChildOutcome := Outcome ChildMemory ChildPoint ChildOutput

/-- An action that leaves the memory alone and goes on. -/
def proceed (memory : ChildMemory) (point : ChildPoint) : ChildOutcome where
  memory := memory
  point := some point
  emits := []

/-- An action that ends its routine. -/
def finish (memory : ChildMemory) (emits : List ChildOutput) : ChildOutcome where
  memory := memory
  point := none
  emits := emits

/-- `SUBACK_FAILURE` -/
def subackFailure : Int := 128

/-- A subscription is granted when the SUBACK has a code for it that is no failure. -/
def isGranted (granted : List Int) (position : Nat) : Bool :=
  match granted[position]? with
  | some code => code ≠ subackFailure
  | none => false

namespace Session

/-- `_on_connect` -/
def onConnect (mid : Option Int) : Session where
  expectedMid := mid

/-- `_on_subscribe` -/
def onSubscribe (session : Session) (mid : Int) (granted : List Int) : Session :=
  if some mid ≠ session.expectedMid then session
  else { session with subscribed := isGranted granted 0, nackEnabled := isGranted granted 1 }

/-- `_on_disconnect` -/
def onDisconnect (session : Session) : Session :=
  { session with subscribed := false, nackEnabled := false }

end Session

namespace AckSession

variable (config : AckSession)

def ackTopic : String := config.baseTopic ++ "/ack"
def nackTopic : String := config.baseTopic ++ "/nack"

theorem nackTopic_ne_ackTopic : config.nackTopic ≠ config.ackTopic := by
  intro same
  have lengths := congrArg String.length same
  rw [nackTopic, ackTopic, String.length_append, String.length_append] at lengths
  have differ : "/nack".length ≠ "/ack".length := by decide
  omega

def find (memory : ChildMemory) (eventId : String) : Option DeliveryRow :=
  memory.ledger.get (config.destination, eventId)

/-- `DeliveryStore.get` of an id from a message; `NULL` matches no row. -/
def findBound (memory : ChildMemory) (eventId : Json) :
    Except PyError (Option (String × DeliveryRow)) := do
  let bound ← eventId.bindText
  return bound.bind fun id => (config.find memory id).map fun row => (id, row)

/-! ## The callbacks -/

/-- `_handle_ack`, up to its first statement. -/
def handleAck : Decoded → Except PyError (Option ChildPoint)
  | .invalid => .ok none
  | .tooDeep => .error .recursionError
  | .value data => do
      let eventId ← data.get "event_id"
      let mkDate ← data.get "mk_date_committed"
      let committedAt ← data.get "committed_at"
      return if eventId.truthy then some (.ackLookup eventId mkDate committedAt) else none

/-- `_handle_nack` with NACKs enabled, up to its first statement. -/
def handleNack : Decoded → Except PyError (Option ChildPoint)
  | .invalid => .ok none
  | .tooDeep => .error .recursionError
  | .value data => do
      let eventId ← data.get "event_id"
      let reason ← data.get "reason"
      let failedAt ← data.get "failed_at_iso"
      return if eventId.truthy then some (.nackLookup eventId reason failedAt) else none

/-- `_on_message`, up to its first statement. -/
def onMessage (memory : ChildMemory) (message : Message) : ChildOutcome :=
  let handled : Except PyError (Option ChildPoint) :=
    if message.retain then .ok none
    else if message.topic = config.ackTopic then handleAck message.payload
    else if message.topic = config.nackTopic ∧ memory.session.nackEnabled then
      handleNack message.payload
    else .ok none
  match handled with
  | .ok (some point) => proceed memory point
  | .ok none => finish memory []
  | .error error => finish memory [.callbackRaised error]

def ackLookup (memory : ChildMemory) (eventId mkDate committedAt : Json) : ChildOutcome :=
  match config.findBound memory eventId with
  | .error error => finish memory [.callbackRaised error]
  | .ok none => finish memory []
  | .ok (some (id, row)) =>
      if row.status ≠ .pending then finish memory []
      else if mkDate.isText row.mkDate = false then finish memory []
      else proceed memory (.ackUpdate id committedAt)

def ackUpdate (memory : ChildMemory) (eventId : String) (committedAt : Json) : ChildOutcome :=
  match committedAt.bindText with
  | .error error => finish memory [.callbackRaised error]
  | .ok committedAt =>
      finish
        { memory with ledger := memory.ledger.markAcked config.destination eventId committedAt }
        []

def nackLookup (memory : ChildMemory) (eventId reason failedAt : Json) : ChildOutcome :=
  match config.findBound memory eventId with
  | .error error => finish memory [.callbackRaised error]
  | .ok none => finish memory []
  | .ok (some (id, row)) =>
      if row.status ≠ .pending then finish memory []
      else proceed memory (.nackUpdate id reason failedAt)

/-- `str(reason or "")` -/
def reasonText (reason : Json) : Option String :=
  match reason with
  | .str text => some text
  | _ => if reason.truthy then config.render reason else some ""

def nackUpdate (memory : ChildMemory) (eventId : String) (reason failedAt : Json) :
    ChildOutcome :=
  match config.reasonText reason, (if failedAt.truthy then failedAt else .null).bindText with
  | none, _ => finish memory [.callbackRaised .unicodeError]
  | some _, .error error => finish memory [.callbackRaised error]
  | some reason, .ok failedAt =>
      finish
        { memory with
          ledger := memory.ledger.markNacked config.destination eventId reason failedAt } []

/-! ## Sending -/

/-- `send` after its lookup has found a row. -/
def sendFound (memory : ChildMemory) (rec : Record) (now : ℚ) (row : DeliveryRow) :
    ChildOutcome :=
  if row.status = .legacyUnverified then finish memory [.returned rec .pending]
  else if row.payload ≠ rec then finish memory [.sendRaised .valueError]
  else if row.status = .acked then finish memory [.returned rec .acked]
  else if row.status = .nacked then finish memory [.returned rec .nacked]
  else if ∃ last ∈ row.lastAttemptAt, now - last < config.resendAfter then
    finish memory [.returned rec .pending]
  else proceed memory (.touchPending rec now)

def lookup (memory : ChildMemory) (rec : Record) (now : ℚ) : ChildOutcome :=
  match config.find memory rec.eventId with
  | none => proceed memory (.savePending rec now)
  | some row => config.sendFound memory rec now row

/-- One turn of the loop in `_publish_and_wait`. -/
def poll (memory : ChildMemory) (rec : Record) (expired : Bool) : ChildOutcome :=
  match (config.find memory rec.eventId).map DeliveryRow.status with
  | some .acked => finish memory [.returned rec .acked]
  | some .nacked => finish memory [.returned rec .nacked]
  | _ =>
      if expired then finish memory [.returned rec .pending] else proceed memory (.poll rec)

def start (memory : ChildMemory) : ChildRoutine → ChildOutcome
  | .send rec now =>
      if memory.session.subscribed then proceed memory (.lookup rec now)
      else finish memory [.returned rec .pending]
  | .onConnect mid => finish { memory with session := Session.onConnect mid } []
  | .onSubscribe mid granted =>
      finish { memory with session := memory.session.onSubscribe mid granted } []
  | .onDisconnect => finish { memory with session := memory.session.onDisconnect } []
  | .onMessage message => config.onMessage memory message

def resume (memory : ChildMemory) (point : ChildPoint) (input : ChildInput) : ChildOutcome :=
  match point with
  | .lookup rec now => config.lookup memory rec now
  | .savePending rec now =>
      proceed { memory with ledger := memory.ledger.savePending config.destination rec now }
        (.publish rec now)
  | .touchPending rec now =>
      proceed
        { memory with ledger := memory.ledger.touchPending config.destination rec.eventId now }
        (.publish rec now)
  | .publish rec now =>
      if input.rc ≠ 0 then finish memory [.published rec now, .returned rec .pending]
      else { memory := memory, point := some (.poll rec), emits := [.published rec now] }
  | .poll rec => config.poll memory rec input.expired
  | .ackLookup eventId mkDate committedAt => config.ackLookup memory eventId mkDate committedAt
  | .ackUpdate eventId committedAt => config.ackUpdate memory eventId committedAt
  | .nackLookup eventId reason failedAt => config.nackLookup memory eventId reason failedAt
  | .nackUpdate eventId reason failedAt => config.nackUpdate memory eventId reason failedAt

/-- The child; a restart keeps the database and begins a new session. -/
def program : Program ChildThread ChildRoutine ChildPoint ChildMemory ChildInput ChildOutput
    Unit where
  thread
    | .send _ _ => .main
    | _ => .network
  start := config.start
  resume := config.resume
  ends _ _ := true
  restart memory _ := { memory with session := {} }

/-! ## What an action reads only -/

/-- A handled ACK goes on with the values of its keys. -/
theorem handleAck_eq_some {payload : Decoded} {point : ChildPoint}
    (handled : handleAck payload = .ok (some point)) :
    ∃ data eventId mkDate committedAt, payload = .value data ∧
      data.get "event_id" = .ok eventId ∧ data.get "mk_date_committed" = .ok mkDate ∧
      point = .ackLookup eventId mkDate committedAt := by
  cases payload with
  | invalid => cases handled
  | tooDeep => cases handled
  | value data =>
      cases data with
      | obj fields =>
          have kept : (if ((fields.reverse.lookup "event_id").getD .null).truthy then
              some (ChildPoint.ackLookup ((fields.reverse.lookup "event_id").getD .null)
                ((fields.reverse.lookup "mk_date_committed").getD .null)
                ((fields.reverse.lookup "committed_at").getD .null)) else none) = some point :=
            Except.ok.inj handled
          split at kept
          · exact ⟨_, _, _, _, rfl, rfl, rfl, (Option.some.inj kept).symm⟩
          · cases kept
      | _ => cases handled

theorem handleNack_eq_some {payload : Decoded} {point : ChildPoint}
    (handled : handleNack payload = .ok (some point)) :
    ∃ eventId reason failedAt, point = .nackLookup eventId reason failedAt := by
  cases payload with
  | invalid => cases handled
  | tooDeep => cases handled
  | value data =>
      cases data with
      | obj fields =>
          have kept : (if ((fields.reverse.lookup "event_id").getD .null).truthy then
              some (ChildPoint.nackLookup ((fields.reverse.lookup "event_id").getD .null)
                ((fields.reverse.lookup "reason").getD .null)
                ((fields.reverse.lookup "failed_at_iso").getD .null)) else none) = some point :=
            Except.ok.inj handled
          split at kept
          · exact ⟨_, _, _, (Option.some.inj kept).symm⟩
          · cases kept
      | _ => cases handled

/-- A callback that ends here and has changed nothing. -/
def Ends (memory : ChildMemory) (outcome : ChildOutcome) : Prop :=
  ∃ emits, outcome = finish memory emits ∧ ∀ output ∈ emits, output.ofSend = false

theorem ends_quiet (memory : ChildMemory) : Ends memory (finish memory []) :=
  ⟨[], rfl, nofun⟩

theorem ends_raised (memory : ChildMemory) (error : PyError) :
    Ends memory (finish memory [.callbackRaised error]) := by
  refine ⟨_, rfl, ?_⟩
  intro output emitted
  rw [List.mem_singleton.mp emitted]
  rfl

theorem onMessage_cases (memory : ChildMemory) (message : Message) :
    Ends memory (config.onMessage memory message) ∨
    (∃ data eventId mkDate committedAt, message.topic = config.ackTopic ∧
      message.payload = .value data ∧ data.get "event_id" = .ok eventId ∧
      data.get "mk_date_committed" = .ok mkDate ∧
      config.onMessage memory message =
        proceed memory (.ackLookup eventId mkDate committedAt)) ∨
    (∃ eventId reason failedAt, message.topic = config.nackTopic ∧
      memory.session.nackEnabled = true ∧
      config.onMessage memory message =
        proceed memory (.nackLookup eventId reason failedAt)) := by
  simp only [onMessage]
  split
  next point handled =>
    split at handled
    · cases handled
    · split at handled
      next topic =>
        rcases handleAck_eq_some handled with
          ⟨data, eventId, mkDate, committedAt, payload, gotId, gotDate, rfl⟩
        exact .inr (.inl ⟨data, eventId, mkDate, committedAt, topic, payload, gotId, gotDate, rfl⟩)
      next =>
        split at handled
        next enabled =>
          rcases handleNack_eq_some handled with ⟨eventId, reason, failedAt, rfl⟩
          exact .inr (.inr ⟨eventId, reason, failedAt, enabled.1, enabled.2, rfl⟩)
        next => cases handled
  · exact .inl (ends_quiet memory)
  · exact .inl (ends_raised memory _)

/-- A lookup of a bound id finds the row under that id. -/
theorem findBound_eq_some {memory : ChildMemory} {eventId : Json} {id : String}
    {row : DeliveryRow} (found : config.findBound memory eventId = .ok (some (id, row))) :
    eventId.bindText = .ok (some id) ∧ config.find memory id = some row := by
  rw [findBound] at found
  cases bound : eventId.bindText with
  | error error =>
      rw [bound] at found
      cases found
  | ok text =>
      rw [bound] at found
      rcases Option.bind_eq_some_iff.mp (Except.ok.inj found) with ⟨other, rfl, made⟩
      rcases Option.map_eq_some_iff.mp made with ⟨old, wasFound, same⟩
      cases same
      exact ⟨rfl, wasFound⟩

theorem ackLookup_cases (memory : ChildMemory) (eventId mkDate committedAt : Json) :
    Ends memory (config.ackLookup memory eventId mkDate committedAt) ∨
    ∃ id row, eventId.bindText = .ok (some id) ∧ config.find memory id = some row ∧
      row.status = .pending ∧ mkDate = .str row.mkDate ∧
      config.ackLookup memory eventId mkDate committedAt =
        proceed memory (.ackUpdate id committedAt) := by
  rw [ackLookup]
  split
  · exact .inl (ends_raised memory _)
  · exact .inl (ends_quiet memory)
  next id row found =>
    split
    · exact .inl (ends_quiet memory)
    next pending =>
      split
      · exact .inl (ends_quiet memory)
      next matched =>
        rcases config.findBound_eq_some found with ⟨bound, foundRow⟩
        rw [Bool.not_eq_false, Json.isText_eq_true_iff] at matched
        exact .inr ⟨id, row, bound, foundRow, not_not.mp pending, matched, rfl⟩

theorem ackUpdate_cases (memory : ChildMemory) (eventId : String) (committedAt : Json) :
    Ends memory (config.ackUpdate memory eventId committedAt) ∨
    ∃ bound, config.ackUpdate memory eventId committedAt = finish
      { memory with ledger := memory.ledger.markAcked config.destination eventId bound } [] := by
  rw [ackUpdate]
  split
  · exact .inl (ends_raised memory _)
  next bound _ => exact .inr ⟨bound, rfl⟩

theorem nackLookup_cases (memory : ChildMemory) (eventId reason failedAt : Json) :
    Ends memory (config.nackLookup memory eventId reason failedAt) ∨
    ∃ id, config.nackLookup memory eventId reason failedAt =
      proceed memory (.nackUpdate id reason failedAt) := by
  rw [nackLookup]
  split
  · exact .inl (ends_raised memory _)
  · exact .inl (ends_quiet memory)
  next id row found =>
    split
    · exact .inl (ends_quiet memory)
    · exact .inr ⟨id, rfl⟩

theorem nackUpdate_cases (memory : ChildMemory) (eventId : String) (reason failedAt : Json) :
    Ends memory (config.nackUpdate memory eventId reason failedAt) ∨
    ∃ text bound, config.nackUpdate memory eventId reason failedAt = finish
      { memory with
        ledger := memory.ledger.markNacked config.destination eventId text bound } [] := by
  rw [nackUpdate]
  split
  · exact .inl (ends_raised memory _)
  · exact .inl (ends_raised memory _)
  next text bound _ _ => exact .inr ⟨text, bound, rfl⟩

/-- A send that finds its row either ends or attempts the delivery again, when its
time has come. -/
theorem sendFound_cases (memory : ChildMemory) (rec : Record) (now : ℚ) (row : DeliveryRow) :
    (∃ output, config.sendFound memory rec now row = finish memory [output] ∧
      output.ofSend = true ∧ ∀ other time, output ≠ .published other time) ∨
    (config.sendFound memory rec now row = proceed memory (.touchPending rec now) ∧
      row.payload = rec ∧ row.status = .pending ∧
      ∀ last ∈ row.lastAttemptAt, config.resendAfter ≤ now - last) := by
  rw [sendFound]
  split
  · exact .inl ⟨_, rfl, rfl, nofun⟩
  next verified =>
    split
    · exact .inl ⟨_, rfl, rfl, nofun⟩
    next same =>
      split
      · exact .inl ⟨_, rfl, rfl, nofun⟩
      next notAcked =>
        split
        · exact .inl ⟨_, rfl, rfl, nofun⟩
        next notNacked =>
          split
          · exact .inl ⟨_, rfl, rfl, nofun⟩
          next due =>
            right
            refine ⟨rfl, not_not.mp same, ?_, ?_⟩
            · cases status : row.status with
              | pending => rfl
              | acked => exact absurd status notAcked
              | nacked => exact absurd status notNacked
              | legacyUnverified => exact absurd status verified
            · intro last member
              by_contra early
              exact due ⟨last, member, not_le.mp early⟩

theorem lookup_cases (memory : ChildMemory) (rec : Record) (now : ℚ) :
    (∃ output, config.lookup memory rec now = finish memory [output] ∧
      output.ofSend = true ∧ ∀ other time, output ≠ .published other time) ∨
    (config.find memory rec.eventId = none ∧
      config.lookup memory rec now = proceed memory (.savePending rec now)) ∨
    ∃ row, config.find memory rec.eventId = some row ∧ row.payload = rec ∧
      row.status = .pending ∧ (∀ last ∈ row.lastAttemptAt, config.resendAfter ≤ now - last) ∧
      config.lookup memory rec now = proceed memory (.touchPending rec now) := by
  rw [lookup]
  cases found : config.find memory rec.eventId with
  | none => exact .inr (.inl ⟨rfl, rfl⟩)
  | some row =>
      rcases config.sendFound_cases memory rec now row with ends | ⟨goesOn, same, pending, due⟩
      · exact .inl ends
      · exact .inr (.inr ⟨row, rfl, same, pending, due, goesOn⟩)

theorem poll_cases (memory : ChildMemory) (rec : Record) (expired : Bool) :
    (∃ outcome, config.poll memory rec expired = finish memory [.returned rec outcome]) ∨
      (expired = false ∧ config.poll memory rec expired = proceed memory (.poll rec)) := by
  rw [poll]
  split
  · exact .inl ⟨_, rfl⟩
  · exact .inl ⟨_, rfl⟩
  · split
    · exact .inl ⟨_, rfl⟩
    next running => exact .inr ⟨by simpa using running, rfl⟩

/-- A routine's first action leaves the ledger alone. -/
@[simp] theorem ledger_start (memory : ChildMemory) (routine : ChildRoutine) :
    (config.start memory routine).memory.ledger = memory.ledger := by
  cases routine with
  | send rec now =>
      rw [start]
      split <;> rfl
  | onMessage message =>
      rw [start]
      rcases config.onMessage_cases memory message with
        ⟨_, ends, -⟩ | ⟨_, _, _, _, -, -, -, -, goesOn⟩ | ⟨_, _, _, -, -, goesOn⟩
      · rw [ends]
        rfl
      · rw [goesOn]
        rfl
      · rw [goesOn]
        rfl
  | _ => rfl

/-- What an action from a point does to the ledger. -/
inductive LedgerChange (ledger : Ledger) : ChildPoint → Ledger → Prop where
  | none (point : ChildPoint) : LedgerChange ledger point ledger
  | save (rec : Record) (now : ℚ) :
      LedgerChange ledger (.savePending rec now)
        (ledger.savePending config.destination rec now)
  | touch (rec : Record) (now : ℚ) :
      LedgerChange ledger (.touchPending rec now)
        (ledger.touchPending config.destination rec.eventId now)
  | ack (eventId : String) (committedAt : Json) (bound : Option String) :
      LedgerChange ledger (.ackUpdate eventId committedAt)
        (ledger.markAcked config.destination eventId bound)
  | nack (eventId : String) (reason failedAt : Json) (text : String) (bound : Option String) :
      LedgerChange ledger (.nackUpdate eventId reason failedAt)
        (ledger.markNacked config.destination eventId text bound)

/-- How an action from a point comes out, whatever it reads of its environment. -/
inductive Resumed (memory : ChildMemory) : ChildPoint → ChildOutcome → Prop where
  | ends (point : ChildPoint) (emits : List ChildOutput)
      (unpublished : ∀ rec now, .published rec now ∉ emits)
      (whose : ∀ output ∈ emits, output.ofSend = point.isSending) :
      Resumed memory point (finish memory emits)
  | absent (rec : Record) (now : ℚ) (absent : config.find memory rec.eventId = none) :
      Resumed memory (.lookup rec now) (proceed memory (.savePending rec now))
  | due (rec : Record) (now : ℚ) (row : DeliveryRow)
      (found : config.find memory rec.eventId = some row) (pending : row.status = .pending) :
      Resumed memory (.lookup rec now) (proceed memory (.touchPending rec now))
  | save (rec : Record) (now : ℚ) :
      Resumed memory (.savePending rec now)
        (proceed { memory with ledger := memory.ledger.savePending config.destination rec now }
          (.publish rec now))
  | touch (rec : Record) (now : ℚ) :
      Resumed memory (.touchPending rec now)
        (proceed
          { memory with
            ledger := memory.ledger.touchPending config.destination rec.eventId now }
          (.publish rec now))
  | refused (rec : Record) (now : ℚ) :
      Resumed memory (.publish rec now) (finish memory [.published rec now, .returned rec .pending])
  | publish (rec : Record) (now : ℚ) :
      Resumed memory (.publish rec now)
        { memory := memory, point := some (.poll rec), emits := [.published rec now] }
  | wait (rec : Record) : Resumed memory (.poll rec) (proceed memory (.poll rec))
  | ackFound (eventId mkDate committedAt : Json) (id : String) (row : DeliveryRow)
      (bound : eventId.bindText = .ok (some id)) (found : config.find memory id = some row)
      (pending : row.status = .pending) (matched : mkDate = .str row.mkDate) :
      Resumed memory (.ackLookup eventId mkDate committedAt)
        (proceed memory (.ackUpdate id committedAt))
  | ack (eventId : String) (committedAt : Json) (bound : Option String) :
      Resumed memory (.ackUpdate eventId committedAt)
        (finish
          { memory with ledger := memory.ledger.markAcked config.destination eventId bound } [])
  | nackFound (eventId reason failedAt : Json) (id : String) :
      Resumed memory (.nackLookup eventId reason failedAt)
        (proceed memory (.nackUpdate id reason failedAt))
  | nack (eventId : String) (reason failedAt : Json) (text : String) (bound : Option String) :
      Resumed memory (.nackUpdate eventId reason failedAt)
        (finish
          { memory with
            ledger := memory.ledger.markNacked config.destination eventId text bound } [])

variable {config}

theorem Resumed.of_ends {memory : ChildMemory} {point : ChildPoint} {outcome : ChildOutcome}
    (callback : point.isSending = false) (ends : Ends memory outcome) :
    config.Resumed memory point outcome := by
  rcases ends with ⟨emits, rfl, quiet⟩
  apply Resumed.ends
  · intro rec now member
    cases quiet _ member
  · intro output member
    rw [quiet output member, callback]

theorem Resumed.of_returned {memory : ChildMemory} {point : ChildPoint} {output : ChildOutput}
    (sending : point.isSending = true) (ofSend : output.ofSend = true)
    (unpublished : ∀ rec now, output ≠ .published rec now) :
    config.Resumed memory point (finish memory [output]) := by
  apply Resumed.ends
  · intro rec now member
    exact unpublished rec now (List.mem_singleton.mp member).symm
  · intro other member
    rw [List.mem_singleton.mp member, ofSend, sending]

variable (config)

theorem resumed (memory : ChildMemory) (point : ChildPoint) (input : ChildInput) :
    config.Resumed memory point (config.resume memory point input) := by
  cases point with
  | lookup rec now =>
      rw [resume]
      rcases config.lookup_cases memory rec now with
        ⟨output, same, ofSend, unpublished⟩ | ⟨absent, same⟩ | ⟨row, found, -, pending, -, same⟩
      · rw [same]
        exact .of_returned rfl ofSend unpublished
      · rw [same]
        exact .absent rec now absent
      · rw [same]
        exact .due rec now row found pending
  | savePending rec now => exact .save rec now
  | touchPending rec now => exact .touch rec now
  | publish rec now =>
      simp only [resume]
      split
      · exact .refused rec now
      · exact .publish rec now
  | poll rec =>
      rw [resume]
      rcases config.poll_cases memory rec input.expired with ⟨outcome, same⟩ | ⟨-, same⟩
      · rw [same]
        exact .of_returned rfl rfl nofun
      · rw [same]
        exact .wait rec
  | ackLookup eventId mkDate committedAt =>
      rw [resume]
      rcases config.ackLookup_cases memory eventId mkDate committedAt with
        ends | ⟨id, row, bound, found, pending, matched, same⟩
      · exact .of_ends rfl ends
      · rw [same]
        exact .ackFound eventId mkDate committedAt id row bound found pending matched
  | ackUpdate eventId committedAt =>
      rw [resume]
      rcases config.ackUpdate_cases memory eventId committedAt with ends | ⟨bound, same⟩
      · exact .of_ends rfl ends
      · rw [same]
        exact .ack eventId committedAt bound
  | nackLookup eventId reason failedAt =>
      rw [resume]
      rcases config.nackLookup_cases memory eventId reason failedAt with ends | ⟨id, same⟩
      · exact .of_ends rfl ends
      · rw [same]
        exact .nackFound eventId reason failedAt id
  | nackUpdate eventId reason failedAt =>
      rw [resume]
      rcases config.nackUpdate_cases memory eventId reason failedAt with
        ends | ⟨text, bound, same⟩
      · exact .of_ends rfl ends
      · rw [same]
        exact .nack eventId reason failedAt text bound

theorem ledgerChange_resume (memory : ChildMemory) (point : ChildPoint) (input : ChildInput) :
    config.LedgerChange memory.ledger point (config.resume memory point input).memory.ledger := by
  have resumed := config.resumed memory point input
  generalize config.resume memory point input = outcome at resumed
  cases resumed with
  | save rec now => exact .save rec now
  | touch rec now => exact .touch rec now
  | ack eventId committedAt bound => exact .ack eventId committedAt bound
  | nack eventId reason failedAt text bound => exact .nack eventId reason failedAt text bound
  | _ => exact .none _

end AckSession

abbrev ChildState := ThreadState ChildThread ChildPoint ChildMemory

abbrev ChildStep := ThreadStep ChildThread ChildRoutine ChildInput Unit

/-! ## A child of the site -/

namespace Site

def config : AckSession where
  baseTopic := "presence/record"
  destination := "10.42.0.1:1883/presence/record"
  resendAfter := 600
  render _ := none

def record : Record where
  eventId := "r1"
  mkDate := "20260925120000"
  staNo1 := "100"
  staNo2 := "200"
  staNo3 := "300"
  t1Status := 3
  deviceId := "child1"

def empty : ChildMemory where
  ledger := Table.empty
  session := {}

end Site

end PresenceLogger.Child
