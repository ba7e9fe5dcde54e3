import PresenceLogger.Detector.Main
import PresenceLogger.EndToEnd.RecordProtocol

/-!
# Receipts

What an ACK or a NACK leaves in the child's ledger and in the detector's buffer,
for receipts of the bridge and for any other message on their topics.
-/

namespace PresenceLogger.EndToEnd

open Library Bridge Child

/-! ## A callback of the child in one go -/

section Heard

variable (config : AckSession) (memory : ChildMemory)

/-- `_on_message` without an action of the main thread in between. -/
def heard (message : Message) : ChildOutcome :=
  config.program.alone (config.start memory (.onMessage message)) [{}, {}]

/-- `_handle_ack` from its lookup on. -/
theorem alone_ackLookup (eventId mkDate committedAt : Json) :
    config.program.alone (proceed memory (.ackLookup eventId mkDate committedAt)) [{}, {}] =
      match config.findBound memory eventId with
      | .error error => finish memory [.callbackRaised error]
      | .ok none => finish memory []
      | .ok (some (id, row)) =>
          if row.status = .pending ∧ mkDate.isText row.mkDate then
            config.ackUpdate memory id committedAt
          else finish memory [] := by
  have looked : config.program.alone (proceed memory (.ackLookup eventId mkDate committedAt))
      [{}, {}] = config.program.alone (config.ackLookup memory eventId mkDate committedAt) [{}] :=
    rfl
  rw [looked, AckSession.ackLookup]
  rcases config.findBound memory eventId with error | _ | ⟨id, row⟩
  · rfl
  · rfl
  · by_cases pending : row.status = .pending
    · by_cases same : mkDate.isText row.mkDate = true
      · simp only [pending, same, ne_eq, not_true_eq_false, if_false, Bool.true_eq_false,
          and_self, if_true]
        rfl
      · simp only [pending, same, ne_eq, not_true_eq_false, if_false, if_true]
        rfl
    · simp only [pending, ne_eq, not_false_eq_true, if_true, false_and, if_false]
      rfl

/-- `_handle_nack` from its lookup on. -/
theorem alone_nackLookup (eventId reason failedAt : Json) :
    config.program.alone (proceed memory (.nackLookup eventId reason failedAt)) [{}, {}] =
      match config.findBound memory eventId with
      | .error error => finish memory [.callbackRaised error]
      | .ok none => finish memory []
      | .ok (some (id, row)) =>
          if row.status = .pending then config.nackUpdate memory id reason failedAt
          else finish memory [] := by
  have looked : config.program.alone (proceed memory (.nackLookup eventId reason failedAt))
      [{}, {}] = config.program.alone (config.nackLookup memory eventId reason failedAt) [{}] :=
    rfl
  rw [looked, AckSession.nackLookup]
  rcases config.findBound memory eventId with error | _ | ⟨id, row⟩
  · rfl
  · rfl
  · by_cases pending : row.status = .pending
    · simp only [pending, ne_eq, not_true_eq_false, if_false, if_true]
      rfl
    · simp only [pending, ne_eq, not_false_eq_true, if_true, if_false]
      rfl

variable {message : Message}

/-- What `_on_message` makes of its handler. -/
def begun (memory : ChildMemory) : Except PyError (Option ChildPoint) → ChildOutcome
  | .ok (some point) => proceed memory point
  | .ok none => finish memory []
  | .error error => finish memory [.callbackRaised error]

theorem start_ack (live : message.retain = false) (topic : message.topic = config.ackTopic) :
    config.start memory (.onMessage message) =
      begun memory (AckSession.handleAck message.payload) := by
  simp only [AckSession.start, AckSession.onMessage, live, topic, Bool.false_eq_true, if_false,
    if_true]
  rfl

theorem start_nack (live : message.retain = false) (topic : message.topic = config.nackTopic)
    (enabled : memory.session.nackEnabled = true) :
    config.start memory (.onMessage message) =
      begun memory (AckSession.handleNack message.payload) := by
  simp only [AckSession.start, AckSession.onMessage, live, topic, config.nackTopic_ne_ackTopic,
    enabled, Bool.false_eq_true, if_false, if_true, and_self]
  rfl

/-- An ACK with an id goes to its lookup. -/
theorem heard_ack {fields : List (String × Json)} (live : message.retain = false)
    (topic : message.topic = config.ackTopic) (payload : message.payload = .value (.obj fields))
    (named : (Json.field fields "event_id").truthy = true) :
    heard config memory message = config.program.alone
      (proceed memory (.ackLookup (Json.field fields "event_id")
        (Json.field fields "mk_date_committed") (Json.field fields "committed_at"))) [{}, {}] := by
  have handled : AckSession.handleAck message.payload =
      .ok (some (.ackLookup (Json.field fields "event_id")
        (Json.field fields "mk_date_committed") (Json.field fields "committed_at"))) := by
    simp only [payload, AckSession.handleAck, Json.get_obj, bind, Except.bind, pure, Except.pure,
      named, if_true]
  rw [heard, start_ack config memory live topic, handled, begun]

theorem heard_nack {fields : List (String × Json)} (live : message.retain = false)
    (topic : message.topic = config.nackTopic) (enabled : memory.session.nackEnabled = true)
    (payload : message.payload = .value (.obj fields))
    (named : (Json.field fields "event_id").truthy = true) :
    heard config memory message = config.program.alone
      (proceed memory (.nackLookup (Json.field fields "event_id") (Json.field fields "reason")
        (Json.field fields "failed_at_iso"))) [{}, {}] := by
  have handled : AckSession.handleNack message.payload =
      .ok (some (.nackLookup (Json.field fields "event_id") (Json.field fields "reason")
        (Json.field fields "failed_at_iso"))) := by
    simp only [payload, AckSession.handleNack, Json.get_obj, bind, Except.bind, pure, Except.pure,
      named, if_true]
  rw [heard, start_nack config memory live topic enabled, handled, begun]

end Heard

/-! ## Receipts of the bridge -/

/-- What the bridge publishes for a record. -/
inductive BridgeReceipt where
  | ofAck (ack : Ack)
  | ofNack (nack : Nack)

namespace BridgeReceipt

def message : BridgeReceipt → Message
  | .ofAck ack => ackMessage ack
  | .ofNack nack => nackMessage nack

def eventId : BridgeReceipt → String
  | .ofAck ack => ack.eventId
  | .ofNack nack => nack.eventId

/-- The child acts on the receipt, for a row that is pending. -/
structure Accepted (config : AckSession) (memory : ChildMemory) (receipt : BridgeReceipt)
    (row : DeliveryRow) : Prop where
  named : receipt.eventId ≠ ""
  found : config.find memory receipt.eventId = some row
  pending : row.status = .pending
  matched :
    match receipt with
    | .ofAck ack => ack.topic = config.ackTopic ∧ ack.mkDateCommitted = some row.mkDate
    | .ofNack nack => nack.topic = config.nackTopic ∧ memory.session.nackEnabled = true

/-- The row says what the bridge has said. -/
def Recorded (receipt : BridgeReceipt) (row : DeliveryRow) : Prop :=
  match receipt with
  | .ofAck ack => row.status = .acked ∧ row.ackedAt = ack.committedAtIso
  | .ofNack nack =>
      row.status = .nacked ∧ row.nackReason = some nack.reason ∧
        row.nackedAt = if nack.failedAtIso = "" then none else some nack.failedAtIso

/-- The receipt is no ACK with a time of commit. -/
def Timeless : BridgeReceipt → Prop
  | .ofAck ack => ack.committedAtIso = none
  | .ofNack _ => True

variable {config : AckSession} {memory : ChildMemory} {row : DeliveryRow}

theorem findBound_str {text : String} (found : config.find memory text = some row) :
    config.findBound memory (.str text) = .ok (some (text, row)) := by
  simp only [AckSession.findBound, Json.bindText, found, bind, Except.bind, pure, Except.pure,
    Option.bind_some, Option.map_some]

theorem truthy_str {text : String} (nonempty : text ≠ "") : (Json.str text).truthy = true := by
  simpa only [Json.truthy, decide_eq_true_eq] using nonempty

/-- The object in an ACK. -/
def ackFields (ack : Ack) : List (String × Json) :=
  [("event_id", .str ack.eventId), ("mk_date_committed", jsonOf ack.mkDateCommitted),
    ("committed_at_iso", jsonOf ack.committedAtIso), ("schema_version", .int 1)]

def nackFields (nack : Nack) : List (String × Json) :=
  [("event_id", .str nack.eventId), ("reason", .str nack.reason),
    ("failed_at_iso", .str nack.failedAtIso), ("schema_version", .int 1)]

theorem payload_ackMessage (ack : Ack) :
    (ackMessage ack).payload = .value (.obj (ackFields ack)) := rfl

theorem payload_nackMessage (nack : Nack) :
    (nackMessage nack).payload = .value (.obj (nackFields nack)) := rfl

@[simp] theorem eventId_ackFields (ack : Ack) :
    Json.field (ackFields ack) "event_id" = .str ack.eventId := rfl

@[simp] theorem mkDate_ackFields (ack : Ack) :
    Json.field (ackFields ack) "mk_date_committed" = jsonOf ack.mkDateCommitted := rfl

/-- The key under which the child looks for the time is not in the ACK. -/
@[simp] theorem committedAt_ackFields (ack : Ack) :
    Json.field (ackFields ack) "committed_at" = .null := rfl

@[simp] theorem eventId_nackFields (nack : Nack) :
    Json.field (nackFields nack) "event_id" = .str nack.eventId := rfl

@[simp] theorem reason_nackFields (nack : Nack) :
    Json.field (nackFields nack) "reason" = .str nack.reason := rfl

@[simp] theorem failedAt_nackFields (nack : Nack) :
    Json.field (nackFields nack) "failed_at_iso" = .str nack.failedAtIso := rfl

/-- An accepted ACK sets the status and leaves no time. -/
theorem heard_ackMessage {ack : Ack} (accepted : Accepted config memory (.ofAck ack) row) :
    heard config memory (ackMessage ack) = finish
      { memory with
        ledger := memory.ledger.markAcked config.destination ack.eventId none } [] := by
  rcases accepted with ⟨named, found, pending, topic, date⟩
  have isFound : config.find memory ack.eventId = some row := found
  have isNamed : (Json.field (ackFields ack) "event_id").truthy = true := truthy_str named
  rw [heard_ack config memory rfl topic (payload_ackMessage ack) isNamed, alone_ackLookup,
    eventId_ackFields, mkDate_ackFields, committedAt_ackFields, date, findBound_str isFound]
  simp only [pending, true_and, jsonOf, Option.elim_some, Json.isText_eq_true_iff, if_true]
  rfl

theorem heard_nackMessage {nack : Nack} (accepted : Accepted config memory (.ofNack nack) row) :
    heard config memory (nackMessage nack) = finish
      { memory with
        ledger := memory.ledger.markNacked config.destination nack.eventId nack.reason
          (if nack.failedAtIso = "" then none else some nack.failedAtIso) } [] := by
  rcases accepted with ⟨named, found, pending, topic, enabled⟩
  have isFound : config.find memory nack.eventId = some row := found
  have isNamed : (Json.field (nackFields nack) "event_id").truthy = true := truthy_str named
  rw [heard_nack config memory rfl topic enabled (payload_nackMessage nack) isNamed,
    alone_nackLookup, eventId_nackFields, reason_nackFields, failedAt_nackFields,
    findBound_str isFound]
  simp only [pending, if_true, AckSession.nackUpdate, AckSession.reasonText]
  by_cases timeless : nack.failedAtIso = ""
  · simp only [timeless, Json.truthy, Json.bindText, ne_eq, not_true_eq_false, decide_false,
      Bool.false_eq_true, if_false, if_true]
  · simp only [timeless, Json.truthy, Json.bindText, ne_eq, not_false_eq_true, decide_true,
      if_true, if_false]

/-- The row of an accepted receipt says what the bridge has said, except that it
never holds the time of the commit. -/
theorem recorded_iff_timeless {config : AckSession} {memory : ChildMemory} {row : DeliveryRow}
    {receipt : BridgeReceipt} (accepted : Accepted config memory receipt row) :
    (∃ after, config.find (heard config memory receipt.message).memory receipt.eventId =
      some after ∧ receipt.Recorded after) ↔ receipt.Timeless := by
  have found := accepted.found
  cases receipt with
  | ofAck ack =>
      have after : config.find (heard config memory (ackMessage ack)).memory ack.eventId =
          some (row.asAcked none) := by
        rw [heard_ackMessage accepted]
        simp only [AckSession.find, finish, Ledger.get_markAcked, if_true]
        rw [show memory.ledger.get (config.destination, ack.eventId) = some row from found]
        rfl
      simp only [message, eventId, after, Option.some.injEq, exists_eq_left', Recorded,
        DeliveryRow.asAcked, true_and, Timeless]
      exact eq_comm
  | ofNack nack =>
      have after : config.find (heard config memory (nackMessage nack)).memory nack.eventId =
          some (row.asNacked nack.reason
            (if nack.failedAtIso = "" then none else some nack.failedAtIso)) := by
        rw [heard_nackMessage accepted]
        simp only [AckSession.find, finish, Ledger.get_markNacked, if_true]
        rw [show memory.ledger.get (config.destination, nack.eventId) = some row from found]
        simp only [Option.map_some, accepted.pending, if_true]
      simp only [message, eventId, after, Option.some.injEq, exists_eq_left', Recorded,
        DeliveryRow.asNacked, Timeless, and_self]

/-- One record sent and its ACK awaited. -/
def awaiting : ChildMemory where
  ledger := Ledger.savePending Table.empty Child.Site.config.destination Child.Site.record 0
  session := { subscribed := true, nackEnabled := true, expectedMid := some 1 }

def awaitingRow : DeliveryRow :=
  Child.Site.record.toRow Child.Site.config.destination 0

def awaitedAck : Ack where
  topic := "presence/record/ack"
  eventId := "r1"
  mkDateCommitted := some "20260925120000"
  committedAtIso := some "2026-09-25T03:00:05.000+00:00"

def awaitedNack : Nack where
  topic := "presence/record/nack"
  eventId := "r1"
  reason := "ORA-1: unique constraint"
  failedAtIso := ""

theorem accepted_awaitedAck :
    Accepted Child.Site.config awaiting (.ofAck awaitedAck) awaitingRow where
  named := by decide
  found := by decide +kernel
  pending := rfl
  matched := by decide +kernel

theorem recorded_iff_timeless_awaitedNack :
    (∃ after, Child.Site.config.find
        (heard Child.Site.config awaiting (nackMessage awaitedNack)).memory "r1" = some after ∧
      (BridgeReceipt.ofNack awaitedNack).Recorded after) ↔
    (BridgeReceipt.ofNack awaitedNack).Timeless :=
  have accepted : Accepted Child.Site.config awaiting (.ofNack awaitedNack) awaitingRow :=
    ⟨by decide, by decide +kernel, rfl, by decide +kernel⟩
  recorded_iff_timeless accepted

/-- The time of the commit is lost on the way. -/
theorem not_recorded_awaitedAck :
    ¬∀ config memory receipt row, Accepted config memory receipt row →
      ∃ after, config.find (heard config memory receipt.message).memory receipt.eventId =
        some after ∧ receipt.Recorded after := by
  intro always
  rcases always _ _ _ _ accepted_awaitedAck with ⟨after, found, -, time⟩
  have stored : Child.Site.config.find
      (heard Child.Site.config awaiting (BridgeReceipt.ofAck awaitedAck).message).memory
      (BridgeReceipt.ofAck awaitedAck).eventId = some (awaitingRow.asAcked none) := by
    decide +kernel
  rw [stored] at found
  cases found
  cases time

end BridgeReceipt

/-! ## Any message -/

/-- A receipt for this row, on its topic, and what becomes of the row. -/
inductive ReceiptFor (config : AckSession) (message : Message) :
    DeliveryRow → DeliveryRow → Prop where
  | ack {data : Json} {row : DeliveryRow} (committedAt : Option String)
      (topic : message.topic = config.ackTopic) (payload : message.payload = .value data)
      (named : data.get "event_id" = .ok (.str row.eventId))
      (matched : data.get "mk_date_committed" = .ok (.str row.mkDate)) :
      ReceiptFor config message row (row.asAcked committedAt)
  | nack {data : Json} {row : DeliveryRow} (reason : String) (failedAt : Option String)
      (topic : message.topic = config.nackTopic) (payload : message.payload = .value data)
      (named : data.get "event_id" = .ok (.str row.eventId)) :
      ReceiptFor config message row (row.asNacked reason failedAt)

/-- The callback returns, and has moved one pending row at most. -/
structure ChildUnharmed (config : AckSession) (memory : ChildMemory) (message : Message) :
    Prop where
  returns : (heard config memory message).point = none
  silent : (heard config memory message).emits = []
  moved : (heard config memory message).memory.ledger = memory.ledger ∨
    ∃ row after, config.find memory row.eventId = some row ∧ row.status = .pending ∧
      ReceiptFor config message row after ∧
      ∀ key, (heard config memory message).memory.ledger.get key =
        if key = (config.destination, row.eventId) then some after else memory.ledger.get key

/-- The lookup of an ACK raises nothing, and a row it moves bears the very id. -/
def AckHarmless (config : AckSession) (memory : ChildMemory)
    (eventId mkDate committedAt : Json) : Prop :=
  ∃ found, config.findBound memory eventId = .ok found ∧
    ∀ hit ∈ found, hit.2.status = .pending → mkDate = .str hit.2.mkDate →
      eventId = .str hit.1 ∧ committedAt.Bindable

def NackHarmless (config : AckSession) (memory : ChildMemory)
    (eventId reason failedAt : Json) : Prop :=
  ∃ found, config.findBound memory eventId = .ok found ∧
    ∀ hit ∈ found, hit.2.status = .pending →
      eventId = .str hit.1 ∧ (config.reasonText reason).isSome ∧
        (if failedAt.truthy then failedAt else .null).Bindable

/-- The payload is no JSON, or an object without an id, or a harmless receipt. -/
def PayloadHarmless (receipt : List (String × Json) → Prop) : Decoded → Prop
  | .invalid => True
  | .tooDeep => False
  | .value (.obj fields) => (Json.field fields "event_id").truthy = true → receipt fields
  | .value _ => False

/-- The child is not meant, or the payload is harmless. -/
def MessageHarmless (config : AckSession) (memory : ChildMemory) (message : Message) : Prop :=
  message.retain = false →
    (message.topic = config.ackTopic →
      PayloadHarmless (fun fields => AckHarmless config memory (Json.field fields "event_id")
        (Json.field fields "mk_date_committed") (Json.field fields "committed_at"))
        message.payload) ∧
    (message.topic = config.nackTopic → memory.session.nackEnabled = true →
      PayloadHarmless (fun fields => NackHarmless config memory (Json.field fields "event_id")
        (Json.field fields "reason") (Json.field fields "failed_at_iso"))
        message.payload)

section Unharmed

variable {config : AckSession} {memory : ChildMemory} {message : Message}

theorem childUnharmed_of_quiet (quiet : heard config memory message = finish memory []) :
    ChildUnharmed config memory message where
  returns := by rw [quiet]; rfl
  silent := by rw [quiet]; rfl
  moved := .inl (by rw [quiet]; rfl)

theorem not_childUnharmed_of_raised {error : PyError}
    (raised : heard config memory message = finish memory [.callbackRaised error]) :
    ¬ChildUnharmed config memory message := by
  intro unharmed
  have silent := unharmed.silent
  rw [raised] at silent
  cases silent

theorem not_bindable_of_error {data : Json} {error : PyError}
    (unbound : data.bindText = .error error) : ¬data.Bindable := by
  intro bindable
  rcases bindable with ⟨text, bound⟩
  rw [unbound] at bound
  cases bound

/-- The row a bound id finds is the row of that id. -/
theorem eventId_of_find {id : String} {row : DeliveryRow}
    (found : config.find memory id = some row) : row.eventId = id :=
  congrArg Prod.snd (Table.key_of_get found)

/-- An update that takes a row out of `pending` is allowed where the receipt bears
the very id of the row. -/
theorem childUnharmed_update_iff {id : String} {row after : DeliveryRow} {ledger : Ledger}
    {data : Json} {eventId : Json} (payload : message.payload = .value data)
    (isId : data.get "event_id" = .ok eventId) (bound : eventId.bindText = .ok (some id))
    (found : config.find memory id = some row) (pending : row.status = .pending)
    (settled : after.status ≠ .pending)
    (updated : ∀ key, ledger.get key =
      if key = (config.destination, id) then some after else memory.ledger.get key)
    (runs : heard config memory message = finish { memory with ledger := ledger } [])
    (receipt : eventId = .str id → ReceiptFor config message row after) :
    ChildUnharmed config memory message ↔ eventId = .str id := by
  constructor
  · intro unharmed
    rcases unharmed.moved with same | ⟨other, _, -, -, receiptFor, -⟩
    · have now : ledger.get (config.destination, id) = some row := by
        rw [runs] at same
        rw [show ledger = memory.ledger from same]
        exact found
      rw [updated, if_pos rfl] at now
      cases now
      exact absurd pending settled
    · have named : data.get "event_id" = .ok (.str other.eventId) := by
        cases receiptFor with
        | ack _ _ itsPayload named =>
            rw [payload] at itsPayload
            cases itsPayload
            exact named
        | nack _ _ _ itsPayload named =>
            rw [payload] at itsPayload
            cases itsPayload
            exact named
      rw [isId] at named
      cases named
      cases bound
      rfl
  · intro named
    have rowId := eventId_of_find found
    subst rowId
    exact
      { returns := by rw [runs]; rfl
        silent := by rw [runs]; rfl
        moved := .inr ⟨row, after, found, pending, receipt named, by rw [runs]; exact updated⟩ }

theorem get_markAcked_found {id : String} {row : DeliveryRow}
    (found : config.find memory id = some row) (committedAt : Option String)
    (key : String × String) :
    (memory.ledger.markAcked config.destination id committedAt).get key =
      if key = (config.destination, id) then some (row.asAcked committedAt)
      else memory.ledger.get key := by
  rw [Ledger.get_markAcked]
  split
  next here =>
    rw [here, show memory.ledger.get (config.destination, id) = some row from found]
    rfl
  · rfl

theorem get_markNacked_found {id : String} {row : DeliveryRow}
    (found : config.find memory id = some row) (pending : row.status = .pending)
    (reason : String) (failedAt : Option String) (key : String × String) :
    (memory.ledger.markNacked config.destination id reason failedAt).get key =
      if key = (config.destination, id) then some (row.asNacked reason failedAt)
      else memory.ledger.get key := by
  rw [Ledger.get_markNacked]
  split
  next here =>
    rw [here, show memory.ledger.get (config.destination, id) = some row from found,
      Option.map_some, if_pos pending]
  · rfl

/-- The lookup of a receipt: it may raise, find nothing, or go on with a row. -/
theorem childUnharmed_lookup_iff {eventId : Json} {update : String → DeliveryRow → ChildOutcome}
    {harmless : String × DeliveryRow → Prop}
    (runs : heard config memory message =
      match config.findBound memory eventId with
      | .error error => finish memory [.callbackRaised error]
      | .ok none => finish memory []
      | .ok (some (id, row)) => update id row)
    (each : ∀ id row, eventId.bindText = .ok (some id) → config.find memory id = some row →
      heard config memory message = update id row →
        (ChildUnharmed config memory message ↔ harmless (id, row))) :
    ChildUnharmed config memory message ↔
      ∃ found, config.findBound memory eventId = .ok found ∧ ∀ hit ∈ found, harmless hit := by
  cases looked : config.findBound memory eventId with
  | error error =>
      rw [looked] at runs
      simp only [reduceCtorEq, false_and, exists_false, iff_false]
      exact not_childUnharmed_of_raised runs
  | ok found =>
      rw [looked] at runs
      simp only [Except.ok.injEq, exists_eq_left']
      cases found with
      | none =>
          simp only [Option.mem_def, reduceCtorEq, false_implies, implies_true, iff_true]
          exact childUnharmed_of_quiet runs
      | some hit =>
          rcases config.findBound_eq_some looked with ⟨bound, found⟩
          simp only [Option.mem_def, Option.some.injEq, forall_eq']
          exact each hit.1 hit.2 bound found runs

/-- An ACK with an id, from its lookup on. -/
theorem childUnharmed_ack_iff {fields : List (String × Json)}
    (topic : message.topic = config.ackTopic) (payload : message.payload = .value (.obj fields))
    (runs : heard config memory message = config.program.alone
      (proceed memory (.ackLookup (Json.field fields "event_id")
        (Json.field fields "mk_date_committed") (Json.field fields "committed_at"))) [{}, {}]) :
    ChildUnharmed config memory message ↔
      AckHarmless config memory (Json.field fields "event_id")
        (Json.field fields "mk_date_committed") (Json.field fields "committed_at") := by
  rw [alone_ackLookup] at runs
  rw [AckHarmless]
  apply childUnharmed_lookup_iff runs
  intro id row bound found runs
  by_cases acts : row.status = .pending ∧
      (Json.field fields "mk_date_committed").isText row.mkDate = true
  · rw [if_pos acts, AckSession.ackUpdate] at runs
    rw [Json.isText_eq_true_iff] at acts
    simp only [acts.1, acts.2, true_implies]
    cases stored : (Json.field fields "committed_at").bindText with
    | error error =>
        rw [stored] at runs
        simp only [not_bindable_of_error stored, and_false, iff_false]
        exact not_childUnharmed_of_raised runs
    | ok committedAt =>
        rw [stored] at runs
        have bindable : (Json.field fields "committed_at").Bindable := ⟨_, stored⟩
        simp only [bindable, and_true]
        exact childUnharmed_update_iff payload (Json.get_obj ..) bound found acts.1
          (by simp [DeliveryRow.asAcked]) (get_markAcked_found found committedAt) runs
          fun named => .ack committedAt topic payload
            (by rw [Json.get_obj, named, eventId_of_find found])
            (by rw [Json.get_obj, acts.2])
  · rw [if_neg acts] at runs
    rw [Json.isText_eq_true_iff] at acts
    constructor
    · intro _ pending date
      exact absurd ⟨pending, date⟩ acts
    · intro _
      exact childUnharmed_of_quiet runs

theorem childUnharmed_nack_iff {fields : List (String × Json)}
    (topic : message.topic = config.nackTopic) (payload : message.payload = .value (.obj fields))
    (runs : heard config memory message = config.program.alone
      (proceed memory (.nackLookup (Json.field fields "event_id") (Json.field fields "reason")
        (Json.field fields "failed_at_iso"))) [{}, {}]) :
    ChildUnharmed config memory message ↔
      NackHarmless config memory (Json.field fields "event_id") (Json.field fields "reason")
        (Json.field fields "failed_at_iso") := by
  rw [alone_nackLookup] at runs
  rw [NackHarmless]
  apply childUnharmed_lookup_iff runs
  intro id row bound found runs
  by_cases pending : row.status = .pending
  · rw [if_pos pending, AckSession.nackUpdate] at runs
    simp only [pending, true_implies]
    cases rendered : config.reasonText (Json.field fields "reason") with
    | none =>
        rw [rendered] at runs
        simp only [Option.isSome_none, Bool.false_eq_true, false_and, and_false, iff_false]
        exact not_childUnharmed_of_raised runs
    | some reason =>
        rw [rendered] at runs
        simp only [Option.isSome_some, true_and]
        cases stored : (if (Json.field fields "failed_at_iso").truthy then
            Json.field fields "failed_at_iso" else Json.null).bindText with
        | error error =>
            rw [stored] at runs
            simp only [not_bindable_of_error stored, and_false, iff_false]
            exact not_childUnharmed_of_raised runs
        | ok failedAt =>
            rw [stored] at runs
            simp only [show Json.Bindable _ from ⟨_, stored⟩, and_true]
            exact childUnharmed_update_iff payload (Json.get_obj ..) bound found pending
              (by simp [DeliveryRow.asNacked])
              (get_markNacked_found found pending reason failedAt) runs
              fun named => .nack reason failedAt topic payload
                (by rw [Json.get_obj, named, eventId_of_find found])
  · rw [if_neg pending] at runs
    constructor
    · intro _ isPending
      exact absurd isPending pending
    · intro _
      exact childUnharmed_of_quiet runs

/-- A handler of receipts, by how it begins with each kind of payload. -/
structure ReadsReceipts (handle : Decoded → Except PyError (Option ChildPoint)) : Prop where
  invalid : handle .invalid = .ok none
  tooDeep : handle .tooDeep = .error .recursionError
  noObject : ∀ data, (∀ fields, data ≠ .obj fields) →
    handle (.value data) = .error .attributeError
  unnamed : ∀ fields, (Json.field fields "event_id").truthy = false →
    handle (.value (.obj fields)) = .ok none

theorem readsReceipts_handleAck : ReadsReceipts AckSession.handleAck where
  invalid := rfl
  tooDeep := rfl
  noObject := by
    intro data noObject
    cases data with
    | obj fields => exact absurd rfl (noObject fields)
    | _ => rfl
  unnamed := by
    intro fields unnamed
    simp only [AckSession.handleAck, Json.get_obj, bind, Except.bind, pure, Except.pure, unnamed,
      Bool.false_eq_true, if_false]

theorem readsReceipts_handleNack : ReadsReceipts AckSession.handleNack where
  invalid := rfl
  tooDeep := rfl
  noObject := by
    intro data noObject
    cases data with
    | obj fields => exact absurd rfl (noObject fields)
    | _ => rfl
  unnamed := by
    intro fields unnamed
    simp only [AckSession.handleNack, Json.get_obj, bind, Except.bind, pure, Except.pure, unnamed,
      Bool.false_eq_true, if_false]

/-- What remains to be seen is the receipt in an object with an id. -/
theorem childUnharmed_payload_iff {handle : Decoded → Except PyError (Option ChildPoint)}
    {receipt : List (String × Json) → Prop} (reads : ReadsReceipts handle)
    (starts : config.start memory (.onMessage message) = begun memory (handle message.payload))
    (named : ∀ fields, message.payload = .value (.obj fields) →
      (Json.field fields "event_id").truthy = true →
        (ChildUnharmed config memory message ↔ receipt fields)) :
    ChildUnharmed config memory message ↔ PayloadHarmless receipt message.payload := by
  have quiet (nothing : handle message.payload = .ok none) :
      ChildUnharmed config memory message := by
    apply childUnharmed_of_quiet
    rw [heard, starts, nothing]
    rfl
  have raised {error : PyError} (raises : handle message.payload = .error error) :
      ¬ChildUnharmed config memory message := by
    apply not_childUnharmed_of_raised
    rw [heard, starts, raises]
    rfl
  cases payload : message.payload with
  | invalid =>
      rw [payload] at quiet
      exact iff_of_true (quiet reads.invalid) trivial
  | tooDeep =>
      rw [payload] at raised
      exact iff_of_false (raised reads.tooDeep) id
  | value data =>
      rw [payload] at quiet raised
      cases data with
      | obj fields =>
          rw [PayloadHarmless]
          cases truthy : (Json.field fields "event_id").truthy with
          | false => exact iff_of_true (quiet (reads.unnamed fields truthy)) nofun
          | true =>
              simp only [true_implies]
              exact named fields payload truthy
      | _ => exact iff_of_false (raised (reads.noObject _ nofun)) id

/-- The child is unharmed by the messages that are not meant for it, and by the
harmless ones among the others. -/
theorem childUnharmed_iff (config : AckSession) (memory : ChildMemory) (message : Message) :
    ChildUnharmed config memory message ↔ MessageHarmless config memory message := by
  rw [MessageHarmless]
  cases live : message.retain with
  | true =>
      simp only [Bool.true_eq_false, false_implies, iff_true]
      apply childUnharmed_of_quiet
      rw [heard, AckSession.start, AckSession.onMessage, live]
      rfl
  | false =>
      simp only [true_implies]
      by_cases onAck : message.topic = config.ackTopic
      · simp only [onAck, true_implies, config.nackTopic_ne_ackTopic.symm, false_implies,
          and_true]
        exact childUnharmed_payload_iff readsReceipts_handleAck (start_ack config memory live onAck)
          fun fields payload named => childUnharmed_ack_iff onAck payload
            (heard_ack config memory live onAck payload named)
      · by_cases onNack : message.topic = config.nackTopic ∧ memory.session.nackEnabled = true
        · simp only [onNack.1, onNack.2, true_implies, config.nackTopic_ne_ackTopic,
            false_implies, true_and]
          exact childUnharmed_payload_iff readsReceipts_handleNack
            (start_nack config memory live onNack.1 onNack.2)
            fun fields payload named => childUnharmed_nack_iff onNack.1 payload
              (heard_nack config memory live onNack.1 onNack.2 payload named)
        · simp only [onAck, false_implies, true_and]
          apply iff_of_true
          · apply childUnharmed_of_quiet
            rw [heard, AckSession.start, AckSession.onMessage, live]
            simp only [Bool.false_eq_true, if_false, onAck, onNack]
            rfl
          · intro topic enabled
            exact absurd ⟨topic, enabled⟩ onNack

end Unharmed

/-! ## The detector -/

section Detector

open PresenceLogger.Detector

/-- The callback returns, and has acknowledged the row the id names at most. -/
structure DetectorUnharmed (buffer : Buffer) (payload : Decoded) : Prop where
  silent : (RuntimeContext.onAckMessage buffer payload).emits = []
  moved : (RuntimeContext.onAckMessage buffer payload).memory = buffer ∨
    ∃ fields id, payload = .value (.obj fields) ∧
      (Json.field fields "event_id").bindText = .ok (some id) ∧
      ∀ eventId, (RuntimeContext.onAckMessage buffer payload).memory.get eventId =
        if eventId = id then (buffer.get eventId).map fun row => row.withStatus .acked
        else buffer.get eventId

/-- The payload is no JSON, or an object whose id can be bound where it is used. -/
def DetectorHarmless : Decoded → Prop
  | .invalid | .tooDeep => True
  | .value (.obj fields) =>
      (Json.field fields "event_id").truthy = true →
        (Json.field fields "mk_date_committed").truthy = true →
          (Json.field fields "event_id").Bindable
  | .value _ => False

theorem detectorUnharmed_of_unnamed {buffer : Buffer} {payload : Decoded}
    (unnamed : ackedId payload = .ok none) : DetectorUnharmed buffer payload where
  silent := by rw [RuntimeContext.onAckMessage, unnamed]
  moved := .inl (by rw [RuntimeContext.onAckMessage, unnamed])

theorem not_detectorUnharmed_of_error {buffer : Buffer} {payload : Decoded} {error : PyError}
    (raises : ackedId payload = .error error) : ¬DetectorUnharmed buffer payload := by
  intro unharmed
  have silent := unharmed.silent
  rw [RuntimeContext.onAckMessage, raises] at silent
  cases silent

/-- An acknowledgement binds its id, or nothing. -/
theorem detectorUnharmed_of_bound {buffer : Buffer} {fields : List (String × Json)}
    {bound : Option String} (named : ackedId (.value (.obj fields)) = .ok (some bound))
    (binds : (Json.field fields "event_id").bindText = .ok bound) :
    DetectorUnharmed buffer (.value (.obj fields)) where
  silent := by rw [RuntimeContext.onAckMessage, named]
  moved := by
    rw [RuntimeContext.onAckMessage, named]
    cases bound with
    | none => exact .inl rfl
    | some id =>
        have updated := Table.get_update buffer id (fun row => row.withStatus .acked) fun _ => rfl
        exact .inr ⟨fields, id, rfl, binds, updated⟩

theorem detectorUnharmed_iff (buffer : Buffer) (payload : Decoded) :
    DetectorUnharmed buffer payload ↔ DetectorHarmless payload := by
  cases payload with
  | invalid => exact iff_of_true (detectorUnharmed_of_unnamed rfl) trivial
  | tooDeep => exact iff_of_true (detectorUnharmed_of_unnamed rfl) trivial
  | value data =>
      cases data with
      | obj fields =>
          rw [DetectorHarmless]
          have asked : ackedId (.value (.obj fields)) =
              if (Json.field fields "event_id").truthy = true ∧
                (Json.field fields "mk_date_committed").truthy = true then
                (Json.field fields "event_id").bindText.map some
              else .ok none := by
            simp only [ackedId, Json.get_obj, bind, Except.bind, pure, Except.pure,
              Bool.and_eq_true]
            rfl
          by_cases meant : (Json.field fields "event_id").truthy = true ∧
              (Json.field fields "mk_date_committed").truthy = true
          · rw [if_pos meant] at asked
            simp only [meant.1, meant.2, true_implies]
            cases binds : (Json.field fields "event_id").bindText with
            | error error =>
                rw [binds] at asked
                exact iff_of_false (not_detectorUnharmed_of_error asked)
                  (not_bindable_of_error binds)
            | ok bound =>
                rw [binds] at asked
                exact iff_of_true (detectorUnharmed_of_bound asked binds) ⟨bound, binds⟩
          · rw [if_neg meant] at asked
            exact iff_of_true (detectorUnharmed_of_unnamed asked)
              fun named dated => absurd ⟨named, dated⟩ meant
      | _ => exact iff_of_false (not_detectorUnharmed_of_error rfl) id

/-- Which messages the two receivers take without harm. -/
theorem receiptsUnharmed_iff (config : AckSession) (memory : ChildMemory) (message : Message)
    (buffer : Buffer) (payload : Decoded) :
    (ChildUnharmed config memory message ↔ MessageHarmless config memory message) ∧
      (DetectorUnharmed buffer payload ↔ DetectorHarmless payload) :=
  ⟨childUnharmed_iff config memory message, detectorUnharmed_iff buffer payload⟩

/-- The empty array raises in both receivers. -/
theorem not_receiptsUnharmed_array :
    ¬(∀ config memory message, ChildUnharmed config memory message) ∧
      ¬∀ buffer payload, DetectorUnharmed buffer payload := by
  constructor
  · intro always
    have unharmed := always Child.Site.config Child.Site.empty
      { topic := "presence/record/ack", retain := false, payload := .value (.arr []) }
    exact absurd unharmed.silent (by decide +kernel)
  · intro always
    have unharmed := always Table.empty (.value (.arr []))
    exact absurd unharmed.silent (by decide)

end Detector

end PresenceLogger.EndToEnd
