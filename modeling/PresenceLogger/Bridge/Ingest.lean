import PresenceLogger.Bridge.Payload

/-!
# Messages that arrive

What the callbacks of the event topic and of the record topic make of any message:
the parser, the row, and the statement that inserts it.
-/

namespace PresenceLogger.Bridge

open Library

/-- The bridge with both inboxes. The key of `inbox` lets in any number of rows
whose id is `NULL`; they are apart, with an empty id. -/
structure IngestState where
  bridge : BridgeState
  unnamed : List InboxEvent

/-- How a callback ends. -/
structure Ingested where
  state : IngestState
  raised : Option PyError := none

/-- The largest and the smallest integer SQLite holds. -/
def IsInt64 (n : Int) : Prop := -2 ^ 63 ≤ n ∧ n < 2 ^ 63

instance (n : Int) : Decidable (IsInt64 n) := inferInstanceAs (Decidable (_ ∧ _))

def bindInt (n : Int) : Except PyError Int :=
  if IsInt64 n then .ok n else .error .overflowError

theorem bindInt_eq_ok_iff {n bound : Int} : bindInt n = .ok bound ↔ IsInt64 n ∧ n = bound := by
  simp [bindInt, ite_eq_iff]

def bindStr : Option String → Except PyError String
  | none => .error .unicodeError
  | some text => .ok text

theorem bindStr_eq_ok_iff {text : Option String} {bound : String} :
    bindStr text = .ok bound ↔ text = some bound := by
  cases text <;> simp [bindStr]

/-- The constraints of `event_type`. -/
def eventTypeOf : Option String → Except PyError EventType
  | some "ENTER" => .ok .enter
  | some "EXIT" => .ok .exit
  | _ => .error .integrityError

/-- The id and the row of `insert_received`, with its parameters bound in their
order. -/
def bindEvent (parsed : ParsedEvent) : Except PyError (Option String × EventPayload) := do
  let eventId ← parsed.eventId.bindText
  let eventType ← parsed.eventType.bindText
  let mkDate ← parsed.mkDate.bindText
  let monotonicNs ← bindInt parsed.monotonicNs
  let _deviceId ← parsed.deviceId.bindText
  let _score ← parsed.score.bindText
  let checked ← eventTypeOf eventType
  return (eventId,
    { eventId := eventId.getD ""
      eventType := checked
      mkDate := mkDate
      monotonicNs := monotonicNs
      wallClockSynced := parsed.wallClockSynced })

/-- `insert_received` of an event. -/
def IngestState.insertEvent (state : IngestState) (parsed : ParsedEvent) (receivedAt : Instant) :
    Ingested :=
  match bindEvent parsed with
  | .error error => { state := state, raised := some error }
  | .ok (none, payload) =>
      { state :=
          { state with
            unnamed := state.unnamed ++
              [payload.toRow state.bridge.network.cachedSsid receivedAt] } }
  | .ok (some _, payload) =>
      { state :=
          { state with
            bridge := state.bridge.exec
              (.insertEvent (payload.toRow state.bridge.network.cachedSsid receivedAt)) } }

/-- `_on_event` -/
def IngestState.storeEvent (state : IngestState) (parsed : ParsedEvent) (receivedAt : Instant) :
    Ingested :=
  match state.bridge.resolver.peek state.bridge.network.cachedSsid with
  | .drop => { state := state }
  | .send _ | .hold => state.insertEvent parsed receivedAt

/-- A message the parser refuses with a `ValueError` is logged and dropped. -/
def IngestState.unlessInvalid {α : Type} (state : IngestState) (parsed : Except PyError α)
    (store : α → Ingested) : Ingested :=
  match parsed with
  | .error .valueError => { state := state }
  | .error error => { state := state, raised := some error }
  | .ok value => store value

/-- The callback of `subscribe_event`. -/
def IngestState.onEventMessage (state : IngestState) (payload : Decoded) (receivedAt : Instant) :
    Ingested :=
  state.unlessInvalid (parseEventPayload payload) fun parsed => state.storeEvent parsed receivedAt

/-- The parameters of the record's `insert_received`, bound in their order. -/
def bindRecord (eventId : String) (parsed : ParsedRecord) : Except PyError RecordPayload := do
  let staNo1 ← bindStr parsed.staNo1
  let staNo2 ← bindStr parsed.staNo2
  let staNo3 ← bindStr parsed.staNo3
  let t1Status ← bindInt parsed.t1Status
  let deviceId ← (storableDeviceId parsed.deviceId).elim (.error .unicodeError) .ok
  return {
    eventId := eventId
    mkDate := parsed.mkDate
    staNo1 := staNo1
    staNo2 := staNo2
    staNo3 := staNo3
    t1Status := t1Status
    deviceId := deviceId }

/-- `receive`; a record whose row is there may be answered and is not stored. -/
def IngestState.storeRecord (state : IngestState) (parsed : ParsedRecord) (receivedAt : Instant) :
    Ingested :=
  match parsed.eventId with
  | none => { state := state, raised := some .unicodeError }
  | some eventId =>
      match state.bridge.recordInbox.get eventId with
      | some _ => { state := state }
      | none =>
          match bindRecord eventId parsed with
          | .error error => { state := state, raised := some error }
          | .ok record =>
              { state :=
                  { state with
                    bridge := state.bridge.exec (.insertRecord (record.toRow receivedAt)) } }

/-- `_on_record` -/
def IngestState.onRecordMessage (render : Json → Option String) (state : IngestState)
    (payload : Decoded) (receivedAt : Instant) : Ingested :=
  state.unlessInvalid (parseRecordPayload render payload) fun parsed =>
    state.storeRecord parsed receivedAt

inductive IngestTopic where
  | event
  | record
  deriving DecidableEq, Repr

def IngestState.ingest (render : Json → Option String) (state : IngestState)
    (topic : IngestTopic) (payload : Decoded) (receivedAt : Instant) : Ingested :=
  match topic with
  | .event => state.onEventMessage payload receivedAt
  | .record => state.onRecordMessage render payload receivedAt

/-! ## The same rows as in the runs of the bridge -/

theorem storeEvent_named {state : IngestState} {parsed : ParsedEvent} {eventId : String}
    {payload : EventPayload} (bound : bindEvent parsed = .ok (some eventId, payload))
    (receivedAt : Instant) :
    (state.storeEvent parsed receivedAt).state.bridge =
      state.bridge.replay (state.bridge.onEvent payload receivedAt) := by
  simp only [IngestState.storeEvent, IngestState.insertEvent, BridgeState.onEvent, bound]
  cases state.bridge.resolver.peek state.bridge.network.cachedSsid <;> rfl

theorem bindRecord_storable {parsed : ParsedRecord} {record : RecordPayload}
    (stored : parsed.storable = some record) (range : IsInt64 parsed.t1Status) :
    bindRecord record.eventId parsed = .ok record ∧ parsed.eventId = some record.eventId := by
  rcases Option.bind_eq_some_iff.mp stored with ⟨eventId, isId, stored⟩
  rcases Option.bind_eq_some_iff.mp stored with ⟨staNo1, isSta1, stored⟩
  rcases Option.bind_eq_some_iff.mp stored with ⟨staNo2, isSta2, stored⟩
  rcases Option.bind_eq_some_iff.mp stored with ⟨staNo3, isSta3, stored⟩
  rcases Option.bind_eq_some_iff.mp stored with ⟨deviceId, isDevice, stored⟩
  cases stored
  constructor
  · simp only [bindRecord, isSta1, isSta2, isSta3, isDevice, bindStr, bindInt, range, if_true,
      Option.elim_some, bind, Except.bind, pure, Except.pure]
  · exact isId

/-- A publication changes neither inbox. -/
theorem replay_receiveAfter_some (deps : RecordSenderDeps) (bridge : BridgeState)
    (existing rec : RecordInboxEvent) :
    bridge.replay (deps.receiveAfter (some existing) rec) = bridge := by
  have published (topic : Option String) {publish : String → Command}
      (still : ∀ name, bridge.exec (publish name) = bridge) :
      bridge.replay (topic.toList.map publish) = bridge := by
    cases topic with
    | none => rfl
    | some name => exact still name
  simp only [RecordSenderDeps.receiveAfter]
  split
  · split
    · exact published _ fun _ => rfl
    · rfl
  · rfl
  · split
    · exact published _ fun _ => rfl
    · rfl

/-- A record that can be stored is received as in the runs of the bridge. -/
theorem storeRecord_storable (deps : RecordSenderDeps) {state : IngestState}
    {parsed : ParsedRecord} {record : RecordPayload} (stored : parsed.storable = some record)
    (range : IsInt64 parsed.t1Status) (receivedAt : Instant) :
    (state.storeRecord parsed receivedAt).state.bridge =
      state.bridge.replay (deps.receive state.bridge (record.toRow receivedAt)) := by
  rcases bindRecord_storable stored range with ⟨bound, isId⟩
  have sameId : (record.toRow receivedAt).eventId = record.eventId := rfl
  simp only [IngestState.storeRecord, isId, RecordSenderDeps.receive, sameId, bound]
  cases state.bridge.recordInbox.get record.eventId with
  | some existing => rw [replay_receiveAfter_some]
  | none => rfl

/-! ## Payloads that do no harm -/

/-- A required key is missing from an object, an array or a text. -/
def Lacks (data : Json) (keys : List String) : Prop :=
  ∃ key ∈ keys, data.contains key = .ok false

/-- The event type is stored as one of the two. -/
def EventTypeStored (eventType : Json) : Prop :=
  ∃ text checked, eventType.bindText = .ok text ∧ eventTypeOf text = .ok checked

/-- The value is an integer for `int`, and SQLite can hold it. -/
def IntegerStored (data : Json) : Prop := ∃ n, data.toInt = .ok n ∧ IsInt64 n

def IsString (data : Json) : Prop := ∃ text, data = .str text

/-- The required fields of an event have storable types. -/
structure WellFormedEvent (fields : List (String × Json)) : Prop where
  complete : ¬Lacks (.obj fields) requiredPayloadKeys
  eventId : IsString (Json.field fields "event_id")
  deviceId : IsString (Json.field fields "device_id")
  eventType : EventTypeStored (Json.field fields "event")
  monotonicNs : IntegerStored (Json.field fields "monotonic_ns")
  schemaVersion : IntegerStored (Json.field fields "schema_version")

/-- The required fields of a record have storable types; its texts are converted. -/
structure WellFormedRecord (render : Json → Option String) (fields : List (String × Json)) :
    Prop where
  complete : ¬Lacks (.obj fields) requiredRecordKeys
  eventId : ((Json.field fields "event_id").pyStr render).isSome
  t1Status : IntegerStored (Json.field fields "t1_status")
  schemaVersion : IntegerStored (Json.field fields "schema_version")

/-- An object with the required fields of storable types. -/
def WellFormedPayload (render : Json → Option String) :
    IngestTopic → Decoded → Prop
  | .event, .value (.obj fields) => WellFormedEvent fields
  | .record, .value (.obj fields) => WellFormedRecord render fields
  | _, _ => False

def IngestState.rowCount (state : IngestState) : Nat :=
  state.bridge.inbox.rows.length + state.unnamed.length + state.bridge.recordInbox.rows.length

/-- The three lists of rows as they were. -/
def SameRows (before after : IngestState) : Prop :=
  after.bridge.inbox = before.bridge.inbox ∧ after.unnamed = before.unnamed ∧
    after.bridge.recordInbox = before.bridge.recordInbox

/-- The callback returns, stores nothing ill-formed and one row at most. -/
structure IngestTotal (before : IngestState) (wellFormed : Prop) (after : Ingested) : Prop where
  returns : after.raised = none
  unchanged : ¬wellFormed → SameRows before after.state
  inboxKept : before.bridge.inbox.rows <+: after.state.bridge.inbox.rows
  unnamedKept : before.unnamed <+: after.state.unnamed
  recordsKept : before.bridge.recordInbox.rows <+: after.state.bridge.recordInbox.rows
  oneRow : after.state.rowCount ≤ before.rowCount + 1

/-- SQLite takes every parameter of the event. -/
structure EventBinds (fields : List (String × Json)) (monotonicNs : Int) : Prop where
  eventType : EventTypeStored (Json.field fields "event")
  mkDate : (Json.field fields "event_time").Bindable
  monotonicNs : IsInt64 monotonicNs
  deviceId : (Json.field fields "device_id").Bindable
  score : (Json.field fields "score").Bindable

/-- The event has textual ids and a version SQLite could hold, or its id is in the
inbox. -/
def EventAdmissible (state : IngestState) (fields : List (String × Json)) (version : Int) :
    Prop :=
  (IsString (Json.field fields "event_id") ∧ IsString (Json.field fields "device_id") ∧
      IsInt64 version) ∨
    ∃ id row, (Json.field fields "event_id").bindText = .ok (some id) ∧
      state.bridge.inbox.get id = some row

/-- An event that is dropped, or bound and admissible. -/
def EventFieldsHarmless (state : IngestState) (fields : List (String × Json)) : Prop :=
  (Json.field fields "monotonic_ns").toInt = .error .valueError ∨
  ∃ n, (Json.field fields "monotonic_ns").toInt = .ok n ∧
    ((Json.field fields "schema_version").toInt = .error .valueError ∨
      ∃ version, (Json.field fields "schema_version").toInt = .ok version ∧
        (state.bridge.resolver.peek state.bridge.network.cachedSsid = .drop ∨
          EventBinds fields n ∧ EventAdmissible state fields version))

/-- `int` refuses the value in a way the parser of records expects. -/
def Refused (data : Json) : Prop :=
  data.toInt = .error .typeError ∨ data.toInt = .error .valueError

/-- SQLite takes every parameter of the record. -/
structure RecordBinds (render : Json → Option String) (fields : List (String × Json))
    (t1Status : Int) : Prop where
  staNo1 : ((Json.field fields "sta_no1").pyStr render).isSome
  staNo2 : ((Json.field fields "sta_no2").pyStr render).isSome
  staNo3 : ((Json.field fields "sta_no3").pyStr render).isSome
  t1Status : IsInt64 t1Status
  deviceId : (storableDeviceId (readDeviceId render (Json.field fields "device_id"))).isSome

/-- A record that is refused, known, or bound with a version SQLite could hold. -/
def RecordFieldsHarmless (render : Json → Option String) (state : IngestState)
    (fields : List (String × Json)) : Prop :=
  (∀ text, (Json.field fields "mk_date").pyStr render = some text →
    Text.matchesDigits 14 text.toList = false) ∨
  Refused (Json.field fields "t1_status") ∨
  ∃ n, (Json.field fields "t1_status").toInt = .ok n ∧
    (Refused (Json.field fields "schema_version") ∨
      ∃ version, (Json.field fields "schema_version").toInt = .ok version ∧
        ∃ id, (Json.field fields "event_id").pyStr render = some id ∧
          ((∃ row, state.bridge.recordInbox.get id = some row) ∨
            RecordBinds render fields n ∧ IsInt64 version))

/-- The payload is no JSON, lacks a key, or has harmless fields. -/
def PayloadHarmless (keys : List String) (harmless : List (String × Json) → Prop) :
    Decoded → Prop
  | .invalid => True
  | .tooDeep => False
  | .value data => Lacks data keys ∨ ∃ fields, data = .obj fields ∧ harmless fields

def IngestHarmless (render : Json → Option String) (state : IngestState) :
    IngestTopic → Decoded → Prop
  | .event => PayloadHarmless requiredPayloadKeys (EventFieldsHarmless state)
  | .record => PayloadHarmless requiredRecordKeys (RecordFieldsHarmless render state)

/-! ## Keys -/

theorem contains_cases (data : Json) :
    (∀ key, data.contains key = .error .typeError) ∨
      ∀ key, ∃ present, data.contains key = .ok present := by
  cases data with
  | null | bool _ | int _ | float _ => exact .inl fun _ => rfl
  | str _ | surrogates _ | arr _ | obj _ => exact .inr fun _ => ⟨_, rfl⟩

/-- The check for missing keys fails for a scalar, finds one, or finds none. -/
theorem missingKeys_cases (data : Json) {keys : List String} (some : keys ≠ []) :
    (missingKeys data keys = .error .typeError ∧ ¬Lacks data keys) ∨
      (∃ missing, missingKeys data keys = .ok missing ∧ missing ≠ [] ∧ Lacks data keys) ∨
      (missingKeys data keys = .ok [] ∧ ∀ key ∈ keys, data.contains key = .ok true) := by
  rcases contains_cases data with scalar | container
  · left
    constructor
    · cases keys with
      | nil => exact absurd rfl some
      | cons key keys => rw [missingKeys, scalar]; rfl
    · rintro ⟨key, -, absent⟩
      rw [scalar] at absent
      cases absent
  · right
    clear some
    induction keys with
    | nil => exact .inr ⟨rfl, fun _ member => absurd member List.not_mem_nil⟩
    | cons key keys ih =>
        rcases container key with ⟨present, found⟩
        rw [missingKeys, found]
        rcases ih with ⟨missing, rest, nonempty, lacking, member, absent⟩ | ⟨rest, complete⟩
        · left
          refine ⟨_, by rw [rest]; rfl, ?_, lacking, .tail _ member, absent⟩
          cases present
          · exact List.cons_ne_nil _ _
          · exact nonempty
        · cases present with
          | false =>
              exact .inl ⟨[key], by rw [rest]; rfl, List.cons_ne_nil _ _, key, .head _, found⟩
          | true =>
              right
              constructor
              · rw [rest]; rfl
              · intro other member
                cases member with
                | head => exact found
                | tail _ member => exact complete other member

theorem not_lacks_of_complete {data : Json} {keys : List String}
    (complete : ∀ key ∈ keys, data.contains key = .ok true) : ¬Lacks data keys := by
  rintro ⟨key, member, absent⟩
  cases absent.symm.trans (complete key member)

theorem subscript_of_contains {fields : List (String × Json)} {key : String}
    (present : (Json.obj fields).contains key = .ok true) :
    (Json.obj fields).subscript key = .ok (Json.field fields key) := by
  have found : fields.any (fun entry => entry.1 = key) = true := Except.ok.inj present
  rcases List.any_eq_true.mp found with ⟨entry, member, sameKey⟩
  have isSome : (fields.reverse.lookup key).isSome := by
    rw [List.lookup_isSome_iff]
    exact ⟨entry, List.mem_reverse.mpr member, beq_iff_eq.mpr (of_decide_eq_true sameKey).symm⟩
  rcases Option.isSome_iff_exists.mp isSome with ⟨value, found⟩
  simp only [Json.subscript, Json.field, found, Option.elim_some, Option.getD_some]

/-- A value that is no object has no members. -/
theorem subscript_of_not_obj {data : Json} (other : ∀ fields, data ≠ .obj fields) (key : String) :
    data.subscript key = .error .typeError := by
  cases data with
  | obj fields => exact absurd rfl (other fields)
  | _ => rfl

/-! ## One row at most -/

theorem IngestTotal.same (state : IngestState) (wellFormed : Prop) :
    IngestTotal state wellFormed { state := state } where
  returns := rfl
  unchanged _ := ⟨rfl, rfl, rfl⟩
  inboxKept := List.prefix_rfl
  unnamedKept := List.prefix_rfl
  recordsKept := List.prefix_rfl
  oneRow := Nat.le_succ _

theorem not_ingestTotal_raised {before after : IngestState} {wellFormed : Prop}
    {error : PyError} : ¬IngestTotal before wellFormed { state := after, raised := some error } :=
  fun total => nomatch total.returns

theorem ingestTotal_unlessInvalid_error {α : Type} (state : IngestState) (wellFormed : Prop)
    (error : PyError) (store : α → Ingested) :
    IngestTotal state wellFormed (state.unlessInvalid (.error error) store) ↔
      error = .valueError := by
  cases error with
  | valueError => exact iff_of_true (.same state _) rfl
  | _ => exact iff_of_false not_ingestTotal_raised (by simp)

/-- An event may be inserted if its payload is well formed or its id is known. -/
theorem ingestTotal_insertEvent (state : IngestState) (wellFormed : Prop) (row : InboxEvent) :
    IngestTotal state wellFormed
        { state := { state with bridge := state.bridge.exec (.insertEvent row) } } ↔
      wellFormed ∨ ∃ known, state.bridge.inbox.get row.eventId = some known := by
  rw [← Table.insertOrIgnore_eq_self_iff]
  constructor
  · intro total
    by_cases isWellFormed : wellFormed
    · exact .inl isWellFormed
    · exact .inr (total.unchanged isWellFormed).1
  · intro admitted
    exact {
      returns := rfl
      unchanged := fun illFormed => ⟨admitted.resolve_left illFormed, rfl, rfl⟩
      inboxKept := Table.prefix_insertOrIgnore _ _
      unnamedKept := List.prefix_rfl
      recordsKept := List.prefix_rfl
      oneRow := by
        have added := Table.length_insertOrIgnore_le state.bridge.inbox row
        simp only [IngestState.rowCount, BridgeState.exec, Inbox.insertReceived]
        omega }

theorem ingestTotal_insertRecord (state : IngestState) (wellFormed : Prop)
    (rec : RecordInboxEvent) :
    IngestTotal state wellFormed
        { state := { state with bridge := state.bridge.exec (.insertRecord rec) } } ↔
      wellFormed ∨ ∃ known, state.bridge.recordInbox.get rec.eventId = some known := by
  have sameKey : rec.eventId = { rec with failedAtIso := none }.eventId := rfl
  rw [sameKey, ← Table.insertOrIgnore_eq_self_iff]
  constructor
  · intro total
    by_cases isWellFormed : wellFormed
    · exact .inl isWellFormed
    · exact .inr (total.unchanged isWellFormed).2.2
  · intro admitted
    exact {
      returns := rfl
      unchanged := fun illFormed => ⟨rfl, rfl, admitted.resolve_left illFormed⟩
      inboxKept := List.prefix_rfl
      unnamedKept := List.prefix_rfl
      recordsKept := Table.prefix_insertOrIgnore _ _
      oneRow := by
        have added := Table.length_insertOrIgnore_le state.bridge.recordInbox
          { rec with failedAtIso := none }
        simp only [IngestState.rowCount, BridgeState.exec, RecordInbox.insertReceived]
        omega }

/-- A row without an id is added whatever the table holds. -/
theorem ingestTotal_unnamed (state : IngestState) (wellFormed : Prop) (row : InboxEvent) :
    IngestTotal state wellFormed { state := { state with unnamed := state.unnamed ++ [row] } } ↔
      wellFormed := by
  constructor
  · intro total
    by_contra illFormed
    have same : state.unnamed ++ [row] = state.unnamed := (total.unchanged illFormed).2.1
    exact List.cons_ne_nil _ _ (List.append_right_eq_self.mp same)
  · intro isWellFormed
    exact {
      returns := rfl
      unchanged := fun illFormed => absurd isWellFormed illFormed
      inboxKept := List.prefix_rfl
      unnamedKept := List.prefix_append _ _
      recordsKept := List.prefix_rfl
      oneRow := by
        simp only [IngestState.rowCount, List.length_append, List.length_singleton]
        omega }

/-! ## Events -/

section Event

variable {fields : List (String × Json)}

/-- What is read of a complete event whose two integers are converted. -/
def eventOf (fields : List (String × Json)) (monotonicNs schemaVersion : Int) : ParsedEvent where
  eventId := Json.field fields "event_id"
  eventType := Json.field fields "event"
  mkDate := Json.field fields "event_time"
  eventTimeIso := Json.field fields "event_time_iso"
  monotonicNs := monotonicNs
  wallClockSynced := (Json.field fields "wall_clock_synced").truthy
  deviceId := Json.field fields "device_id"
  score := Json.field fields "score"
  schemaVersion := schemaVersion

theorem readEvent_obj
    (complete : ∀ key ∈ requiredPayloadKeys, (Json.obj fields).contains key = .ok true) :
    readEvent (.obj fields) = do
      let monotonicNs ← (Json.field fields "monotonic_ns").toInt
      let schemaVersion ← (Json.field fields "schema_version").toInt
      return eventOf fields monotonicNs schemaVersion := by
  have read (key : String) (required : key ∈ requiredPayloadKeys) :=
    subscript_of_contains (complete key required)
  simp only [readEvent, Json.get_obj, read _ (.head _), read _ (.tail _ (.head _)),
    read "monotonic_ns" (by simp [requiredPayloadKeys]),
    read "wall_clock_synced" (by simp [requiredPayloadKeys]),
    read "device_id" (by simp [requiredPayloadKeys]),
    read "schema_version" (by simp [requiredPayloadKeys]), bind, Except.bind, pure, Except.pure,
    eventOf]

/-- A row is made of an event when SQLite takes each of its parameters. -/
theorem bindEvent_eq_ok {n version : Int} {eventId : Option String} {payload : EventPayload}
    (bound : bindEvent (eventOf fields n version) = .ok (eventId, payload)) :
    EventBinds fields n ∧ (Json.field fields "event_id").bindText = .ok eventId ∧
      payload.eventId = eventId.getD "" := by
  rcases ok_of_bind bound with ⟨boundId, isId, bound⟩
  rcases ok_of_bind bound with ⟨eventType, isType, bound⟩
  rcases ok_of_bind bound with ⟨mkDate, isDate, bound⟩
  rcases ok_of_bind bound with ⟨monotonicNs, isNs, bound⟩
  rcases ok_of_bind bound with ⟨deviceId, isDevice, bound⟩
  rcases ok_of_bind bound with ⟨score, isScore, bound⟩
  rcases ok_of_bind bound with ⟨checked, isChecked, bound⟩
  cases bound
  exact ⟨⟨⟨eventType, checked, isType, isChecked⟩, ⟨mkDate, isDate⟩, (bindInt_eq_ok_iff.mp isNs).1,
    ⟨deviceId, isDevice⟩, ⟨score, isScore⟩⟩, isId, rfl⟩

theorem bindEvent_of_binds {n : Int} {eventId : Option String} (binds : EventBinds fields n)
    (isId : (Json.field fields "event_id").bindText = .ok eventId) (version : Int) :
    ∃ payload, bindEvent (eventOf fields n version) = .ok (eventId, payload) := by
  rcases binds.eventType with ⟨eventType, checked, isType, isChecked⟩
  rcases binds.mkDate with ⟨mkDate, isDate⟩
  rcases binds.deviceId with ⟨deviceId, isDevice⟩
  rcases binds.score with ⟨score, isScore⟩
  simp only [bindEvent, eventOf, isId, isType, isDate, bindInt, binds.monotonicNs, if_true,
    isDevice, isScore, isChecked, bind, Except.bind, pure, Except.pure]
  exact ⟨_, rfl⟩

theorem EventAdmissible.bound {state : IngestState} {version : Int}
    (admissible : EventAdmissible state fields version) :
    ∃ id, (Json.field fields "event_id").bindText = .ok (some id) := by
  rcases admissible with ⟨⟨text, isText⟩, -, -⟩ | ⟨id, -, isId, -⟩
  · exact ⟨text, by rw [isText]; rfl⟩
  · exact ⟨id, isId⟩

/-- The event is well formed or known exactly when it is admissible. -/
theorem eventAdmissible_iff {state : IngestState} {n version : Int} {id : String}
    (complete : ¬Lacks (.obj fields) requiredPayloadKeys) (binds : EventBinds fields n)
    (isNs : (Json.field fields "monotonic_ns").toInt = .ok n)
    (isVersion : (Json.field fields "schema_version").toInt = .ok version)
    (isId : (Json.field fields "event_id").bindText = .ok (some id)) :
    (WellFormedEvent fields ∨ ∃ known, state.bridge.inbox.get id = some known) ↔
      EventAdmissible state fields version := by
  constructor
  · rintro (wellFormed | ⟨known, found⟩)
    · rcases wellFormed.schemaVersion with ⟨other, isOther, range⟩
      cases isVersion.symm.trans isOther
      exact .inl ⟨wellFormed.eventId, wellFormed.deviceId, range⟩
    · exact .inr ⟨id, known, isId, found⟩
  · rintro (⟨eventId, deviceId, range⟩ | ⟨other, known, isOther, found⟩)
    · exact .inl {
        complete := complete
        eventId := eventId
        deviceId := deviceId
        eventType := binds.eventType
        monotonicNs := ⟨n, isNs, binds.monotonicNs⟩
        schemaVersion := ⟨version, isVersion, range⟩ }
    · cases isId.symm.trans isOther
      exact .inr ⟨known, found⟩

theorem ingestTotal_insertEvent_iff {n version : Int} (state : IngestState)
    (receivedAt : Instant) (complete : ¬Lacks (.obj fields) requiredPayloadKeys)
    (isNs : (Json.field fields "monotonic_ns").toInt = .ok n)
    (isVersion : (Json.field fields "schema_version").toInt = .ok version) :
    IngestTotal state (WellFormedEvent fields)
        (state.insertEvent (eventOf fields n version) receivedAt) ↔
      EventBinds fields n ∧ EventAdmissible state fields version := by
  rw [IngestState.insertEvent]
  split
  next error failed =>
    refine iff_of_false not_ingestTotal_raised ?_
    rintro ⟨binds, admissible⟩
    rcases admissible.bound with ⟨id, isId⟩
    rcases bindEvent_of_binds binds isId version with ⟨payload, bound⟩
    cases bound.symm.trans failed
  next payload bound =>
    rcases bindEvent_eq_ok bound with ⟨-, isId, -⟩
    rw [ingestTotal_unnamed]
    -- A row without an id comes of an id that is no string.
    constructor
    · intro wellFormed
      rcases wellFormed.eventId with ⟨text, isText⟩
      rw [isText] at isId
      cases isId
    · rintro ⟨-, admissible⟩
      rcases admissible.bound with ⟨id, isOther⟩
      cases isId.symm.trans isOther
  next id payload bound =>
    rcases bindEvent_eq_ok bound with ⟨binds, isId, sameId⟩
    have rowId : (payload.toRow state.bridge.network.cachedSsid receivedAt).eventId = id := sameId
    rw [ingestTotal_insertEvent, rowId, eventAdmissible_iff complete binds isNs isVersion isId,
      and_iff_right binds]

theorem ingestTotal_storeEvent_iff {n version : Int} (state : IngestState)
    (receivedAt : Instant) (complete : ¬Lacks (.obj fields) requiredPayloadKeys)
    (isNs : (Json.field fields "monotonic_ns").toInt = .ok n)
    (isVersion : (Json.field fields "schema_version").toInt = .ok version) :
    IngestTotal state (WellFormedEvent fields)
        (state.storeEvent (eventOf fields n version) receivedAt) ↔
      state.bridge.resolver.peek state.bridge.network.cachedSsid = .drop ∨
        EventBinds fields n ∧ EventAdmissible state fields version := by
  rw [← ingestTotal_insertEvent_iff state receivedAt complete isNs isVersion,
    IngestState.storeEvent]
  cases state.bridge.resolver.peek state.bridge.network.cachedSsid with
  | drop => exact iff_of_true (.same state _) (.inl rfl)
  | send profile => simp
  | hold => simp

/-- A complete event is taken well exactly when its fields are harmless. -/
theorem ingestTotal_completeEvent (state : IngestState) (receivedAt : Instant)
    (complete : ∀ key ∈ requiredPayloadKeys, (Json.obj fields).contains key = .ok true) :
    IngestTotal state (WellFormedEvent fields)
        (state.unlessInvalid (readEvent (.obj fields)) fun parsed =>
          state.storeEvent parsed receivedAt) ↔
      EventFieldsHarmless state fields := by
  have notLacks := not_lacks_of_complete complete
  rw [readEvent_obj complete, EventFieldsHarmless]
  cases isNs : (Json.field fields "monotonic_ns").toInt with
  | error error =>
      exact (ingestTotal_unlessInvalid_error state _ error _).trans (by simp)
  | ok n =>
      cases isVersion : (Json.field fields "schema_version").toInt with
      | error error => exact (ingestTotal_unlessInvalid_error state _ error _).trans (by simp)
      | ok version =>
          have stored := ingestTotal_storeEvent_iff state receivedAt notLacks isNs isVersion
          exact stored.trans (by simp)

end Event

/-! ## Records -/

section Record

variable {render : Json → Option String} {fields : List (String × Json)}

/-- What is read of a complete record whose date and integers are converted. -/
def recordOf (render : Json → Option String) (fields : List (String × Json)) (mkDate : String)
    (t1Status schemaVersion : Int) : ParsedRecord where
  eventId := (Json.field fields "event_id").pyStr render
  mkDate := mkDate
  staNo1 := (Json.field fields "sta_no1").pyStr render
  staNo2 := (Json.field fields "sta_no2").pyStr render
  staNo3 := (Json.field fields "sta_no3").pyStr render
  t1Status := t1Status
  deviceId := readDeviceId render (Json.field fields "device_id")
  schemaVersion := schemaVersion

theorem readRecord_obj
    (complete : ∀ key ∈ requiredRecordKeys, (Json.obj fields).contains key = .ok true) :
    readRecord render (.obj fields) = do
      let mkDate ← readMkDate render (.obj fields)
      let t1Status ← asValueError (Json.field fields "t1_status").toInt
      let schemaVersion ← asValueError (Json.field fields "schema_version").toInt
      return recordOf render fields mkDate t1Status schemaVersion := by
  have read (key : String) (required : key ∈ requiredRecordKeys) :=
    subscript_of_contains (complete key required)
  simp only [readRecord, Json.get_obj, read "event_id" (by simp [requiredRecordKeys]),
    read "sta_no1" (by simp [requiredRecordKeys]), read "sta_no2" (by simp [requiredRecordKeys]),
    read "sta_no3" (by simp [requiredRecordKeys]), read "t1_status" (by simp [requiredRecordKeys]),
    read "schema_version" (by simp [requiredRecordKeys]), bind, Except.bind, pure, Except.pure,
    recordOf]

/-- The date is refused unless its text is fourteen digits. -/
theorem readMkDate_obj (render : Json → Option String)
    (present : (Json.obj fields).contains "mk_date" = .ok true) :
    (readMkDate render (.obj fields) = .error .valueError ∧
      ∀ text, (Json.field fields "mk_date").pyStr render = some text →
        Text.matchesDigits 14 text.toList = false) ∨
    ∃ text, readMkDate render (.obj fields) = .ok text ∧
      (Json.field fields "mk_date").pyStr render = some text ∧
      Text.matchesDigits 14 text.toList = true := by
  simp only [readMkDate, subscript_of_contains present, bind, Except.bind]
  split
  next refused =>
    left
    refine ⟨rfl, fun text isText => ?_⟩
    have := Option.filter_eq_none_iff.mp refused text isText
    simpa using this
  next text accepted =>
    right
    exact ⟨text, rfl, Option.filter_eq_some_iff.mp accepted⟩

theorem bindRecord_eq_ok {eventId mkDate : String} {n version : Int} {record : RecordPayload}
    (bound : bindRecord eventId (recordOf render fields mkDate n version) = .ok record) :
    RecordBinds render fields n ∧ record.eventId = eventId := by
  rcases ok_of_bind bound with ⟨staNo1, isSta1, bound⟩
  rcases ok_of_bind bound with ⟨staNo2, isSta2, bound⟩
  rcases ok_of_bind bound with ⟨staNo3, isSta3, bound⟩
  rcases ok_of_bind bound with ⟨t1Status, isStatus, bound⟩
  rcases ok_of_bind bound with ⟨deviceId, isDevice, bound⟩
  cases bound
  have device :
      (storableDeviceId (readDeviceId render (Json.field fields "device_id"))).isSome := by
    by_contra absent
    simp only [recordOf, Option.not_isSome_iff_eq_none.mp absent, Option.elim_none] at isDevice
    cases isDevice
  exact ⟨{
    staNo1 := Option.isSome_of_eq_some (bindStr_eq_ok_iff.mp isSta1)
    staNo2 := Option.isSome_of_eq_some (bindStr_eq_ok_iff.mp isSta2)
    staNo3 := Option.isSome_of_eq_some (bindStr_eq_ok_iff.mp isSta3)
    t1Status := (bindInt_eq_ok_iff.mp isStatus).1
    deviceId := device }, rfl⟩

theorem bindRecord_of_binds {n : Int} (binds : RecordBinds render fields n)
    (eventId mkDate : String) (version : Int) :
    ∃ record, bindRecord eventId (recordOf render fields mkDate n version) = .ok record := by
  rcases Option.isSome_iff_exists.mp binds.staNo1 with ⟨staNo1, isSta1⟩
  rcases Option.isSome_iff_exists.mp binds.staNo2 with ⟨staNo2, isSta2⟩
  rcases Option.isSome_iff_exists.mp binds.staNo3 with ⟨staNo3, isSta3⟩
  rcases Option.isSome_iff_exists.mp binds.deviceId with ⟨deviceId, isDevice⟩
  simp only [bindRecord, recordOf, isSta1, isSta2, isSta3, isDevice, bindStr, bindInt,
    binds.t1Status, if_true, Option.elim_some, bind, Except.bind, pure, Except.pure]
  exact ⟨_, rfl⟩

/-- A record without a row is well formed when it is bound and its version is in
range. -/
theorem wellFormedRecord_iff {n version : Int} {id : String}
    (complete : ¬Lacks (.obj fields) requiredRecordKeys) (binds : RecordBinds render fields n)
    (isId : (Json.field fields "event_id").pyStr render = some id)
    (isStatus : (Json.field fields "t1_status").toInt = .ok n)
    (isVersion : (Json.field fields "schema_version").toInt = .ok version) :
    WellFormedRecord render fields ↔ IsInt64 version := by
  constructor
  · intro wellFormed
    rcases wellFormed.schemaVersion with ⟨other, isOther, range⟩
    cases isVersion.symm.trans isOther
    exact range
  · intro range
    exact {
      complete := complete
      eventId := Option.isSome_of_eq_some isId
      t1Status := ⟨n, isStatus, binds.t1Status⟩
      schemaVersion := ⟨version, isVersion, range⟩ }

theorem ingestTotal_storeRecord_iff {n version : Int} (state : IngestState)
    (receivedAt : Instant) (mkDate : String)
    (complete : ¬Lacks (.obj fields) requiredRecordKeys)
    (isStatus : (Json.field fields "t1_status").toInt = .ok n)
    (isVersion : (Json.field fields "schema_version").toInt = .ok version) :
    IngestTotal state (WellFormedRecord render fields)
        (state.storeRecord (recordOf render fields mkDate n version) receivedAt) ↔
      ∃ id, (Json.field fields "event_id").pyStr render = some id ∧
        ((∃ row, state.bridge.recordInbox.get id = some row) ∨
          RecordBinds render fields n ∧ IsInt64 version) := by
  rw [IngestState.storeRecord]
  split
  next absent =>
    refine iff_of_false not_ingestTotal_raised ?_
    rintro ⟨_, isId, -⟩
    cases absent.symm.trans isId
  next id isId =>
    have theId (other : String) : (Json.field fields "event_id").pyStr render = some other ↔
        id = other := by
      rw [show (Json.field fields "event_id").pyStr render = some id from isId, Option.some_inj]
    simp only [theId, exists_eq_left']
    split
    next row found => exact iff_of_true (.same state _) (.inl ⟨row, found⟩)
    next free =>
      have unknown : ¬∃ row, state.bridge.recordInbox.get id = some row := by
        rintro ⟨row, found⟩
        cases free.symm.trans found
      rw [or_iff_right unknown]
      split
      next error failed =>
        refine iff_of_false not_ingestTotal_raised ?_
        rintro ⟨binds, -⟩
        rcases bindRecord_of_binds binds id mkDate version with ⟨record, bound⟩
        cases bound.symm.trans failed
      next record bound =>
        rcases bindRecord_eq_ok bound with ⟨binds, sameId⟩
        have rowId : (record.toRow receivedAt).eventId = id := sameId
        rw [ingestTotal_insertRecord, rowId, and_iff_right binds, or_iff_left unknown,
          wellFormedRecord_iff complete binds isId isStatus isVersion]

/-- A complete record is taken well exactly when its fields are harmless. -/
theorem ingestTotal_completeRecord (state : IngestState) (receivedAt : Instant)
    (complete : ∀ key ∈ requiredRecordKeys, (Json.obj fields).contains key = .ok true) :
    IngestTotal state (WellFormedRecord render fields)
        (state.unlessInvalid (readRecord render (.obj fields)) fun parsed =>
          state.storeRecord parsed receivedAt) ↔
      RecordFieldsHarmless render state fields := by
  have notLacks := not_lacks_of_complete complete
  rw [readRecord_obj complete, RecordFieldsHarmless]
  have dates := readMkDate_obj render (complete "mk_date" (.tail _ (.head _)))
  rcases dates with ⟨isDate, undated⟩ | ⟨mkDate, isDate, isText, dated⟩
  · rw [isDate]
    exact iff_of_true ((ingestTotal_unlessInvalid_error state _ _ _).mpr rfl) (.inl undated)
  · have noRefusal : ¬∀ text, (Json.field fields "mk_date").pyStr render = some text →
        Text.matchesDigits 14 text.toList = false :=
      fun undated => Bool.false_ne_true ((undated mkDate isText).symm.trans dated)
    rw [isDate, or_iff_right noRefusal]
    cases isStatus : (Json.field fields "t1_status").toInt with
    | error error =>
        cases error <;>
          exact (ingestTotal_unlessInvalid_error state _ _ _).trans (by simp [Refused, isStatus])
    | ok n =>
        cases isVersion : (Json.field fields "schema_version").toInt with
        | error error =>
            cases error <;>
              exact (ingestTotal_unlessInvalid_error state _ _ _).trans
                (by simp [Refused, isStatus, isVersion])
        | ok version =>
            exact (ingestTotal_storeRecord_iff state receivedAt mkDate notLacks isStatus
              isVersion).trans (by simp [Refused, isStatus, isVersion])

end Record

/-! ## Any payload -/

/-- What is not a complete object is refused for a missing key or raises. -/
theorem ingestTotal_value_iff {α : Type} {keys : List String} (some : keys ≠ [])
    {read : Json → Except PyError α}
    (other : ∀ data, (∀ fields, data ≠ .obj fields) → read data = .error .typeError)
    (state : IngestState) (wellFormed : Decoded → Prop) (store : α → Ingested)
    {harmless : List (String × Json) → Prop} (data : Json)
    (object : ∀ fields, (∀ key ∈ keys, (Json.obj fields).contains key = .ok true) →
      (IngestTotal state (wellFormed (.value (.obj fields)))
        (state.unlessInvalid (read (.obj fields)) store) ↔ harmless fields)) :
    IngestTotal state (wellFormed (.value data))
        (state.unlessInvalid (do
          let missing ← missingKeys data keys
          if missing ≠ [] then .error .valueError else read data) store) ↔
      PayloadHarmless keys harmless (.value data) := by
  rw [PayloadHarmless]
  rcases missingKeys_cases data some with
    ⟨scalar, notLacks⟩ | ⟨missing, found, nonempty, lacks⟩ | ⟨found, complete⟩
  · rw [scalar]
    refine iff_of_false not_ingestTotal_raised ?_
    rintro (lacks | ⟨fields, rfl, -⟩)
    · exact notLacks lacks
    · rw [missingKeys_obj] at scalar
      cases scalar
  · rw [found]
    refine iff_of_true ?_ (.inl lacks)
    simp only [bind, Except.bind, if_pos nonempty]
    exact (ingestTotal_unlessInvalid_error ..).mpr rfl
  · rw [found, or_iff_right (not_lacks_of_complete complete)]
    by_cases isObject : ∃ fields, data = .obj fields
    · rcases isObject with ⟨fields, rfl⟩
      exact (object fields complete).trans (by simp)
    · have noFields : ∀ fields, data ≠ .obj fields := fun fields same => isObject ⟨fields, same⟩
      refine iff_of_false ?_ fun ⟨fields, same, _⟩ => noFields fields same
      simp only [bind, Except.bind, ne_eq, not_true_eq_false, if_false, other data noFields]
      exact not_ingestTotal_raised

/-- A callback returns and stores only what is well formed exactly for the harmless
payloads. -/
theorem ingestTotal_iff (render : Json → Option String) (state : IngestState)
    (topic : IngestTopic) (payload : Decoded) (receivedAt : Instant) :
    IngestTotal state (WellFormedPayload render topic payload)
        (state.ingest render topic payload receivedAt) ↔
      IngestHarmless render state topic payload := by
  cases topic with
  | event =>
      cases payload with
      | invalid => exact iff_of_true (.same state _) trivial
      | tooDeep => exact iff_of_false not_ingestTotal_raised id
      | value data =>
          refine ingestTotal_value_iff (List.cons_ne_nil _ _) ?_ state
            (WellFormedPayload render .event) _ data fun fields complete =>
              ingestTotal_completeEvent state receivedAt complete
          intro data noFields
          rw [readEvent, subscript_of_not_obj noFields]
          rfl
  | record =>
      cases payload with
      | invalid => exact iff_of_true (.same state _) trivial
      | tooDeep => exact iff_of_false not_ingestTotal_raised id
      | value data =>
          refine ingestTotal_value_iff (List.cons_ne_nil _ _) ?_ state
            (WellFormedPayload render .record) _ data fun fields complete =>
              ingestTotal_completeRecord state receivedAt complete
          intro data noFields
          rw [readRecord, readMkDate, subscript_of_not_obj noFields]
          rfl

/-- Membership in a number raises a `TypeError`. -/
theorem not_ingestTotal_number :
    ¬∀ (render : Json → Option String) (state : IngestState) (topic : IngestTopic)
      (payload : Decoded) (receivedAt : Instant),
      IngestTotal state (WellFormedPayload render topic payload)
        (state.ingest render topic payload receivedAt) := by
  intro always
  have total := always (fun _ => none) { bridge := Site.bridge [] [], unnamed := [] } .event
    (.value (.int 5)) (Site.time 0)
  cases total.returns

end PresenceLogger.Bridge
