import PresenceLogger.Bridge.Runs
import PresenceLogger.Library.Json

/-!
# Payloads of events and records

`parse_event_payload` and `parse_record_payload` on the decoded body of a message.
Values that are not converted are kept as JSON has them; a text is `none` where it
has lone surrogates.
-/

namespace PresenceLogger.Bridge

open Library

/-- `REQUIRED_PAYLOAD_KEYS` -/
def requiredPayloadKeys : List String :=
  ["event_id", "event", "monotonic_ns", "wall_clock_synced", "device_id", "schema_version"]

/-- `REQUIRED_RECORD_KEYS` -/
def requiredRecordKeys : List String :=
  ["event_id", "mk_date", "sta_no1", "sta_no2", "sta_no3", "t1_status", "schema_version"]

/-- `[k for k in keys if k not in data]` -/
def missingKeys (data : Json) : List String → Except PyError (List String)
  | [] => .ok []
  | key :: keys => do
      let present ← data.contains key
      let missing ← missingKeys data keys
      return if present then missing else key :: missing

/-- The `EventPayload` of the source. -/
structure ParsedEvent where
  eventId : Json
  eventType : Json
  mkDate : Json
  eventTimeIso : Json
  monotonicNs : Int
  wallClockSynced : Bool
  deviceId : Json
  score : Json
  schemaVersion : Int

/-- The fields of an event in the order in which they are read. -/
def readEvent (data : Json) : Except PyError ParsedEvent := do
  let eventId ← data.subscript "event_id"
  let eventType ← data.subscript "event"
  let mkDate ← data.get "event_time"
  let eventTimeIso ← data.get "event_time_iso"
  let monotonicNs ← (← data.subscript "monotonic_ns").toInt
  let wallClockSynced := (← data.subscript "wall_clock_synced").truthy
  let deviceId ← data.subscript "device_id"
  let score ← data.get "score"
  let schemaVersion ← (← data.subscript "schema_version").toInt
  return {
    eventId := eventId
    eventType := eventType
    mkDate := mkDate
    eventTimeIso := eventTimeIso
    monotonicNs := monotonicNs
    wallClockSynced := wallClockSynced
    deviceId := deviceId
    score := score
    schemaVersion := schemaVersion }

def parseEventPayload : Decoded → Except PyError ParsedEvent
  | .invalid => .error .valueError
  | .tooDeep => .error .recursionError
  | .value data => do
      let missing ← missingKeys data requiredPayloadKeys
      if missing ≠ [] then .error .valueError else readEvent data

/-- The `RecordPayload` of the source. -/
structure ParsedRecord where
  eventId : Option String
  mkDate : String
  staNo1 : Option String
  staNo2 : Option String
  staNo3 : Option String
  t1Status : Int
  deviceId : Option (Option String)
  schemaVersion : Int
  deriving DecidableEq, Repr

/-- `except (TypeError, ValueError)`; any other exception passes. -/
def asValueError {α : Type} : Except PyError α → Except PyError α
  | .error .typeError => .error .valueError
  | outcome => outcome

section Record

variable (render : Json → Option String)

/-- The date, which has to match `_MK_DATE_RE`. -/
def readMkDate (data : Json) : Except PyError String := do
  let mkDate ← data.subscript "mk_date"
  match (mkDate.pyStr render).filter fun text => Text.matchesDigits 14 text.toList with
  | none => .error .valueError
  | some mkDate => .ok mkDate

/-- `str(...) if data.get("device_id") is not None else None` -/
def readDeviceId : Json → Option (Option String)
  | .null => none
  | value => some (value.pyStr render)

/-- The fields of a record in the order in which they are read. -/
def readRecord (data : Json) : Except PyError ParsedRecord := do
  let mkDate ← readMkDate render data
  let t1Status ← asValueError ((data.subscript "t1_status").bind Json.toInt)
  let schemaVersion ← asValueError ((data.subscript "schema_version").bind Json.toInt)
  let eventId ← data.subscript "event_id"
  let staNo1 ← data.subscript "sta_no1"
  let staNo2 ← data.subscript "sta_no2"
  let staNo3 ← data.subscript "sta_no3"
  let deviceId ← data.get "device_id"
  return {
    eventId := eventId.pyStr render
    mkDate := mkDate
    staNo1 := staNo1.pyStr render
    staNo2 := staNo2.pyStr render
    staNo3 := staNo3.pyStr render
    t1Status := t1Status
    deviceId := readDeviceId render deviceId
    schemaVersion := schemaVersion }

def parseRecordPayload : Decoded → Except PyError ParsedRecord
  | .invalid => .error .valueError
  | .tooDeep => .error .recursionError
  | .value data => do
      let missing ← missingKeys data requiredRecordKeys
      if missing ≠ [] then .error .valueError else readRecord render data

end Record

/-- A `device_id` that SQLite takes. -/
def storableDeviceId : Option (Option String) → Option (Option String)
  | none => some none
  | some text => text.map some

/-- The record as the inbox can store it: SQLite takes no text with surrogates. -/
def ParsedRecord.storable (parsed : ParsedRecord) : Option RecordPayload := do
  let eventId ← parsed.eventId
  let staNo1 ← parsed.staNo1
  let staNo2 ← parsed.staNo2
  let staNo3 ← parsed.staNo3
  let deviceId ← storableDeviceId parsed.deviceId
  return {
    eventId := eventId
    mkDate := parsed.mkDate
    staNo1 := staNo1
    staNo2 := staNo2
    staNo3 := staNo3
    t1Status := parsed.t1Status
    deviceId := deviceId }

/-! ## What is accepted -/

/-- Members of an object are looked up without an exception. -/
theorem missingKeys_obj (fields : List (String × Json)) (keys : List String) :
    missingKeys (.obj fields) keys =
      .ok (keys.filter fun key => !fields.any fun entry => entry.1 = key) := by
  induction keys with
  | nil => rfl
  | cons key keys ih =>
      rw [missingKeys, ih, List.filter_cons]
      simp only [Json.contains, bind, Except.bind, pure, Except.pure]
      cases fields.any fun entry => entry.1 = key <;> rfl

theorem matchesDigits_of_readMkDate {render : Json → Option String} {data : Json}
    {mkDate : String} (accepted : readMkDate render data = .ok mkDate) :
    Text.matchesDigits 14 mkDate.toList = true := by
  rcases ok_of_bind accepted with ⟨value, -, read⟩
  split at read
  · cases read
  next matched =>
    cases read
    exact (Option.filter_eq_some_iff.mp matched).2

/-- An accepted record has a date of fourteen digits. -/
theorem matchesDigits_of_parseRecordPayload {render : Json → Option String} {payload : Decoded}
    {parsed : ParsedRecord} (accepted : parseRecordPayload render payload = .ok parsed) :
    Text.matchesDigits 14 parsed.mkDate.toList = true := by
  cases payload with
  | invalid => cases accepted
  | tooDeep => cases accepted
  | value data =>
      rcases ok_of_bind accepted with ⟨missing, -, read⟩
      split at read
      · cases read
      · rcases ok_of_bind read with ⟨mkDate, dated, read⟩
        rcases ok_of_bind read with ⟨t1Status, -, read⟩
        rcases ok_of_bind read with ⟨schemaVersion, -, read⟩
        rcases ok_of_bind read with ⟨eventId, -, read⟩
        rcases ok_of_bind read with ⟨staNo1, -, read⟩
        rcases ok_of_bind read with ⟨staNo2, -, read⟩
        rcases ok_of_bind read with ⟨staNo3, -, read⟩
        rcases ok_of_bind read with ⟨deviceId, -, read⟩
        cases read
        exact matchesDigits_of_readMkDate dated

end PresenceLogger.Bridge
