import Mathlib.Data.Rat.Lemmas
import PresenceLogger.Library.Dict
import PresenceLogger.Library.Json

/-!
# Liveness of the children

`LivenessTracker` keeps the last status and the last heartbeat of each device and makes a
state of them.  A float is the rational it stands for; differences are rounded to a double.
-/

namespace PresenceLogger.Bridge

open Library

/-- What `device_id_from_topic` returns: a device id is not empty. -/
structure DeviceId where
  text : String
  nonempty : text ≠ ""
  deriving DecidableEq, Repr

def deviceIdFromTopic (topic start : String) : Option DeviceId :=
  let suffix := String.ofList (topic.toList.drop start.length)
  if accepted : start.toList <+: topic.toList ∧ suffix ≠ "" then some ⟨suffix, accepted.2⟩
  else none

/-- The effective state of a device. -/
inductive DeviceState where
  | online
  | stale
  | offline
  | unknown
  deriving DecidableEq, Repr

/-- `ONLINE` and `OFFLINE` -/
inductive DeviceStatus where
  | online
  | offline
  deriving DecidableEq, Repr

/-- `now - at` -/
def elapsed (now instant : ℚ) : ℚ := nearestDouble (now - instant)

/-- `round(seconds, 1)` -/
def roundTenth (seconds : ℚ) : ℚ := nearestDouble (roundHalfEven (seconds * 10) / 10)

/-- The offline signal is there and no sign of life is after it. -/
def isNewest (offlineAt aliveAt : Option ℚ) : Bool :=
  offlineAt.any fun offline => aliveAt.all fun alive => alive ≤ offline

/-- The state by the age of the last sign of life. -/
def aliveState (now timeout : ℚ) : Option ℚ → DeviceState
  | some alive => if elapsed now alive ≤ timeout then .online else .stale
  | none => .unknown

/-- `_Device` -/
structure Device where
  lastStatus : Option DeviceStatus := none
  lastStatusAt : Option ℚ := none
  lastHbAt : Option ℚ := none
  lastHbPayload : Option (List (String × Json)) := none

namespace Device

/-- `_alive_at` -/
def aliveAt (device : Device) : Option ℚ :=
  (device.lastHbAt.toList ++
    if device.lastStatus = some .online then device.lastStatusAt.toList else []).max?

/-- `_state` -/
def state (device : Device) (now timeout : ℚ) : DeviceState × Option ℚ :=
  if device.lastStatus = some .offline ∧ isNewest device.lastStatusAt device.aliveAt then
    (.offline, none)
  else (aliveState now timeout device.aliveAt, device.aliveAt.map (elapsed now))

end Device

structure LivenessTracker where
  timeout : ℚ
  devices : Dict String Device := Table.empty

/-- An entry of `snapshot`. -/
structure DeviceReport where
  deviceId : String
  state : DeviceState
  ageSeconds : Option ℚ
  lastHeartbeat : Option (List (String × Json))

namespace LivenessTracker

/-- `self._devices.setdefault(device_id, _Device())` and an assignment to its fields -/
def modify (tracker : LivenessTracker) (deviceId : String) (change : Device → Device) :
    LivenessTracker :=
  { tracker with
    devices := tracker.devices.set deviceId (change ((tracker.devices.find deviceId).getD {})) }

def recordStatus (tracker : LivenessTracker) (deviceId status : String) (now : ℚ) :
    LivenessTracker :=
  let status := if status = "online" then DeviceStatus.online else .offline
  tracker.modify deviceId fun device =>
    { device with lastStatus := some status, lastStatusAt := some now }

def recordHeartbeat (tracker : LivenessTracker) (deviceId : String)
    (payload : List (String × Json)) (now : ℚ) : LivenessTracker :=
  tracker.modify deviceId fun device =>
    { device with lastHbAt := some now, lastHbPayload := some payload }

def report (tracker : LivenessTracker) (now : ℚ) (row : String × Device) : DeviceReport :=
  let (state, age) := row.2.state now tracker.timeout
  { deviceId := row.1
    state := state
    ageSeconds := age.map roundTenth
    lastHeartbeat := row.2.lastHbPayload }

def snapshot (tracker : LivenessTracker) (now : ℚ) : List DeviceReport :=
  (tracker.devices.rows.map (tracker.report now)).insertionSort
    fun left right => left.deviceId ≤ right.deviceId

end LivenessTracker

end PresenceLogger.Bridge
