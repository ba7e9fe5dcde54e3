import Mathlib.Data.List.Induction
import PresenceLogger.Bridge.Liveness

/-!
# The monitor's view of the children

`child_rollup` sums up the messages of each device.  Its state comes from the last online
and the last offline message, which it keeps apart, while `LivenessTracker` keeps the last
status only; the states they give agree.
-/

namespace PresenceLogger.Fleet

open Library Bridge

/-- `MqttMsg.kind` -/
inductive MsgKind where
  | record
  | heartbeat
  | status
  | ack
  | other
  deriving DecidableEq, Repr

/-- The fields of `MqttMsg` that the rollup reads. -/
structure MqttMsg where
  ts : ℚ
  kind : MsgKind
  deviceId : Option String
  raw : String
  deriving DecidableEq, Repr

/-- `_Acc`; the text of the last MK_DATE is its code points. -/
structure Acc where
  recordCount : Nat := 0
  lastRecordMk : Option (List Nat) := none
  lastHbAt : Option ℚ := none
  lastOnlineAt : Option ℚ := none
  lastOfflineAt : Option ℚ := none
  deriving DecidableEq, Repr

structure ChildStat where
  deviceId : String
  recordCount : Nat
  lastRecordMkDate : Option (List Nat)
  lastHeartbeatAge : Option ℚ
  state : DeviceState
  deriving DecidableEq, Repr

namespace Acc

/-- `_state` -/
def state (acc : Acc) (now timeout : ℚ) : DeviceState × Option ℚ :=
  let aliveAt := (acc.lastHbAt.toList ++ acc.lastOnlineAt.toList).max?
  let hbAge := acc.lastHbAt.map (elapsed now)
  if isNewest acc.lastOfflineAt aliveAt then (.offline, hbAge)
  else (aliveState now timeout aliveAt, if aliveAt.isSome then hbAge else none)

/-- `if at is None or ts > at: at = ts` -/
def later (instant : Option ℚ) (ts : ℚ) : Option ℚ :=
  if instant.all (· < ts) then some ts else instant

end Acc

section

variable (loads : String → Decoded) (render : Json → List Nat)

/-- The code points of `str(data)`; `render` gives those of floats, containers and strings
with surrogates. -/
def strCodes : Json → List Nat
  | .null => "None".toList.map Char.toNat
  | .bool value => (if value then "True" else "False").toList.map Char.toNat
  | .int value => (toString value).toList.map Char.toNat
  | .str value => value.toList.map Char.toNat
  | data => render data

/-- The MK_DATE of a record, if there is one to read. -/
def recordMk (raw : String) : Except PyError (Option (List Nat)) :=
  match loads raw with
  | .invalid => .ok none
  | .tooDeep => .error .recursionError
  | .value data =>
      match data.get "mk_date" with
      | .error _ | .ok .null => .ok none
      | .ok rawMk => .ok (some (strCodes render rawMk))

/-- What one message changes. -/
def Acc.add (acc : Acc) (msg : MqttMsg) : Except PyError Acc :=
  match msg.kind with
  | .record => do
      let mk ← recordMk loads render msg.raw
      let newest := mk.filter fun mk => mk ≠ [] ∧ acc.lastRecordMk.all (· < mk)
      return { acc with
        recordCount := acc.recordCount + 1
        lastRecordMk := newest.or acc.lastRecordMk }
  | .heartbeat => .ok { acc with lastHbAt := later acc.lastHbAt msg.ts }
  | .status =>
      let state := String.ofList (Text.strip msg.raw.toList)
      if state = "online" then .ok { acc with lastOnlineAt := later acc.lastOnlineAt msg.ts }
      else if state = "offline" then
        .ok { acc with lastOfflineAt := later acc.lastOfflineAt msg.ts }
      else .ok acc
  | .ack | .other => .ok acc

/-- One turn of the loop over the messages. -/
def addMsg (accs : Dict String Acc) (msg : MqttMsg) : Except PyError (Dict String Acc) :=
  match msg.deviceId with
  | none => .ok accs
  | some deviceId =>
      if deviceId = "" then .ok accs
      else do
        let acc ← ((accs.find deviceId).getD {}).add loads render msg
        return accs.set deviceId acc

def Acc.stat (now timeout : ℚ) (row : String × Acc) : ChildStat :=
  let (state, hbAge) := row.2.state now timeout
  { deviceId := row.1
    recordCount := row.2.recordCount
    lastRecordMkDate := row.2.lastRecordMk
    lastHeartbeatAge := hbAge.map roundTenth
    state := state }

def childRollup (msgs : List MqttMsg) (now heartbeatTimeout : ℚ) :
    Except PyError (List ChildStat) := do
  let accs ← msgs.foldlM (addMsg loads render) Table.empty
  return (accs.rows.map (Acc.stat now heartbeatTimeout)).insertionSort
    fun left right => left.deviceId ≤ right.deviceId

end

/-! ## The messages both sides see -/

/-- A status message or a heartbeat of a device. -/
inductive SignalContent where
  | online
  | offline
  | heartbeat (raw : String) (payload : List (String × Json))

structure Signal where
  device : DeviceId
  instant : ℚ
  content : SignalContent

namespace Signal

def isOnline (signal : Signal) : Bool := signal.content matches .online

def isOffline (signal : Signal) : Bool := signal.content matches .offline

def isHeartbeat (signal : Signal) : Bool := signal.content matches .heartbeat _ _

/-- A sign of life. -/
def isAlive (signal : Signal) : Bool := signal.isHeartbeat || signal.isOnline

/-- What the bridge's callbacks make of the message. -/
def track (tracker : LivenessTracker) (signal : Signal) : LivenessTracker :=
  match signal.content with
  | .online => tracker.recordStatus signal.device.text "online" signal.instant
  | .offline => tracker.recordStatus signal.device.text "offline" signal.instant
  | .heartbeat _ payload => tracker.recordHeartbeat signal.device.text payload signal.instant

/-- What the monitor's tail makes of the message. -/
def toMqttMsg (signal : Signal) : MqttMsg :=
  { ts := signal.instant
    kind := if signal.isHeartbeat then .heartbeat else .status
    deviceId := some signal.device.text
    raw := match signal.content with
      | .online => "online"
      | .offline => "offline"
      | .heartbeat raw _ => raw }

end Signal

/-- The tracker after the messages. -/
def trackAll (timeout : ℚ) (signals : List Signal) : LivenessTracker :=
  signals.foldl Signal.track { timeout := timeout }

/-- The messages of one device. -/
def ownSignals (signals : List Signal) (device : String) : List Signal :=
  signals.filter (·.device.text = device)

/-- The latest time of a message of the kind. -/
def latestAt (kind : Signal → Bool) (signals : List Signal) : Option ℚ :=
  ((signals.filter kind).map (·.instant)).max?

/-- The rule: offline if some offline message has no sign of life after it, otherwise by the
age of the latest sign of life. -/
def declaredState (signals : List Signal) (device : String) (now timeout : ℚ) : DeviceState :=
  let own := ownSignals signals device
  if ∃ offline ∈ own, offline.isOffline ∧
      ∀ alive ∈ own, alive.isAlive → ¬ offline.instant < alive.instant then .offline
  else aliveState now timeout (latestAt Signal.isAlive own)

/-! ## The latest of some messages -/

section Latest

variable {kind : Signal → Bool} {signals : List Signal} {instant : ℚ}

theorem latestAt_eq_some_iff : latestAt kind signals = some instant ↔
    (∃ signal ∈ signals, kind signal = true ∧ signal.instant = instant) ∧
      ∀ signal ∈ signals, kind signal = true → signal.instant ≤ instant := by
  simp only [latestAt, List.max?_eq_some_iff, List.mem_map, List.mem_filter, and_assoc]
  constructor
  · rintro ⟨among, largest⟩
    exact ⟨among, fun signal member counts => largest _ ⟨signal, member, counts, rfl⟩⟩
  · rintro ⟨among, largest⟩
    refine ⟨among, ?_⟩
    rintro _ ⟨signal, member, counts, rfl⟩
    exact largest signal member counts

theorem latestAt_eq_none_iff :
    latestAt kind signals = none ↔ ∀ signal ∈ signals, kind signal = false := by
  simp [latestAt]

@[simp] theorem later_none (ts : ℚ) : Acc.later none ts = some ts := rfl

@[simp] theorem later_some (instant ts : ℚ) :
    Acc.later (some instant) ts = some (max instant ts) := by
  simp only [Acc.later, Option.all_some, decide_eq_true_eq, max_def_lt]
  split <;> rfl

theorem max?_snoc (instants : List ℚ) (ts : ℚ) :
    (instants ++ [ts]).max? = Acc.later instants.max? ts := by
  cases instants with
  | nil => rfl
  | cons first instants =>
      rw [List.cons_append, List.max?_cons', List.max?_cons', List.foldl_append, later_some]
      rfl

theorem latestAt_snoc (signal : Signal) : latestAt kind (signals ++ [signal]) =
    if kind signal then Acc.later (latestAt kind signals) signal.instant
    else latestAt kind signals := by
  by_cases counts : kind signal = true
  · rw [if_pos counts, latestAt, latestAt, List.filter_append, List.map_append, ← max?_snoc]
    simp [counts]
  · simp [latestAt, counts]

/-- The latest sign of life is the later one of the latest heartbeat and the latest online
message. -/
theorem max?_latestAt (signals : List Signal) :
    ((latestAt Signal.isHeartbeat signals).toList ++
      (latestAt Signal.isOnline signals).toList).max? = latestAt Signal.isAlive signals := by
  induction signals using List.reverseRecOn with
  | nil => rfl
  | append_singleton signals signal ih =>
      rw [latestAt_snoc, latestAt_snoc, latestAt_snoc, ← ih]
      cases latestAt Signal.isHeartbeat signals <;> cases latestAt Signal.isOnline signals <;>
        cases content : signal.content <;>
        simp [Signal.isHeartbeat, Signal.isOnline, Signal.isAlive, content, max_comm,
          max_left_comm]

end Latest

/-- No sign of life comes after the latest offline message exactly when none comes after
some offline message. -/
theorem isNewest_latestAt (signals : List Signal) :
    isNewest (latestAt Signal.isOffline signals) (latestAt Signal.isAlive signals) = true ↔
      ∃ offline ∈ signals, offline.isOffline ∧
        ∀ alive ∈ signals, alive.isAlive → ¬ offline.instant < alive.instant := by
  simp only [isNewest, Option.any_eq_true, Option.all_eq_true, decide_eq_true_eq]
  constructor
  · rintro ⟨instant, latest, newest⟩
    obtain ⟨⟨offline, member, isOffline, rfl⟩, -⟩ := latestAt_eq_some_iff.mp latest
    refine ⟨offline, member, isOffline, fun alive among isAlive later => ?_⟩
    cases latestAlive : latestAt Signal.isAlive signals with
    | none =>
        rw [latestAt_eq_none_iff.mp latestAlive alive among] at isAlive
        cases isAlive
    | some last =>
        have bounded := (latestAt_eq_some_iff.mp latestAlive).2 alive among isAlive
        exact absurd later (not_lt.mpr (bounded.trans (newest last latestAlive)))
  · rintro ⟨offline, member, isOffline, newest⟩
    cases latest : latestAt Signal.isOffline signals with
    | none =>
        rw [latestAt_eq_none_iff.mp latest offline member] at isOffline
        cases isOffline
    | some instant =>
        refine ⟨instant, rfl, fun last latestAlive => ?_⟩
        obtain ⟨⟨alive, among, isAlive, rfl⟩, -⟩ := latestAt_eq_some_iff.mp latestAlive
        have bounded := (latestAt_eq_some_iff.mp latest).2 offline member isOffline
        exact (not_lt.mp (newest alive among isAlive)).trans bounded

/-! ## The two summaries -/

/-- The rollup's summary of the messages of a device. -/
structure Acc.Summarises (signals : List Signal) (acc : Acc) : Prop where
  heartbeat : acc.lastHbAt = latestAt Signal.isHeartbeat signals
  online : acc.lastOnlineAt = latestAt Signal.isOnline signals
  offline : acc.lastOfflineAt = latestAt Signal.isOffline signals

theorem Acc.state_fst (acc : Acc) (now timeout : ℚ) : (acc.state now timeout).1 =
    if isNewest acc.lastOfflineAt (acc.lastHbAt.toList ++ acc.lastOnlineAt.toList).max? then
      .offline
    else aliveState now timeout (acc.lastHbAt.toList ++ acc.lastOnlineAt.toList).max? := by
  rw [Acc.state]
  split <;> rfl

theorem Acc.Summarises.state {signals : List Signal} {device : String} {acc : Acc}
    (summarises : acc.Summarises (ownSignals signals device)) (now timeout : ℚ) :
    (acc.state now timeout).1 = declaredState signals device now timeout := by
  rw [Acc.state_fst, summarises.heartbeat, summarises.online, summarises.offline, max?_latestAt,
    declaredState]
  simp only [isNewest_latestAt]

/-- The tracker's summary of a device beside the rollup's: its last status is the later one
of the last online and the last offline message. -/
inductive SameStatus (device : Device) (acc : Acc) : Prop
  | none (noStatus : device.lastStatus = none) (noOnline : acc.lastOnlineAt = none)
      (noOffline : acc.lastOfflineAt = none)
  | online {instant : ℚ} (last : device.lastStatus = some .online)
      (lastAt : device.lastStatusAt = some instant) (onlineAt : acc.lastOnlineAt = some instant)
      (before : ∀ offline ∈ acc.lastOfflineAt, offline < instant)
  | offline {instant : ℚ} (last : device.lastStatus = some .offline)
      (lastAt : device.lastStatusAt = some instant) (offlineAt : acc.lastOfflineAt = some instant)
      (before : ∀ online ∈ acc.lastOnlineAt, online < instant)

structure Simulates (device : Device) (acc : Acc) : Prop where
  heartbeat : device.lastHbAt = acc.lastHbAt
  status : SameStatus device acc

theorem state_fst (device : Device) (now timeout : ℚ) : (device.state now timeout).1 =
    if device.lastStatus = some .offline ∧ isNewest device.lastStatusAt device.aliveAt then
      .offline
    else aliveState now timeout device.aliveAt := by
  rw [Device.state]
  split <;> rfl

theorem Simulates.state {device : Device} {acc : Acc} (simulates : Simulates device acc)
    (now timeout : ℚ) : (device.state now timeout).1 = (acc.state now timeout).1 := by
  rw [state_fst, Acc.state_fst, Device.aliveAt, simulates.heartbeat]
  cases simulates.status with
  | none noStatus noOnline noOffline => simp [noStatus, noOnline, noOffline, isNewest]
  | @online instant last lastAt onlineAt before =>
      -- An online message after every offline one is a sign of life after it.
      have notNewest (alive : Option ℚ) :
          isNewest acc.lastOfflineAt ((alive.toList ++ [instant]).max?) = false := by
        cases offline : acc.lastOfflineAt with
        | none => rfl
        | some offlineAt =>
            have earlier := before offlineAt offline
            cases alive <;> simp [isNewest, earlier]
      simp [last, lastAt, notNewest, onlineAt]
  | @offline instant last lastAt offlineAt before =>
      -- The last online message comes before the offline one, so heartbeats decide.
      cases online : acc.lastOnlineAt with
      | none => simp [last, lastAt, offlineAt]
      | some onlineAt =>
          have earlier := before onlineAt online
          cases acc.lastHbAt with
          | none => simp [last, lastAt, offlineAt, isNewest, earlier.le]
          | some heartbeat =>
              by_cases newest : heartbeat ≤ instant
              · simp [last, lastAt, offlineAt, isNewest, earlier.le, newest]
              · have order : onlineAt ≤ heartbeat := (earlier.trans (not_le.mp newest)).le
                simp [last, lastAt, offlineAt, isNewest, newest, order]

/-! ## One message -/

/-- What the tracker changes of a device. -/
def Signal.onDevice (signal : Signal) (device : Device) : Device :=
  match signal.content with
  | .online => { device with lastStatus := some .online, lastStatusAt := some signal.instant }
  | .offline => { device with lastStatus := some .offline, lastStatusAt := some signal.instant }
  | .heartbeat _ payload =>
      { device with lastHbAt := some signal.instant, lastHbPayload := some payload }

theorem Signal.track_eq (tracker : LivenessTracker) (signal : Signal) :
    signal.track tracker = tracker.modify signal.device.text signal.onDevice := by
  cases content : signal.content <;>
    simp [Signal.track, content, LivenessTracker.recordStatus, LivenessTracker.recordHeartbeat,
      LivenessTracker.modify, Signal.onDevice]

/-- What the rollup changes of a summary. -/
def Signal.onAcc (signal : Signal) (acc : Acc) : Acc :=
  match signal.content with
  | .online => { acc with lastOnlineAt := Acc.later acc.lastOnlineAt signal.instant }
  | .offline => { acc with lastOfflineAt := Acc.later acc.lastOfflineAt signal.instant }
  | .heartbeat _ _ => { acc with lastHbAt := Acc.later acc.lastHbAt signal.instant }

section

variable (loads : String → Decoded) (render : Json → List Nat)

theorem Acc.add_toMqttMsg (acc : Acc) (signal : Signal) :
    acc.add loads render signal.toMqttMsg = .ok (signal.onAcc acc) := by
  have onlineText : String.ofList (Text.strip "online".toList) = "online" := by decide +kernel
  have offlineText : String.ofList (Text.strip "offline".toList) = "offline" := by decide +kernel
  cases content : signal.content with
  | online =>
      simp only [Acc.add, Signal.toMqttMsg, Signal.isHeartbeat, content, onlineText, Signal.onAcc]
      rfl
  | offline =>
      simp only [Acc.add, Signal.toMqttMsg, Signal.isHeartbeat, content, offlineText, Signal.onAcc]
      rfl
  | heartbeat raw payload =>
      simp [Acc.add, Signal.toMqttMsg, Signal.isHeartbeat, content, Signal.onAcc]

theorem addMsg_toMqttMsg (accs : Dict String Acc) (signal : Signal) :
    addMsg loads render accs signal.toMqttMsg =
      .ok (accs.set signal.device.text
        (signal.onAcc ((accs.find signal.device.text).getD {}))) := by
  change (if signal.device.text = "" then _ else _) = _
  rw [if_neg signal.device.nonempty, Acc.add_toMqttMsg]
  rfl

end

theorem Acc.Summarises.onSignal {signals : List Signal} {acc : Acc}
    (summarises : acc.Summarises signals) (signal : Signal) :
    (signal.onAcc acc).Summarises (signals ++ [signal]) := by
  constructor <;> rw [latestAt_snoc] <;> cases content : signal.content <;>
    simp [Signal.onAcc, content, Signal.isHeartbeat, Signal.isOnline, Signal.isOffline,
      summarises.heartbeat, summarises.online, summarises.offline]

theorem later_of_before {last : Option ℚ} {ts : ℚ} (before : ∀ instant ∈ last, instant < ts) :
    Acc.later last ts = some ts := by
  cases last with
  | none => rfl
  | some instant => rw [later_some, max_eq_right (before instant rfl).le]

theorem Simulates.onSignal {device : Device} {acc : Acc} {signal : Signal}
    (simulates : Simulates device acc)
    (heartbeats : ∀ instant ∈ acc.lastHbAt, instant < signal.instant)
    (onlines : ∀ instant ∈ acc.lastOnlineAt, instant < signal.instant)
    (offlines : ∀ instant ∈ acc.lastOfflineAt, instant < signal.instant) :
    Simulates (signal.onDevice device) (signal.onAcc acc) := by
  cases content : signal.content with
  | online =>
      simp only [Signal.onDevice, Signal.onAcc, content, later_of_before onlines]
      exact ⟨simulates.heartbeat, .online rfl rfl rfl offlines⟩
  | offline =>
      simp only [Signal.onDevice, Signal.onAcc, content, later_of_before offlines]
      exact ⟨simulates.heartbeat, .offline rfl rfl rfl onlines⟩
  | heartbeat raw payload =>
      simp only [Signal.onDevice, Signal.onAcc, content, later_of_before heartbeats]
      refine ⟨rfl, ?_⟩
      cases simulates.status with
      | none noStatus noOnline noOffline => exact .none noStatus noOnline noOffline
      | online last lastAt onlineAt before => exact .online last lastAt onlineAt before
      | offline last lastAt offlineAt before => exact .offline last lastAt offlineAt before

/-! ## Every sequence of messages -/

/-- Both dictionaries after the messages. -/
structure Agree (signals : List Signal) (devices : Dict String Device) (accs : Dict String Acc) :
    Prop where
  keys : devices.rows.map Prod.fst = accs.rows.map Prod.fst
  heard : ∀ device, device ∈ accs.rows.map Prod.fst ↔
    ∃ signal ∈ signals, signal.device.text = device
  simulates : ∀ device, Simulates ((devices.find device).getD {}) ((accs.find device).getD {})
  summarises : ∀ device, ((accs.find device).getD {}).Summarises (ownSignals signals device)

theorem agree_nil : Agree [] Table.empty Table.empty where
  keys := rfl
  heard := by simp [Table.empty]
  simulates := fun _ => ⟨rfl, .none rfl rfl rfl⟩
  summarises := fun _ => ⟨rfl, rfl, rfl⟩

theorem latestAt_before {kind : Signal → Bool} {signals : List Signal} {ts : ℚ}
    (before : ∀ signal ∈ signals, signal.instant < ts) (device : String) :
    ∀ instant ∈ latestAt kind (ownSignals signals device), instant < ts := by
  intro instant latest
  obtain ⟨⟨signal, own, -, rfl⟩, -⟩ := latestAt_eq_some_iff.mp latest
  exact before signal (List.mem_filter.mp own).1

theorem Agree.snoc {signals : List Signal} {devices : Dict String Device} {accs : Dict String Acc}
    (agree : Agree signals devices accs) {signal : Signal}
    (before : ∀ earlier ∈ signals, earlier.instant < signal.instant) :
    Agree (signals ++ [signal])
      (devices.set signal.device.text
        (signal.onDevice ((devices.find signal.device.text).getD {})))
      (accs.set signal.device.text (signal.onAcc ((accs.find signal.device.text).getD {}))) where
  keys := by rw [Dict.map_fst_set, Dict.map_fst_set, agree.keys]
  heard := by
    intro device
    rw [Dict.map_fst_set]
    split
    next present =>
      constructor
      · intro known
        obtain ⟨other, member, same⟩ := (agree.heard device).mp known
        exact ⟨other, List.mem_append_left _ member, same⟩
      · rintro ⟨other, member, rfl⟩
        rcases List.mem_append.mp member with earlier | last
        · exact (agree.heard _).mpr ⟨other, earlier, rfl⟩
        · rwa [List.mem_singleton.mp last]
    next fresh => simp [agree.heard, or_and_right, exists_or, eq_comm]
  simulates := by
    intro device
    rw [Dict.find_set, Dict.find_set]
    split
    next here =>
      subst here
      have summary := agree.summarises signal.device.text
      apply (agree.simulates signal.device.text).onSignal
      · exact summary.heartbeat ▸ latestAt_before before _
      · exact summary.online ▸ latestAt_before before _
      · exact summary.offline ▸ latestAt_before before _
    next => exact agree.simulates device
  summarises := by
    intro device
    rw [Dict.find_set]
    split
    next here =>
      subst here
      have own : ownSignals (signals ++ [signal]) signal.device.text =
          ownSignals signals signal.device.text ++ [signal] := by
        simp [ownSignals]
      rw [own]
      exact (agree.summarises _).onSignal signal
    next other =>
      have own : ownSignals (signals ++ [signal]) device = ownSignals signals device := by
        simp [ownSignals, other]
      rw [own]
      exact agree.summarises device

section

variable (loads : String → Decoded) (render : Json → List Nat)

theorem exists_agree (timeout : ℚ) {signals : List Signal}
    (increasing : signals.Pairwise (·.instant < ·.instant)) :
    ∃ accs, (signals.map Signal.toMqttMsg).foldlM (addMsg loads render) Table.empty = .ok accs ∧
      Agree signals (trackAll timeout signals).devices accs ∧
      (trackAll timeout signals).timeout = timeout := by
  induction signals using List.reverseRecOn with
  | nil => exact ⟨_, rfl, agree_nil, rfl⟩
  | append_singleton signals signal ih =>
      rw [List.pairwise_append] at increasing
      obtain ⟨accs, sums, agree, sameTimeout⟩ := ih increasing.1
      have tracked : trackAll timeout (signals ++ [signal]) =
          (trackAll timeout signals).modify signal.device.text signal.onDevice := by
        rw [trackAll, List.foldl_append, ← trackAll, ← Signal.track_eq]
        rfl
      have before (earlier : Signal) (member : earlier ∈ signals) :
          earlier.instant < signal.instant :=
        increasing.2.2 earlier member signal (.head _)
      rw [tracked]
      refine ⟨_, ?_, agree.snoc before, sameTimeout⟩
      rw [List.map_append, List.foldlM_append, sums]
      change (do addMsg loads render accs signal.toMqttMsg) >>= pure = _
      rw [bind_pure, addMsg_toMqttMsg]

/-- The declared states of the devices, in the order of their ids. -/
def declared (signals : List Signal) (devices : List String) (now timeout : ℚ) :
    List (String × DeviceState) :=
  (devices.map fun device => (device, declaredState signals device now timeout)).insertionSort
    fun left right => left.1 ≤ right.1

/-- Sorted items with the declared states. -/
theorem map_insertionSort_eq_declared {signals : List Signal} {α : Type} {deviceId : α → String}
    {state : α → DeviceState} {items : List α} {now timeout : ℚ}
    (each : ∀ item ∈ items, state item = declaredState signals (deviceId item) now timeout) :
    (items.insertionSort fun left right => deviceId left ≤ deviceId right).map
        (fun item => (deviceId item, state item)) =
      declared signals (items.map deviceId) now timeout := by
  have pairs : items.map (fun item => (deviceId item, state item)) =
      (items.map deviceId).map fun device =>
        (device, declaredState signals device now timeout) := by
    rw [List.map_map]
    exact List.map_congr_left fun item member => by simp [each item member]
  rw [declared, ← pairs]
  exact List.map_insertionSort _ _ _ _ fun _ _ _ _ => Iff.rfl

theorem Agree.state_acc {signals : List Signal} {devices : Dict String Device}
    {accs : Dict String Acc} (agree : Agree signals devices accs) {row : String × Acc}
    (member : row ∈ accs.rows) (now timeout : ℚ) :
    (row.2.state now timeout).1 = declaredState signals row.1 now timeout := by
  have summary := agree.summarises row.1
  rw [Dict.find_eq_some_iff.mpr member, Option.getD_some] at summary
  exact summary.state now timeout

theorem Agree.state_device {signals : List Signal} {devices : Dict String Device}
    {accs : Dict String Acc} (agree : Agree signals devices accs) {row : String × Device}
    (member : row ∈ devices.rows) (now timeout : ℚ) :
    (row.2.state now timeout).1 = declaredState signals row.1 now timeout := by
  have simulates := agree.simulates row.1
  rw [Dict.find_eq_some_iff.mpr member, Option.getD_some] at simulates
  rw [simulates.state]
  exact (agree.summarises row.1).state now timeout

end

end PresenceLogger.Fleet
