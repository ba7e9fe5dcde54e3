import PresenceLogger.Fleet.ChildrenConf
import PresenceLogger.Fleet.RemoteScripts
import PresenceLogger.Library.Ipv4
import PresenceLogger.Library.Report

/-!
# Where a child sends its records

A child that joins the hub is given the hub's address: in its JSON file, and in the
environment of the process that sends.  A script on the child writes both, starts the process
anew and reports what it reads afterwards; the hub decides by the report alone.
-/

namespace PresenceLogger.Fleet.SendTarget

open Library Library.Text Library.Ipv4 Library.Report

def service : String := "child-csv-to-mqtt"

/-- `PROC_ENV` of an environment that is read, and of one that is not. -/
def envOk : List Char := "ok".toList

def envUnreadable : List Char := "unreadable".toList

/-- `systemctl is-active` of a service that runs. -/
def active : List Char := "active".toList

/-! ## The address of the hub -/

/-- What `ipaddress` takes for an octet. -/
def isOctet (part : List Char) : Bool :=
  part ≠ [] && part.all Char.isDigit && part.length ≤ 3 &&
    (part = ['0'] || part.head? ≠ some '0') && decimal part ≤ 255

/-- `_check_ipv4` -/
def checkIpv4 (value : List Char) : Bool :=
  (value.splitOn '.').length = 4 && (value.splitOn '.').all isOctet

/-- The value without a pair of quotes around it. -/
def unquoted (value : List Char) : List Char :=
  match value with
  | '"' :: rest => if rest.getLast? = some '"' then rest.dropLast else value
  | '\'' :: rest => if rest.getLast? = some '\'' then rest.dropLast else value
  | _ => value

def gwPrefix : List Char := "AP_GW_IP=".toList

/-- The loop over the lines of `site.env` in `load_ap_gw_ip`. -/
def gwValue (siteEnv : List Char) : List Char :=
  (splitLines (universalNewlines siteEnv)).foldl (fun value line =>
    if gwPrefix.isPrefixOf line then unquoted (strip (line.drop gwPrefix.length)) else value) []

/-- `load_ap_gw_ip` of a file that may be missing; the value that is no address is what the
`ValueError` names. -/
def loadApGwIp : Option (List Char) → Except (List Char) (List Char)
  | none => .ok defaultGw
  | some siteEnv =>
      let value := gwValue siteEnv
      if value = [] then .ok defaultGw
      else if checkIpv4 value then .ok value
      else .error value

/-- `ip_in_subnet`, of a hub's address that has been checked. -/
def ipInSubnet (ip gw : List Char) (bits : Nat) : Bool :=
  checkIpv4 ip && checkIpv4 gw && Ipv4.value ip / 2 ^ (32 - bits) = Ipv4.value gw / 2 ^ (32 - bits)

/-! ## The script on the child -/

inductive JoinProfile where
  | absent
  | ok
  | quoted
  deriving DecidableEq

def JoinProfile.text : JoinProfile → List Char
  | .absent => "absent".toList
  | .ok => "ok".toList
  | .quoted => "quoted".toList

/-- What the commands of the script come back with. -/
structure Replies where
  /-- `python3` has written the JSON file. -/
  rewritten : Bool
  dropinSet : Bool
  pidBefore : List Char
  reloaded : Bool
  restarted : Bool
  /-- `MainPID` and the environment of that process, at each try. -/
  tries : Nat → List Char × List Char
  hostNow : List Char
  envNow : List Char
  activeNow : List Char
  joinProfile : JoinProfile

/-- `case "$pid_now" in ''|*[!0-9]*) pid_now=0 ;; esac` -/
def pidOf (reply : List Char) : List Char :=
  if reply = [] ∨ ¬reply.all Char.isDigit then ['0'] else reply

/-- `[ "$pid_now" -ne 0 ] && [ "$pid_now" != "$pid_before" ]` -/
def isNewPid (before pid : List Char) : Bool :=
  decimal pid ≠ 0 && decimal pid < 2 ^ 63 && pid ≠ before

/-- At this try there is another process, and its environment is read. -/
def Replies.Shows (replies : Replies) (i : Nat) : Prop :=
  isNewPid replies.pidBefore (pidOf (replies.tries i).1) = true ∧ (replies.tries i).2 ≠ []

instance (replies : Replies) (i : Nat) : Decidable (replies.Shows i) :=
  inferInstanceAs (Decidable (_ ∧ _))

def hostPrefix : List Char := "MQTT_HOST=".toList

/-- `tr '\0' '\n' | grep '^MQTT_HOST=' | tail -n 1 | cut -d= -f2-` -/
def mqttHost (environ : List Char) : List Char :=
  let lines := (environ.map fun char => if char.toNat = 0 then '\n' else char).splitOn '\n'
  match (lines.filter (hostPrefix.isPrefixOf ·)).getLast? with
  | some line => line.drop hostPrefix.length
  | none => []

/-- `pid_now`, `proc_env` and `proc_host` -/
structure Seen where
  pid : List Char
  env : List Char
  host : List Char

/-- The loop over the tries, where so many are left. -/
def watch (replies : Replies) (pid : List Char) : Nat → Nat → Seen
  | 0, _ => ⟨pid, envUnreadable, []⟩
  | left + 1, i =>
      let pid := pidOf (replies.tries i).1
      if replies.Shows i then ⟨pid, envOk, mqttHost (replies.tries i).2⟩
      else watch replies pid left (i + 1)

/-- `_RESTART_WAIT_TRIES` -/
def restartWaitTries : Nat := 10

def Replies.seen (replies : Replies) : Seen := watch replies ['0'] restartWaitTries 0

def alignError (text : String) : Field := ⟨"ALIGN_ERROR".toList, text.toList⟩

def pidBeforeField (replies : Replies) : Field := ⟨"PID_BEFORE".toList, replies.pidBefore⟩

/-- What the script prints after the restart. -/
def readbackFields (replies : Replies) : List Field := [
  ⟨"PID_NOW".toList, replies.seen.pid⟩,
  ⟨"PROC_ENV".toList, replies.seen.env⟩,
  ⟨"PROC_MQTT_HOST".toList, replies.seen.host⟩,
  ⟨"HOST_NOW".toList, replies.hostNow⟩,
  ⟨"ENV_NOW".toList, replies.envNow⟩,
  ⟨"ACTIVE_NOW".toList, replies.activeNow⟩,
  ⟨"JOIN_PROFILE".toList, replies.joinProfile.text⟩]

/-- The lines that `align_remote_script` prints. -/
def alignFields (replies : Replies) : List Field :=
  if ¬replies.rewritten then
    [alignError "send_target_config.json を書き換えられません(壊れているか読めません)"]
  else if ¬replies.dropinSet then [alignError "drop-in を更新できません"]
  else
    pidBeforeField replies ::
      if ¬replies.reloaded then [alignError "systemctl daemon-reload に失敗しました"]
      else if ¬replies.restarted then
        [alignError ("systemctl restart " ++ service ++ " に失敗しました")]
      else readbackFields replies

def alignOutput (replies : Replies) : List Char := print (alignFields replies)

/-! ## The verdict of the hub -/

/-- The values of `parse_align_output`. -/
structure Readback where
  hostNow : List Char
  envNow : List Char
  activeNow : List Char
  joinProfile : List Char
  alignError : List Char
  pidBefore : List Char
  pidNow : List Char
  procEnv : List Char
  procMqttHost : List Char

def parseAlignOutput (text : List Char) : Readback where
  hostNow := lastValue text "HOST_NOW".toList
  envNow := lastValue text "ENV_NOW".toList
  activeNow := lastValue text "ACTIVE_NOW".toList
  joinProfile := lastValue text "JOIN_PROFILE".toList
  alignError := lastValue text "ALIGN_ERROR".toList
  pidBefore := lastValue text "PID_BEFORE".toList
  pidNow := lastValue text "PID_NOW".toList
  procEnv := lastValue text "PROC_ENV".toList
  procMqttHost := lastValue text "PROC_MQTT_HOST".toList

/-- `str.isdigit` of a character that is no decimal digit. -/
def otherDigits : List (Nat × Nat) :=
  [(0xb2, 0xb3), (0xb9, 0xb9), (0x1369, 0x1371), (0x19da, 0x19da), (0x2070, 0x2070),
    (0x2074, 0x2079), (0x2080, 0x2089), (0x2460, 0x2468), (0x2474, 0x247c), (0x2488, 0x2490),
    (0x24ea, 0x24ea), (0x24f5, 0x24fd), (0x24ff, 0x24ff), (0x2776, 0x277e), (0x2780, 0x2788),
    (0x278a, 0x2792), (0x10a40, 0x10a43), (0x10e60, 0x10e68), (0x11052, 0x1105a),
    (0x1f100, 0x1f10a)]

/-- `text.isdigit()` -/
def isDigits (text : List Char) : Bool :=
  text ≠ [] && text.all fun char =>
    (decimalValue char).isSome ||
      otherDigits.any fun range => range.1 ≤ char.toNat && char.toNat ≤ range.2

/-- `pid_now.isdigit() and int(pid_now) != 0 and pid_now != pid_before`, with `none` for a
`ValueError`. -/
def isRestarted (pidNow pidBefore : List Char) : Option Bool :=
  if isDigits pidNow then
    (parseInt pidNow).map fun number => number ≠ 0 && pidNow ≠ pidBefore
  else some false

/-- The text, or another for one that is empty. -/
def textOr (text : List Char) (other : String) : String :=
  if text = [] then other else .ofList text

/-- What is wrong with the process that sends. -/
def processProblems (gw : List Char) (r : Readback) (restarted : Bool) : List String :=
  if ¬restarted then
    [service ++ " が再起動されていません(MainPID " ++ textOr r.pidBefore "不明" ++ " → " ++
      textOr r.pidNow "不明" ++ ")。旧プロセスが旧い送り先のまま動いている恐れがあります"]
  else if r.procEnv ≠ envOk then
    ["新しいプロセス(PID " ++ .ofList r.pidNow ++ ")の環境を読めませんでした"]
  else if gw = defaultGw then
    if r.procMqttHost ≠ [] ∧ r.procMqttHost ≠ defaultGw then
      ["実プロセスの MQTT_HOST=" ++ .ofList r.procMqttHost ++ " が残っています(既定 " ++
        .ofList defaultGw ++ " に戻る想定)"]
    else []
  else if r.procMqttHost ≠ gw then
    ["実プロセスの MQTT_HOST が " ++ .ofList gw ++ " になっていません(実際: " ++
      textOr r.procMqttHost "未設定" ++ ")"]
  else []

def hostProblems (gw : List Char) (r : Readback) : List String :=
  if r.hostNow = [] then
    [textOr r.alignError "子の上で読み戻せませんでした(SSH できないか、途中で失敗)"]
  else if r.hostNow ≠ gw then
    ["send_target_config.json の host が " ++ .ofList r.hostNow ++ " のままです(期待 " ++
      .ofList gw ++ ")"]
  else []

def activeProblems (r : Readback) : List String :=
  if r.activeNow ≠ active then
    [service ++ " が動いていません(" ++ textOr r.activeNow "状態不明" ++ ")"]
  else []

/-- `problems`, with `none` for a `ValueError`. -/
def problems (gw : List Char) (r : Readback) : Option (List String) :=
  if r.hostNow = [] then some (hostProblems gw r)
  else
    (isRestarted r.pidNow r.pidBefore).map fun restarted =>
      hostProblems gw r ++ processProblems gw r restarted ++ activeProblems r

/-- What `align_send_target` makes of the output. -/
def alignVerdict (gw out : List Char) : Option StepResult :=
  (problems gw (parseAlignOutput out)).map fun found =>
    if found = [] then
      ⟨true, "記録の送り先を " ++ .ofList gw ++ " に揃えました", .ofList out⟩
    else ⟨false, "; ".intercalate found, .ofList out⟩

/-- The hub takes the output for a child that sends to it. -/
def Accepts (gw out : List Char) : Prop :=
  ∃ result, alignVerdict gw out = some result ∧ result.ok = true

/-- A process with this `MQTT_HOST`, or without one, sends to the address. -/
def SendsTo (gw host : List Char) : Prop := host = gw ∨ gw = defaultGw ∧ host = []

/-! ## What an accepted report says -/

theorem ne_nil_of_checkIpv4 {gw : List Char} (isAddress : checkIpv4 gw = true) : gw ≠ [] := by
  rintro rfl
  exact absurd isAddress (by decide)

theorem processProblems_eq_nil {gw : List Char} {r : Readback} {restarted : Bool} :
    processProblems gw r restarted = [] ↔
      restarted = true ∧ r.procEnv = envOk ∧ SendsTo gw r.procMqttHost := by
  unfold processProblems SendsTo
  by_cases again : restarted = true <;> by_cases isRead : r.procEnv = envOk <;>
    by_cases isDefault : gw = defaultGw <;> simp [again, isRead, isDefault]
  tauto

theorem hostProblems_eq_nil {gw : List Char} (present : gw ≠ []) {r : Readback} :
    hostProblems gw r = [] ↔ r.hostNow = gw := by
  unfold hostProblems
  by_cases missing : r.hostNow = []
  · simp [missing, Ne.symm present]
  · by_cases same : r.hostNow = gw <;> simp [missing, same, present]

theorem activeProblems_eq_nil {r : Readback} :
    activeProblems r = [] ↔ r.activeNow = active := by
  unfold activeProblems
  by_cases isActive : r.activeNow = active <;> simp [isActive]

/-- The verdict, by the values that are read back. -/
theorem accepts_iff {gw : List Char} (present : gw ≠ []) (out : List Char) :
    Accepts gw out ↔
      (parseAlignOutput out).hostNow = gw ∧
        isRestarted (parseAlignOutput out).pidNow (parseAlignOutput out).pidBefore = some true ∧
        (parseAlignOutput out).procEnv = envOk ∧
        SendsTo gw (parseAlignOutput out).procMqttHost ∧
        (parseAlignOutput out).activeNow = active := by
  have found (list : List String) :
      (∃ result : StepResult, some (if list = [] then
        (⟨true, "記録の送り先を " ++ .ofList gw ++ " に揃えました", .ofList out⟩ : StepResult)
        else ⟨false, "; ".intercalate list, .ofList out⟩) = some result ∧ result.ok = true) ↔
          list = [] := by
    by_cases nothing : list = [] <;> simp [nothing]
  rw [Accepts, alignVerdict, problems]
  generalize parseAlignOutput out = r
  by_cases missing : r.hostNow = []
  · rw [if_pos missing, Option.map_some, found, hostProblems_eq_nil present]
    simp [missing, Ne.symm present]
  · rw [if_neg missing]
    cases isRestarted r.pidNow r.pidBefore with
    | none => simp
    | some restarted =>
        rw [Option.map_some, Option.map_some, found, List.append_eq_nil_iff,
          List.append_eq_nil_iff, hostProblems_eq_nil present, processProblems_eq_nil,
          activeProblems_eq_nil]
        simp [and_assoc]

/-! ## What the script saw -/

theorem watch_cases (replies : Replies) (pid : List Char) (left i : Nat) :
    (∃ j, i ≤ j ∧ j < i + left ∧ replies.Shows j ∧ (∀ k, i ≤ k → k < j → ¬replies.Shows k) ∧
      watch replies pid left i =
        ⟨pidOf (replies.tries j).1, envOk, mqttHost (replies.tries j).2⟩) ∨
      (∀ j, i ≤ j → j < i + left → ¬replies.Shows j) ∧
        (watch replies pid left i).env = envUnreadable := by
  induction left generalizing pid i with
  | zero => exact .inr ⟨fun j from_ until_ => by omega, rfl⟩
  | succ left ih =>
      rw [watch]
      by_cases here : replies.Shows i
      · refine .inl ⟨i, le_rfl, by omega, here, fun k from_ until_ => by omega, ?_⟩
        exact if_pos here
      · rw [if_neg here]
        have skip {k : Nat} (from_ : i ≤ k) : k = i ∨ i + 1 ≤ k := by omega
        rcases ih (pidOf (replies.tries i).1) (i + 1) with
          ⟨j, from_, until_, shows_, before, seen⟩ | ⟨never, unreadable⟩
        · refine .inl ⟨j, by omega, by omega, shows_, fun k least most => ?_, seen⟩
          rcases skip least with rfl | later
          · exact here
          · exact before k later most
        · refine .inr ⟨fun j least most => ?_, unreadable⟩
          rcases skip least with rfl | later
          · exact here
          · exact never j later (by omega)

/-- No value that is printed breaks its line. -/
structure Printable (replies : Replies) : Prop where
  pidBefore : OneLine replies.pidBefore
  mqttHost : ∀ i, OneLine (mqttHost (replies.tries i).2)
  hostNow : OneLine replies.hostNow
  envNow : OneLine replies.envNow
  activeNow : OneLine replies.activeNow

/-- The child sends to the address, by what its commands come back with: the file is written,
another process runs, and its environment and the file name the address. -/
structure Aligned (gw : List Char) (replies : Replies) : Prop where
  rewritten : replies.rewritten = true
  dropinSet : replies.dropinSet = true
  reloaded : replies.reloaded = true
  restarted : replies.restarted = true
  hostNow : strip replies.hostNow = gw
  process : ∃ i < restartWaitTries, replies.Shows i ∧ (∀ j < i, ¬replies.Shows j) ∧
    pidOf (replies.tries i).1 ≠ strip replies.pidBefore ∧
    SendsTo gw (strip (mqttHost (replies.tries i).2))
  activeNow : strip replies.activeNow = active

/-! ### The report -/

theorem isDigit_pidOf (reply : List Char) : ∀ char ∈ pidOf reply, char.isDigit = true := by
  rw [pidOf]
  split
  · decide
  next digits =>
    rw [not_or, not_not] at digits
    exact List.all_eq_true.mp digits.2

theorem pidOf_ne_nil (reply : List Char) : pidOf reply ≠ [] := by
  rw [pidOf]
  split
  · decide
  next digits => exact (not_or.mp digits).1

theorem strip_pidOf (reply : List Char) : strip (pidOf reply) = pidOf reply :=
  (trimmed_of_forall fun char among =>
    isSpace_of_isDigit (isDigit_pidOf reply char among)).stripBy_eq

theorem oneLine_of_isDigit {text : List Char} (digits : ∀ char ∈ text, char.isDigit = true) :
    OneLine text := by
  intro char among
  cases breaks : isLineBreak char with
  | false => rfl
  | true =>
      have space := isSpace_of_isLineBreak breaks
      rw [isSpace_of_isDigit (digits char among)] at space
      cases space

theorem watch_pid (replies : Replies) {pid : List Char}
    (digits : ∀ char ∈ pid, char.isDigit = true) (left i : Nat) :
    ∀ char ∈ (watch replies pid left i).pid, char.isDigit = true := by
  induction left generalizing pid i with
  | zero => exact digits
  | succ left ih =>
      rw [watch]
      split
      · exact isDigit_pidOf _
      · exact ih (isDigit_pidOf _) _

theorem watch_oneLine {replies : Replies} (printable : Printable replies) (pid : List Char)
    (left i : Nat) : OneLine (watch replies pid left i).host ∧
      OneLine (watch replies pid left i).env := by
  have ok : OneLine envOk := by decide
  have unreadable : OneLine envUnreadable := by decide
  induction left generalizing pid i with
  | zero => exact ⟨fun _ among => (List.not_mem_nil among).elim, unreadable⟩
  | succ left ih =>
      rw [watch]
      split
      · exact ⟨printable.mqttHost i, ok⟩
      · exact ih _ _

def reportKeys : List (List Char) := [
  "ALIGN_ERROR".toList, "PID_BEFORE".toList, "PID_NOW".toList, "PROC_ENV".toList,
  "PROC_MQTT_HOST".toList, "HOST_NOW".toList, "ENV_NOW".toList, "ACTIVE_NOW".toList,
  "JOIN_PROFILE".toList]

theorem stands_of_oneLine {field : Field} (known : field.key ∈ reportKeys)
    (one : OneLine field.value) : field.Stands := by
  have plain : ∀ key ∈ reportKeys, '=' ∉ key ∧ OneLine key := by decide
  exact ⟨(plain _ known).1, (plain _ known).2, one⟩

theorem stands_readbackFields {replies : Replies} (printable : Printable replies) :
    ∀ field ∈ pidBeforeField replies :: readbackFields replies, field.Stands := by
  have seenPid : OneLine replies.seen.pid :=
    oneLine_of_isDigit (watch_pid replies (by decide) _ _)
  have profile : OneLine replies.joinProfile.text := by
    cases replies.joinProfile <;> decide
  obtain ⟨seenHost, seenEnv⟩ := watch_oneLine printable ['0'] restartWaitTries 0
  intro field among
  refine stands_of_oneLine ?_ ?_
  · have keys : (pidBeforeField replies :: readbackFields replies).map Field.key ⊆ reportKeys :=
      List.subset_cons_self _ _
    exact keys (List.mem_map_of_mem among)
  · simp only [readbackFields, List.mem_cons, List.not_mem_nil, or_false] at among
    rcases among with rfl | rfl | rfl | rfl | rfl | rfl | rfl | rfl
    · exact printable.pidBefore
    · exact seenPid
    · exact seenEnv
    · exact seenHost
    · exact printable.hostNow
    · exact printable.envNow
    · exact printable.activeNow
    · exact profile

theorem keys_readbackFields (replies : Replies) :
    (pidBeforeField replies :: readbackFields replies).map Field.key =
      ["PID_BEFORE".toList, "PID_NOW".toList, "PROC_ENV".toList, "PROC_MQTT_HOST".toList,
        "HOST_NOW".toList, "ENV_NOW".toList, "ACTIVE_NOW".toList, "JOIN_PROFILE".toList] := rfl

/-- A report of the script that did not run to its end. -/
def Stopped (fields : List Field) : Prop :=
  ∀ field ∈ fields, field.Stands ∧ field.key ≠ "HOST_NOW".toList

theorem stopped_alignError {text : String} (one : OneLine text.toList) :
    Stopped [alignError text] := by
  have known : "ALIGN_ERROR".toList ∈ reportKeys := by decide
  have apart : "ALIGN_ERROR".toList ≠ "HOST_NOW".toList := by decide
  exact List.forall_mem_singleton.mpr ⟨stands_of_oneLine known one, apart⟩

theorem stopped_cons {replies : Replies} (printable : Printable replies) {fields : List Field}
    (stopped : Stopped fields) : Stopped (pidBeforeField replies :: fields) := by
  have known : "PID_BEFORE".toList ∈ reportKeys := by decide
  have apart : "PID_BEFORE".toList ≠ "HOST_NOW".toList := by decide
  have stands : (pidBeforeField replies).Stands := stands_of_oneLine known printable.pidBefore
  exact List.forall_mem_cons.mpr ⟨⟨stands, apart⟩, stopped⟩

/-- The script ran to its end, or it stopped and says so. -/
theorem alignFields_cases {replies : Replies} (printable : Printable replies) :
    replies.rewritten = true ∧ replies.dropinSet = true ∧ replies.reloaded = true ∧
      replies.restarted = true ∧
        alignFields replies = pidBeforeField replies :: readbackFields replies ∨
      Stopped (alignFields replies) := by
  unfold alignFields
  split
  next => exact .inr (stopped_alignError (by decide +kernel))
  next rewritten =>
    split
    next => exact .inr (stopped_alignError (by decide +kernel))
    next dropinSet =>
      split
      next =>
        exact .inr (stopped_cons printable (stopped_alignError (by decide +kernel)))
      next reloaded =>
        split
        next =>
          exact .inr (stopped_cons printable (stopped_alignError (by decide +kernel)))
        next restarted =>
          exact .inl ⟨not_not.mp rewritten, not_not.mp dropinSet, not_not.mp reloaded,
            not_not.mp restarted, rfl⟩

/-! ### The verdict -/

theorem ne_of_isRestarted {pidNow pidBefore : List Char}
    (restarted : isRestarted pidNow pidBefore = some true) : pidNow ≠ pidBefore := by
  rw [isRestarted] at restarted
  split at restarted
  · obtain ⟨number, -, both⟩ := Option.map_eq_some_iff.mp restarted
    rw [Bool.and_eq_true] at both
    exact of_decide_eq_true both.2
  · cases restarted

/-- Digits that the interpreter takes and the shell takes for a number other than zero. -/
theorem isRestarted_of_isNewPid {before : List Char} {reply : List Char}
    (isNew : isNewPid before (pidOf reply) = true) (short : reply.length ≤ maxStrDigits)
    {pidBefore : List Char} (apart : pidOf reply ≠ pidBefore) :
    isRestarted (pidOf reply) pidBefore = some true := by
  have digits := isDigit_pidOf reply
  have isText : isDigits (pidOf reply) = true := by
    rw [isDigits, Bool.and_eq_true, decide_eq_true_eq, List.all_eq_true]
    refine ⟨pidOf_ne_nil reply, fun char among => ?_⟩
    rw [decimalValue_of_isDigit (digits char among)]
    rfl
  have shortPid : (pidOf reply).length ≤ maxStrDigits := by
    rw [pidOf]
    split
    · decide
    · exact short
  have nonzero : decimal (pidOf reply) ≠ 0 := by
    rw [isNewPid, Bool.and_eq_true, Bool.and_eq_true] at isNew
    exact of_decide_eq_true isNew.1.1
  rw [isRestarted, if_pos isText, parseInt_of_digits (pidOf_ne_nil reply) digits,
    if_pos shortPid, Option.map_some]
  rw [decimal] at nonzero
  simp [nonzero, apart]

/-- The values before `ACTIVE_NOW`. -/
def fieldsBeforeActive (replies : Replies) : List Field := [
  ⟨"PID_BEFORE".toList, replies.pidBefore⟩,
  ⟨"PID_NOW".toList, replies.seen.pid⟩,
  ⟨"PROC_ENV".toList, replies.seen.env⟩,
  ⟨"PROC_MQTT_HOST".toList, replies.seen.host⟩,
  ⟨"HOST_NOW".toList, replies.hostNow⟩,
  ⟨"ENV_NOW".toList, replies.envNow⟩]

def activeField (replies : Replies) : Field := ⟨"ACTIVE_NOW".toList, replies.activeNow⟩

theorem readbackFields_eq (replies : Replies) :
    pidBeforeField replies :: readbackFields replies =
      fieldsBeforeActive replies ++
        activeField replies :: [⟨"JOIN_PROFILE".toList, replies.joinProfile.text⟩] := rfl

theorem nodup_readbackFields (replies : Replies) :
    ((pidBeforeField replies :: readbackFields replies).map Field.key).Nodup := by
  rw [keys_readbackFields]
  decide

/-- The environment was read at a try, the first that shows another process. -/
theorem exists_shows {replies : Replies} (isRead : strip replies.seen.env = envOk) :
    ∃ i < restartWaitTries, replies.Shows i ∧ (∀ j < i, ¬replies.Shows j) ∧
      replies.seen = ⟨pidOf (replies.tries i).1, envOk, mqttHost (replies.tries i).2⟩ := by
  rcases watch_cases replies ['0'] restartWaitTries 0 with
    ⟨i, -, until_, shows_, before, seen⟩ | ⟨-, unreadable⟩
  · rw [Nat.zero_add] at until_
    exact ⟨i, until_, shows_, fun j earlier => before j (Nat.zero_le j) earlier, seen⟩
  · rw [Replies.seen, unreadable] at isRead
    exact absurd isRead (by decide)

/-- However the report is cut short, it is accepted only if the child sends to the address: all
that may be missing is the end of what `systemctl is-active` says. -/
theorem aligned_of_accepts {gw : List Char} (isAddress : checkIpv4 gw = true) {replies : Replies}
    (printable : Printable replies) {out : List Char} (part : out <+: alignOutput replies)
    (accepted : Accepts gw out) :
    ∃ activeNow, activeNow <+: replies.activeNow ∧
      Aligned gw { replies with activeNow := activeNow } := by
  have present := ne_nil_of_checkIpv4 isAddress
  obtain ⟨hostNow, restarted, env, target, isActive⟩ := (accepts_iff present out).mp accepted
  simp only [parseAlignOutput] at hostNow restarted env target isActive
  rcases alignFields_cases printable with ⟨rewritten, dropinSet, reloaded, again, fields⟩ | stopped
  · have activeRead : lastValue out (activeField replies).key ≠ [] :=
      ne_of_eq_of_ne isActive (by decide)
    have stands := stands_readbackFields printable
    have distinct := nodup_readbackFields replies
    rw [alignOutput, fields] at part
    rw [readbackFields_eq] at part stands distinct
    obtain ⟨earlier, activeNow, begins, activeValue⟩ :=
      lastValue_cut stands distinct part activeRead
    simp only [fieldsBeforeActive, List.forall_mem_cons] at earlier
    obtain ⟨pidBefore, pidNow, procEnv, procHost, hostRead, -⟩ := earlier
    rw [procEnv] at env
    obtain ⟨i, inTime, shows_, first, seen⟩ := exists_shows env
    rw [pidNow, pidBefore, seen, strip_pidOf] at restarted
    rw [procHost, seen] at target
    refine ⟨activeNow, begins, rewritten, dropinSet, reloaded, again, ?_, ?_, ?_⟩
    · exact hostRead.symm.trans hostNow
    · exact ⟨i, inTime, shows_, first, ne_of_isRestarted restarted, target⟩
    · exact activeValue.symm.trans isActive
  · have absent : "HOST_NOW".toList ∉ (alignFields replies).map Field.key := by
      rw [List.mem_map]
      rintro ⟨field, among, same⟩
      exact (stopped field among).2 same
    rw [lastValue_of_absent (fun field among => (stopped field among).1) absent part] at hostNow
    exact absurd hostNow.symm present

/-- The whole report of a child that sends to the address is accepted. -/
theorem accepts_of_aligned {gw : List Char} (isAddress : checkIpv4 gw = true) {replies : Replies}
    (printable : Printable replies) (short : ∀ i, (replies.tries i).1.length ≤ maxStrDigits)
    (aligned : Aligned gw replies) : Accepts gw (alignOutput replies) := by
  have fields : alignFields replies = pidBeforeField replies :: readbackFields replies := by
    unfold alignFields
    rw [if_neg (not_not_intro aligned.rewritten), if_neg (not_not_intro aligned.dropinSet),
      if_neg (not_not_intro aligned.reloaded), if_neg (not_not_intro aligned.restarted)]
  have read : ∀ field ∈ pidBeforeField replies :: readbackFields replies,
      lastValue (alignOutput replies) field.key = strip field.value := by
    rw [alignOutput, fields]
    exact fun field among =>
      lastValue_print (stands_readbackFields printable) (nodup_readbackFields replies) among
  obtain ⟨i, inTime, shows_, first, apart, target⟩ := aligned.process
  have seen : replies.seen = ⟨pidOf (replies.tries i).1, envOk, mqttHost (replies.tries i).2⟩ := by
    rcases watch_cases replies ['0'] restartWaitTries 0 with
      ⟨j, -, -, showsJ, before, seen⟩ | ⟨never, -⟩
    · have same : j = i := by
        rcases Nat.lt_trichotomy j i with less | same | more
        · exact absurd showsJ (first j less)
        · exact same
        · exact absurd shows_ (before i (Nat.zero_le i) more)
      rwa [same] at seen
    · exact absurd shows_ (never i (Nat.zero_le i) (by omega))
  unfold readbackFields pidBeforeField at read
  simp only [List.forall_mem_cons] at read
  obtain ⟨pidBefore, pidNow, procEnv, procHost, hostNow, -, activeNow, -⟩ := read
  rw [seen] at pidNow procEnv procHost
  rw [strip_pidOf] at pidNow
  have restarted := isRestarted_of_isNewPid shows_.1 (short i) apart
  have ok : strip envOk = envOk := by decide
  refine (accepts_iff (ne_nil_of_checkIpv4 isAddress) _).mpr ⟨hostNow.trans aligned.hostNow, ?_,
    procEnv.trans ok, ?_, activeNow.trans aligned.activeNow⟩
  · unfold parseAlignOutput
    rw [pidNow, pidBefore, restarted]
  · unfold parseAlignOutput
    rw [procHost]
    exact target

/-- The report of a child that sends to the address is accepted, and no part of any other that
the connection may break off at. -/
theorem accepts_alignOutput {gw : List Char} (isAddress : checkIpv4 gw = true) {replies : Replies}
    (printable : Printable replies) (short : ∀ i, (replies.tries i).1.length ≤ maxStrDigits) :
    (Aligned gw replies → Accepts gw (alignOutput replies)) ∧
      ∀ out, out <+: alignOutput replies → Accepts gw out →
        ∃ activeNow, activeNow <+: replies.activeNow ∧
          Aligned gw { replies with activeNow := activeNow } :=
  ⟨accepts_of_aligned isAddress printable short,
    fun _ part accepted => aligned_of_accepts isAddress printable part accepted⟩

/-- A child whose process comes up at the second try. -/
def restartedChild : Replies where
  rewritten := true
  dropinSet := true
  pidBefore := "401".toList
  reloaded := true
  restarted := true
  tries i :=
    if i = 0 then ("0".toList, [])
    else ("812".toList, "HOME=/root".toList ++ Char.ofNat 0 :: "MQTT_HOST=10.43.0.1".toList)
  hostNow := "10.43.0.1".toList
  envNow := "MQTT_HOST=10.43.0.1".toList
  activeNow := active
  joinProfile := .ok

/-- Its report, without the last line. -/
def cutReport : List Char := (alignOutput restartedChild).take 128

theorem accepts_alignOutput_cut :
    ∃ activeNow, activeNow <+: active ∧
      Aligned "10.43.0.1".toList { restartedChild with activeNow := activeNow } := by
  have printable : Printable restartedChild := by
    refine ⟨by decide, fun i => ?_, by decide, by decide, by decide⟩
    rw [restartedChild]
    dsimp only
    split <;> decide +kernel
  have short : ∀ i, (restartedChild.tries i).1.length ≤ maxStrDigits := by
    intro i
    rw [restartedChild]
    dsimp only
    split <;> decide
  have accepted : (alignVerdict "10.43.0.1".toList cutReport).map StepResult.ok = some true := by
    decide +kernel
  obtain ⟨result, isResult, ok⟩ := Option.map_eq_some_iff.mp accepted
  exact (accepts_alignOutput (by decide) printable short).2 cutReport (List.take_prefix _ _)
    ⟨result, isResult, ok⟩

end PresenceLogger.Fleet.SendTarget
