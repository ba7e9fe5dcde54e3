import PresenceLogger.Fleet.JoinKeyfile
import PresenceLogger.Fleet.Procedure
import PresenceLogger.Fleet.RemoteInventory
import PresenceLogger.Fleet.Wizard

/-!
# Taking a child from another hub

A child is moved by commands that the old hub runs on it, until it appears under this hub's
access point.  It keeps its name; its key, its network, its target and the two inventories
change, one after the other, and the procedure stops at the first thing that fails.
-/

namespace PresenceLogger.Fleet

open Library Library.Text Library.Shell SendTarget

/-! ## What is read before anything is done -/

/-- The files of this hub and a variable of its environment. -/
structure Hub where
  apDev : Option (List Char)
  siteEnv : Option (List Char)
  apJoinEnv : Option (List Char)
  secretsEnv : Option (List Char)
  pubkeyFile : Option (List Char)

/-- `_env_file_value` -/
def envFileValue (file : Option (List Char)) (key : List Char) : List Char :=
  let start := key ++ ['=']
  match (splitLines (universalNewlines (file.getD []))).find? (start.isPrefixOf ·) with
  | some line => unquoted (strip (line.drop start.length))
  | none => []

theorem noReturn_newlinesFrom (returned : Bool) (text : List Char) :
    '\r' ∉ newlinesFrom returned text := by
  induction text generalizing returned with
  | nil => exact List.not_mem_nil
  | cons char text ih =>
      rw [newlinesFrom]
      split
      · exact ih false
      · split
        · simpa using ih true
        next notReturn =>
          rw [List.mem_cons, not_or]
          exact ⟨Ne.symm notReturn, ih false⟩

theorem mem_of_mem_unquoted {value : List Char} {char : Char} (among : char ∈ unquoted value) :
    char ∈ value := by
  unfold unquoted at among
  split at among
  · split at among
    · exact List.mem_cons_of_mem _ (List.mem_of_mem_dropLast among)
    · exact among
  · split at among
    · exact List.mem_cons_of_mem _ (List.mem_of_mem_dropLast among)
    · exact among
  · exact among

theorem oneLine_envFileValue (file : Option (List Char)) (key : List Char) :
    OneLine (envFileValue file key) := by
  rw [envFileValue]
  cases found : (splitLines (universalNewlines (file.getD []))).find? _ with
  | none => exact oneLine_nil
  | some line =>
      have one := (exists_of_mem_splitLines (noReturn_newlinesFrom false _)
        (List.mem_of_find?_eq_some found)).1
      intro char among
      exact one char (List.mem_of_mem_drop (mem_of_mem_stripBy (mem_of_mem_unquoted among)))

def apSsidKey : List Char := "AP_SSID".toList

def wifiApPskKey : List Char := "WIFI_AP_PSK".toList

/-- The first of `load_ap_join`. -/
def Hub.ssid (hub : Hub) : List Char :=
  match envFileValue hub.apJoinEnv apSsidKey with
  | [] => envFileValue hub.siteEnv apSsidKey
  | ssid => ssid

/-- The second of `load_ap_join`. -/
def Hub.psk (hub : Hub) : List Char :=
  match envFileValue hub.apJoinEnv wifiApPskKey with
  | [] => envFileValue hub.secretsEnv wifiApPskKey
  | psk => psk

theorem Hub.oneLine_ssid (hub : Hub) : OneLine hub.ssid := by
  rw [Hub.ssid]
  split <;> exact oneLine_envFileValue _ _

theorem Hub.oneLine_psk (hub : Hub) : OneLine hub.psk := by
  rw [Hub.psk]
  split <;> exact oneLine_envFileValue _ _

/-- `read_pubkey` -/
def Hub.pubkey (hub : Hub) : List Char := strip (universalNewlines (hub.pubkeyFile.getD []))

def keyKinds : List (List Char) :=
  ["ssh-ed25519".toList, "ssh-rsa".toList, "ecdsa-sha2-nistp256".toList]

/-- `[A-Za-z0-9+/=]` -/
def isKeyChar (char : Char) : Bool := char.isAlphanum || ['+', '/', '='].contains char

/-- `_PUBKEY_RE`, of a text without a line feed. -/
def isPubkey (line : List Char) : Bool :=
  let (kind, rest) := partition ' ' line
  keyKinds.contains kind && rest.head?.any isKeyChar &&
    (rest.dropWhile isKeyChar).head?.all (· = ' ')

/-- A part of an address in `_IPV4_RE`. -/
def isIpv4Part (part : List Char) : Bool :=
  let isDigit (char : Char) : Bool := (decimalValue char).isSome
  match part with
  | [ones] => isDigit ones
  | [tens, ones] => isDigit tens && isDigit ones
  | ['2', '5', ones] => ['0', '1', '2', '3', '4', '5'].contains ones
  | ['2', tens, ones] => ['0', '1', '2', '3', '4'].contains tens && isDigit ones
  | [hundreds, tens, ones] =>
      ['0', '1'].contains hundreds && isDigit tens && isDigit ones
  | _ => false

/-- `_IPV4_RE`, of a text without a line feed. -/
def matchesIpv4 (text : List Char) : Bool :=
  (text.splitOn '.').length = 4 && (text.splitOn '.').all isIpv4Part

/-- `_HOST_RE`, of a text without a line feed at its end. -/
def matchesHost (text : List Char) : Bool :=
  text.head?.any Char.isAlphanum && text.getLast?.any Char.isAlphanum && text.length ≤ 253 &&
    text.all fun char => char.isAlphanum || ['.', '-'].contains char

/-- The characters that a shell may take for its own. -/
def shellChars : List Char := ";|&$()\x60<>\"'\\".toList

/-- `validate_old_host` -/
def validateOldHost (host : List Char) : Option String :=
  let host := strip host
  if host = [] then some "旧親のアドレスを入力してください"
  else if host.head? = some '-' ∨ '@' ∈ host ∨ '/' ∈ host ∨ ' ' ∈ host then
    some "旧親のアドレスに使えない文字があります"
  else if host.any shellChars.contains then some "旧親のアドレスに使えない文字があります"
  else if matchesIpv4 host then none
  else if matchesHost host ∧ ¬['.', '.'] <:+: host then none
  else some "旧親のアドレスは IPv4 かホスト名で指定してください"

def dotLocal : List Char := ".local".toList

/-- `inventory_name` -/
def inventoryName (entry : List Char) : List Char :=
  let entry := strip entry
  if dotLocal.isSuffixOf entry then entry else entry ++ dotLocal

theorem inventoryName_ne_nil (entry : List Char) : inventoryName entry ≠ [] := by
  have present : dotLocal ≠ [] := by decide
  rw [inventoryName]
  split
  next ends =>
    intro nothing
    rw [nothing, List.isSuffixOf_iff_suffix, List.suffix_nil] at ends
    exact present ends
  · exact List.append_ne_nil_of_right_ne_nil _ present

/-- `_MAC_RE`, of a word in lower case. -/
def isMac (word : List Char) : Bool :=
  (word.splitOn ':').length = 6 && (word.splitOn ':').all fun pair =>
    pair.length = 2 && pair.all fun char => char.isDigit || ('a' ≤ char && char ≤ 'f')

/-- `_extract_mac` -/
def extractMac (text : List Char) : List Char :=
  (((words text).map lowerName).find? isMac).getD []

theorem checkIpv4_of_loadApGwIp {siteEnv : Option (List Char)} {gw : List Char}
    (loaded : loadApGwIp siteEnv = .ok gw) : checkIpv4 gw = true := by
  have isDefault : checkIpv4 defaultGw = true := by decide
  cases siteEnv with
  | none =>
      cases loaded
      exact isDefault
  | some text =>
      rw [loadApGwIp] at loaded
      split at loaded
      · cases loaded
        exact isDefault
      · split at loaded
        next checked =>
          cases loaded
          exact checked
        · cases loaded

theorem lowerName_lowerName (text : List Char) : lowerName (lowerName text) = lowerName text := by
  have upper : ∀ n < 91, (Char.ofNat n).toLower.toLower = (Char.ofNat n).toLower ∧
      (Char.ofNat n).toLower.toNat ≠ 0x212a := by
    decide +kernel
  rw [lowerName, lowerName, List.map_map]
  refine List.map_congr_left fun char _ => ?_
  by_cases kelvin : char.toNat = 0x212a
  · simp [kelvin]
  · by_cases small : char.toNat < 91
    · obtain ⟨again, apart⟩ := upper char.toNat small
      rw [Char.ofNat_toNat] at again apart
      simp [kelvin, again, apart]
    · have same : char.toLower = char :=
        dif_neg fun between => small (Nat.lt_succ_of_le between.2)
      simp [kelvin, same]

theorem lowerName_extractMac (text : List Char) :
    lowerName (extractMac text) = extractMac text := by
  rw [extractMac]
  cases found : ((words text).map lowerName).find? _ with
  | none => rfl
  | some word =>
      obtain ⟨original, -, isWord⟩ := List.mem_map.mp (List.mem_of_find?_eq_some found)
      rw [Option.getD_some, ← isWord, lowerName_lowerName]

/-- What this hub gives a child, where nothing is missing or malformed. -/
structure Site where
  pubkey : List Char
  ssid : List Char
  psk : List Char
  gw : List Char
  keyed : isPubkey (partition '\n' pubkey).1 = true
  ssidLength : 1 ≤ (FormData.bytes ssid).length ∧ (FormData.bytes ssid).length ≤ 32
  ssidNoNul : Char.ofNat 0 ∉ ssid
  isPsk : pskValid psk = true
  isAddress : checkIpv4 gw = true

/-- The checks of `take_child` on the hub's own files. -/
def siteOf (strRepr : List Char → String) (hub : Hub) : Except String Site :=
  if keyed : isPubkey (partition '\n' hub.pubkey).1 = true then
    if hub.ssid = [] ∨ hub.psk = [] then
      .error ("このハブの AP 名またはパスワードが読めません。" ++
        ".kit/ap-join.env を確認してください")
    else if isPsk : pskValid hub.psk = true then
      if sound : (1 ≤ (FormData.bytes hub.ssid).length ∧ (FormData.bytes hub.ssid).length ≤ 32) ∧
          Char.ofNat 0 ∉ hub.ssid then
        match loaded : loadApGwIp hub.siteEnv with
        | .error value =>
            .error ("site.env の AP_GW_IP が IPv4 ではありません: " ++ strRepr value ++
              "。site.env を確認してください")
        | .ok gw =>
            .ok ⟨hub.pubkey, hub.ssid, hub.psk, gw, keyed, sound.1, sound.2, isPsk,
              checkIpv4_of_loadApGwIp loaded⟩
      else .error "このハブの AP 名の長さが不正です(1〜32バイト)"
    else
      .error ("このハブの AP パスワードは子Pi が使えない形式です" ++
        "(8〜63文字の半角英数記号、または16進64文字)。.kit/ap-join.env を確認してください")
  else .error "このハブの SSH 公開鍵がありません"

theorem siteOf_eq_ok {strRepr : List Char → String} {hub : Hub} {site : Site}
    (isOk : siteOf strRepr hub = .ok site) :
    site.pubkey = hub.pubkey ∧ site.ssid = hub.ssid ∧ site.psk = hub.psk ∧
      loadApGwIp hub.siteEnv = .ok site.gw := by
  unfold siteOf at isOk
  split at isOk
  · split at isOk
    · cases isOk
    · split at isOk
      · split at isOk
        · split at isOk
          · cases isOk
          next loaded =>
            cases isOk
            exact ⟨rfl, rfl, rfl, loaded⟩
        · cases isOk
      · cases isOk
  · cases isOk

theorem zero_notMem_bytes {text : List Char} (noNul : Char.ofNat 0 ∉ text) :
    0 ∉ FormData.bytes text := by
  intro among
  obtain ⟨char, inText, isByte⟩ := List.mem_flatMap.mp among
  by_cases ascii : char.toNat < 128
  · rw [FormData.utf8EncodeChar_of_lt ascii, List.mem_singleton] at isByte
    have zero : char.toNat = 0 := by
      have value := congrArg UInt8.toNat isByte
      rw [UInt8.toNat_ofNat', Nat.mod_eq_of_lt (by omega)] at value
      exact value.symm
    refine noNul ?_
    rwa [← zero, Char.ofNat_toNat]
  · exact absurd (FormData.le_of_mem_utf8EncodeChar (Nat.le_of_not_lt ascii) isByte) (by decide)

/-- What NetworkManager is to read from a file. -/
def Reads (ssid psk keyfile : List Char) : Prop :=
  (KeyFile.getString keyfile "wifi".toList "ssid".toList).bind glibSsidBytes =
      some (FormData.bytes ssid) ∧
    KeyFile.getString keyfile "wifi-security".toList "psk".toList = some psk

/-- A hub whose files are sound has a file for its children. -/
theorem exists_keyfile {strRepr : List Char → String} {hub : Hub} {site : Site}
    (isOk : siteOf strRepr hub = .ok site) (uuid : BitVec 128) :
    ∃ keyfile, nmJoinKeyfile uuid site.ssid site.psk = some keyfile ∧
      Reads hub.ssid hub.psk keyfile := by
  obtain ⟨-, ssid, psk, -⟩ := siteOf_eq_ok isOk
  have noFeed {text : List Char} (one : OneLine text) : '\n' ∉ text := fun among =>
    absurd (one '\n' among) (by decide)
  rw [← ssid, ← psk]
  exact getString_nmJoinKeyfile uuid (ssid ▸ noFeed hub.oneLine_ssid)
    (zero_notMem_bytes site.ssidNoNul) site.ssidLength.1 site.ssidLength.2 site.isPsk
    (psk ▸ noFeed hub.oneLine_psk)

/-- The name of a child in the inventory, without its domain. -/
def shortEntry (entry : List Char) : String := short (.ofList entry)

/-- A child with a name that no child of this hub has. -/
structure Child where
  entry : List Char
  existing : List String
  isNew : validateHostname (.str (shortEntry entry)) existing = .ok none

def Child.name (child : Child) : String := .ofList child.entry

def Child.inventoryName (child : Child) : List Char := Fleet.inventoryName child.entry

theorem plain_of_isValidName {name : List Char} (valid : isValidName name = true) :
    Plain name := by
  intro char among
  obtain ⟨-, -, chars⟩ := isValidName_iff.mp valid
  obtain ⟨noSpace, -, -⟩ := plain_of_nameChar (chars char among)
  refine ⟨?_, noSpace⟩
  rintro rfl
  exact absurd (chars '#' among) (by decide)

/-- The entry of a child is one word. -/
theorem Child.plain_entry (child : Child) : Plain child.entry := by
  have plainLocal : Plain dotLocal := by decide
  obtain ⟨-, valid, -⟩ := validateHostname_eq_none.mp child.isNew
  have plain := plain_of_isValidName valid
  unfold shortEntry short at plain
  rw [String.toList_ofList] at plain
  split at plain
  next name ends =>
    obtain ⟨ending, whole, isLocal⟩ := List.dropSuffix?_eq_some_iff.mp ends
    rw [String.toList_ofList] at plain
    rw [whole, eq_of_beq isLocal]
    exact List.forall_mem_append.mpr ⟨plain, plainLocal⟩
  · rwa [String.toList_ofList] at plain

theorem Child.plain_inventoryName (child : Child) : Plain child.inventoryName := by
  have plainLocal : Plain dotLocal := by decide
  have trimmed : strip child.entry = child.entry :=
    (trimmed_of_forall fun char among => (child.plain_entry char among).2).stripBy_eq
  rw [Child.inventoryName, Fleet.inventoryName, trimmed]
  split
  · exact child.plain_entry
  · exact List.forall_mem_append.mpr ⟨child.plain_entry, plainLocal⟩

/-- The check of `take_child` on the name. -/
def childOf (entry : List Char) (existing : List String) : Except String Child :=
  match isNew : validateHostname (.str (shortEntry entry)) existing with
  | .ok none => .ok ⟨entry, existing, isNew⟩
  | .ok (some refusal) => .error refusal.message
  | .error _ => .error "TypeError"

theorem entry_of_childOf {entry : List Char} {existing : List String} {child : Child}
    (isChild : childOf entry existing = .ok child) : child.entry = entry := by
  unfold childOf at isChild
  split at isChild
  · cases isChild
    rfl
  · cases isChild
  · cases isChild

/-! ## The procedure -/

/-- `DEFAULT_REMOTE_INVENTORY` -/
def remoteInventory : List Char := "~/projects/presence-logger/fleet/children.conf".toList

/-- The command of `_read_remote_inventory`. -/
def readCommand : List Char :=
  "if test -f ".toList ++ remoteInventory ++ "; then cat ".toList ++ remoteInventory ++
    "; printf '\\n".toList ++ catOk ++ "\\n'; else echo ".toList ++ missing ++ "; fi".toList

/-- `write_remote` -/
def writeCommand (text : List Char) : List Char :=
  "printf %s ".toList ++ quote text ++ " > ".toList ++ remoteInventory

def refuse (reason : String) : StepResult := ⟨false, reason, ""⟩

section Procedure

variable (strRepr : List Char → String) (oldHost : List Char)

/-- The end of `take_child`: the old hub forgets the child. -/
def forgetChild (child : Child) (waited : StepResult) : Procedure StepResult := do
  let moved := child.name ++ " をこのハブへ移しました（ホスト名と局番号はそのまま）"
  let out ← sshPi oldHost readCommand none
  match readRemoteInventory out with
  | (some text, .ok) => do
      let _ ← sshPi oldHost (writeCommand (stripInventoryEntry text child.entry)) none
      return ⟨true, moved, waited.output⟩
  | _ =>
      return ⟨true, moved ++ "。旧親の名簿は更新できませんでした。旧親で手動削除してください。",
        waited.output⟩

/-- How the child is reached: by its address, if there is one. -/
def Child.host (child : Child) (ip : List Char) : List Char :=
  if matchesIpv4 ip then ip else child.inventoryName

/-- The child is told where to send. -/
def retarget (site : Site) (child : Child) (waited : StepResult) : Procedure StepResult := do
  let ip := strip waited.output.toList
  if matchesIpv4 ip ∧ ¬ipInSubnet ip site.gw 24 then
    return ⟨false, child.name ++ " の IP " ++ .ofList ip ++ " がこのハブの AP の範囲(" ++
      .ofList site.gw ++ "/24)にありません。 site.env の AP_GW_IP と実際の AP が" ++
      "食い違っています。 bash scripts/bootstrap-hub.sh 50 をやり直してください", waited.output⟩
  else do
    let aligned ← alignSendTarget strRepr (child.host ip) site.gw
    if ¬aligned.ok then
      return ⟨false, child.name ++ " はこのハブへ移りましたが、記録の送り先を " ++
        .ofList site.gw ++ " に揃えられませんでした。 このままでは記録が届きません。" ++
        " python3 -m fleet_ui.child_cli align " ++ .ofList child.inventoryName ++
        " を実行してください。 " ++ aligned.message, aligned.output⟩
    else forgetChild oldHost child waited

/-- The host key of the child, by its name or by its address. -/
def registerChildKey (child : Child) (ip : List Char) : Procedure StepResult := do
  let kh ← registerHostKey child.inventoryName
  if strip kh.output.toList = [] ∧ matchesIpv4 ip then registerHostKey ip
  else return kh

/-- The child is under this hub's access point: its host key, and its inventory. -/
def receiveChild (site : Site) (child : Child) (waited : StepResult) : Procedure StepResult := do
  let kh ← registerChildKey child (strip waited.output.toList)
  if ¬kh.ok then return kh
  else do
    let added ← addToInventorySteps child.inventoryName
    if ¬added.ok then return added
    else retarget strRepr oldHost site child waited

/-- The child's network is switched, and it is waited for. -/
def switchChild (dev : List Char) (uuid : BitVec 128) (site : Site) (child : Child)
    (mac : List Char) : Procedure StepResult :=
  match nmJoinKeyfile uuid site.ssid site.psk with
  | none => .fail "ssid length must be 1..32 bytes"
  | some keyfile => do
      let wifiOut ← sshPi oldHost (nestedSsh child.entry wifiInstall) (some keyfile)
      let waited ← waitForReturn dev mac
      if ¬waited.ok then
        return ⟨false, child.name ++ " がこのハブの AP (" ++ .ofList site.ssid ++
          ") に現れません。 無線切替の返事が途中で切れるのは正常です。" ++
          " パスワードが違うか、電波の外の可能性があります。" ++
          " このハブの AP に居るなら、ウィザードで 1 → 3 を選んでください。 " ++ waited.message,
          .ofList wifiOut ++ waited.output⟩
      else receiveChild strRepr oldHost site child waited

/-- The child is reached from the old hub and given this hub's key. -/
def admitChild (dev : List Char) (uuid : BitVec 128) (site : Site) (child : Child) :
    Procedure StepResult := do
  let macOut ← sshPi oldHost (nestedSsh child.entry macInner) none
  if extractMac macOut = [] then
    return ⟨false, child.name ++ " の MAC が取れませんでした。" ++
      "旧親からその子へ SSH できるか確認してください", .ofList macOut⟩
  else do
    let keyOut ← sshPi oldHost (nestedSsh child.entry (keyInner site.pubkey)) none
    if ¬keyOk <:+: keyOut then
      return ⟨false, child.name ++ " に新しい公開鍵を入れられませんでした。" ++
        "Wi-Fi は切り替えていません。", .ofList keyOut⟩
    else switchChild strRepr oldHost dev uuid site child (extractMac macOut)

/-- `take_child`, of a name that the shell may be given. -/
def takeNamed (hub : Hub) (uuid : BitVec 128) (entry : List Char) : Procedure StepResult := do
  let existing := universalNewlines (← readInventoryFile)
  match childOf entry ((parseChildrenConf existing).map String.ofList) with
  | .error reason => return refuse reason
  | .ok child =>
      match siteOf strRepr hub with
      | .error reason => return refuse reason
      | .ok site => admitChild strRepr oldHost (currentApDev hub.apDev) uuid site child

/-- `take_child` -/
def takeChild (hub : Hub) (uuid : BitVec 128) (entry : List Char) : Procedure StepResult :=
  match validateOldHost oldHost with
  | some reason => return refuse reason
  | none =>
      let entry := strip entry
      if entry = [] ∨ entry.any (shellChars ++ [' ', '\t']).contains then
        return refuse "子の名前が不正です"
      else takeNamed strRepr oldHost hub uuid entry

end Procedure

/-! ## Commands that write nothing -/

/-- A command that writes no inventory of the old hub. -/
theorem not_write {host remote : List Char} {timeout : String} {oldHost text : List Char}
    (apart : remote.head? ≠ some 'p') :
    sshArgv timeout host remote ≠ sshArgv "8" oldHost (writeCommand text) := by
  intro same
  have last : remote = writeCommand text := Option.some.inj (congrArg List.getLast? same)
  rw [last] at apart
  exact apart rfl

theorem head?_nestedSsh {entry inner : List Char} : (nestedSsh entry inner).head? ≠ some 'p' := by
  have first : (nestedSsh entry inner).head? = some 's' := rfl
  rw [first]
  decide

end PresenceLogger.Fleet
