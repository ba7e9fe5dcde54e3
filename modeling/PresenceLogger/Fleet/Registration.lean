import PresenceLogger.Fleet.ProcedureLog
import PresenceLogger.Fleet.Takeover

/-!
# Registering a child

A new child is a copy of another: it is stopped, its station numbers are emptied and it is
given a name of its own before it is entered.  A child that is already under this hub's access
point is entered under the name it has.  Both are told where to send in the end.
-/

namespace PresenceLogger.Fleet.Registration

open Library Library.Text Library.Shell SendTarget

/-! ## Steps -/

def stopCommand : List Char := "sudo systemctl stop child-csv-to-mqtt.service".toList

/-- `stop_publisher` -/
def stopPublisher (ip : List Char) : Procedure StepResult :=
  guarded (sshPi ip stopCommand none) "送信を停止しました"

def blankCommand : List Char :=
  "cp -a ~/id_names_config.json ~/id_names_config.json.clone-backup && ".toList ++
    "python3 -c \"import json;p='/home/pi/id_names_config.json';".toList ++
    "d=json.load(open(p));".toList ++
    "json.dump(\x7b'id_names':\x7bk:['','',''] for k in d['id_names']\x7d\x7d,open(p,'w'))\"".toList

/-- `blank_sta_no` -/
def blankStaNo (ip : List Char) : Procedure StepResult :=
  guarded (sshPi ip blankCommand none) "STA_NO を空にしました"

/-- The command of `rename_and_reboot`. -/
def renameCommand (newHostname : List Char) : List Char :=
  "sudo hostnamectl set-hostname ".toList ++ quote newHostname ++
    " && if grep -q '^127\\.0\\.1\\.1[[:space:]]' /etc/hosts; then ".toList ++
    "sudo sed -i \"s/^127\\.0\\.1\\.1[[:space:]].*/127.0.1.1\\t".toList ++ newHostname ++
    "/\" /etc/hosts; else printf '127.0.1.1\\t".toList ++ newHostname ++
    "\\n' | sudo tee -a /etc/hosts >/dev/null; fi; sudo reboot".toList

/-- `rename_and_reboot` -/
def renameAndReboot (strRepr : List Char → String) (ip newHostname : List Char) :
    Procedure StepResult :=
  if ¬isValidName newHostname then
    return refuse ("ホスト名に使えない文字が含まれています: " ++ strRepr newHostname)
  else
    guarded (sshPi ip (renameCommand newHostname) none)
      (.ofList newHostname ++ " へ変更し再起動しました")

def avahiCommand : List Char := "sudo systemctl restart avahi-daemon".toList

/-- The loop of `restart_mdns`. -/
def restartEach : List (List Char) → Procedure (List (List Char))
  | [] => return []
  | ip :: ips => do
      let out ← sshPi ip avahiCommand none
      let outs ← restartEach ips
      return out :: outs

/-- `restart_mdns` -/
def restartMdns (ips : List (List Char)) : Procedure StepResult :=
  guarded (do return ['\n'].intercalate (← restartEach ips))
    (toString ips.length ++ "台の mDNS を再announceしました")

/-- `_align_after_join` -/
def alignAfterJoin (strRepr : List Char → String) (host invName gw : List Char) :
    Procedure StepResult := do
  let aligned ← alignSendTarget strRepr host gw
  if aligned.ok then return aligned
  else
    return ⟨false, .ofList invName ++ " はこのハブへ取り込みましたが、記録の送り先を " ++
      .ofList gw ++ " に揃えられませんでした。 このままでは記録が届きません。" ++
      " python3 -m fleet_ui.child_cli align " ++ .ofList invName ++ " を実行してください。 " ++
      aligned.message, aligned.output⟩

/-- The end of both procedures: the host key, the inventory and the target of a child. -/
def enroll (strRepr : List Char → String) (host invName gw : List Char)
    (result : StepResult → StepResult) : Procedure StepResult := do
  let kh ← registerHostKey invName
  if ¬kh.ok then return kh
  else do
    let added ← addToInventorySteps invName
    if ¬added.ok then return added
    else do
      let aligned ← alignAfterJoin strRepr host invName gw
      if ¬aligned.ok then return aligned
      else return result kh

/-- The addresses that are put into no command. -/
def isUnsafeIp (ip : List Char) : Bool :=
  ip = [] || ip.any (' ' :: shellChars).contains

def hostnameCommand : List Char := "hostname".toList

/-- `probe_hostname` -/
def probeHostname (ip : List Char) : Procedure (List Char) :=
  if isUnsafeIp ip then return []
  else do return strip (← run (sshArgv "3" ip hostnameCommand) none)

/-- What is said of a value of `AP_GW_IP` that is no address. -/
def gwMessage (strRepr : List Char → String) (value : List Char) : String :=
  "site.env の AP_GW_IP が IPv4 ではありません: " ++ strRepr value ++ "。site.env を確認してください"

/-! ## Procedures -/

/-- `adopt_keeping_identity` -/
def adoptKeepingIdentity (strRepr : List Char → String) (hub : Hub) (existing : List String)
    (ip : List Char) : Procedure StepResult :=
  match loadApGwIp hub.siteEnv with
  | .error value => return refuse (gwMessage strRepr value)
  | .ok gw => do
      let hostname ← probeHostname ip
      if hostname = [] then
        return refuse ("このハブの鍵では SSH できません。" ++
          "旧親が工場網にいるなら「他のハブから引き継ぐ」。" ++
          "旧親が無い・別工場なら、クローンした子SDを" ++
          "「子SDをこのハブ用にする」で書いてから起動してください。")
      else
        match validateHostname (.str (.ofList hostname)) existing with
        | .error _ => .fail "TypeError"
        | .ok (some reason) => return refuse reason.message
        | .ok none =>
            enroll strRepr ip
              (if dotLocal.isSuffixOf hostname then hostname else hostname ++ dotLocal) gw
              fun kh => ⟨true, .ofList hostname ++
                " をこのハブへ取り込みました（ホスト名と局番号はそのまま）", kh.output⟩

/-- The hosts that announce themselves again. -/
def mdnsHosts (existing : List String) (newIp : List Char) : List (List Char) :=
  let hosts := ((existing.map fun entry => strip entry.toList).filter (· ≠ [])).foldl
    (fun hosts entry => if hosts.contains entry then hosts else hosts ++ [entry]) []
  if newIp = [] ∨ hosts.contains newIp then hosts else hosts ++ [newIp]

/-- The rest of `register_new_child`, once the child is back. -/
def completeChild (strRepr : List Char → String) (existing : List String) (gw newIp : List Char)
    (newHostname : List Char) : Procedure StepResult := do
  let announced ← restartMdns (mdnsHosts existing newIp)
  if ¬announced.ok then return announced
  else
    enroll strRepr newIp (newHostname ++ dotLocal) gw fun _ =>
      ⟨true, .ofList newHostname ++
        " を登録しました。局番号は空です。子の画面で付けてください。", .ofList newIp⟩

/-- The steps of `register_new_child`. -/
def prepareChild (strRepr : List Char → String) (dev : List Char) (existing : List String)
    (gw ip mac newHostname : List Char) : Procedure StepResult := do
  let stopped ← stopPublisher ip
  if ¬stopped.ok then return stopped
  else do
    let blanked ← blankStaNo ip
    if ¬blanked.ok then return blanked
    else do
      let renamed ← renameAndReboot strRepr ip newHostname
      if ¬renamed.ok then return renamed
      else do
        let waited ← waitForReturn dev mac
        if ¬waited.ok then return waited
        else
          let newIp := match strip waited.output.toList with
            | [] => ip
            | newIp => newIp
          completeChild strRepr existing gw newIp newHostname

/-- `register_new_child` -/
def registerNewChild (strRepr : List Char → String) (hub : Hub) (existing : List String)
    (ip mac newHostname : List Char) : Procedure StepResult :=
  if isUnsafeIp ip then return refuse "子の IP が不正です"
  else
    let mac := lowerName (strip mac)
    if ¬isMac mac then return refuse "子の MAC が不正です"
    else
      match validateHostname (.str (.ofList newHostname)) existing with
      | .error _ => .fail "TypeError"
      | .ok (some reason) => return refuse reason.message
      | .ok none =>
          match loadApGwIp hub.siteEnv with
          | .error value => return refuse (gwMessage strRepr value)
          | .ok gw =>
              prepareChild strRepr (currentApDev hub.apDev) existing gw ip mac newHostname

end PresenceLogger.Fleet.Registration
