import PresenceLogger.Library.Dialogue
import Mathlib.Data.List.Basic

/-!
# Deploying to a child

A deployment backs the files of a child up, copies the new ones over them, starts the services
anew and looks whether they work; when they do not, the old files are put back.  Any command on
the child may fail, and the child goes on by itself in the meantime.
-/

namespace PresenceLogger.Fleet.Deploy

open Library

abbrev Content := List Char

/-- The commands of which only the exit status is looked at. -/
inductive Command where
  | reach
  | backup (tag : String) (files : List String)
  | backupUnits (tag : String) (units : List String)
  | preview (files : List String)
  | rsync (files : List (String × Content))
  | upload (unit : String) (content : Content)
  | install (unit : String)
  | daemonReload
  | enable (unit : String)
  | restart (unit : String)
  | isActive (unit : String)
  | sleep (seconds : Nat)
  | prune
  | restore (tag : String)
  | hasUnit (tag unit : String)
  | installBackup (tag unit : String)

inductive Ask where
  | run (command : Command)
  /-- `hostname -I` -/
  | addresses
  /-- The free space of `df`, with `none` when the number is not read. -/
  | freeMb
  /-- `curl -sf` of the child's web server. -/
  | get (ip : List Char) (path : String)

abbrev Reply : Ask → Type
  | .run _ => Bool
  | .addresses => List Char
  | .freeMb => Option Int
  | .get _ _ => Bool × List Char

/-- How a script ends that fails: by `die`, or by `set -e`. -/
inductive Exit where
  | noFile (file : String)
  | noGateway
  | notRendered
  | unreachable (host : String)
  | noAddress (host : String)
  | noSpace (freeMb : Int)
  | notBackedUp
  | rsyncFailed
  | restoreFailed
  | rolledBack
  | rollbackFailed (tag : String)
  | notRolledBack (tag : String)
  | errexit

/-- What `die` says. -/
def Exit.message : Exit → Option String
  | .noFile file => some ("child/" ++ file ++ " が無い")
  | .noGateway => some "site.env の AP_GW_IP を確認してください"
  | .notRendered => some "send_target_config.json の host を書き換えられません"
  | .unreachable host => some (host ++ " に SSH できません")
  | .noAddress host => some ("子(" ++ host ++ ")のIPv4アドレスを取得できません")
  | .noSpace freeMb => some ("子のディスク空きが少なすぎます (" ++ toString freeMb ++ "MB)")
  | .notBackedUp => some "子のバックアップに失敗"
  | .rsyncFailed => some "rsync 失敗"
  | .restoreFailed => some "ロールバック復元に失敗（手動確認が必要）"
  | .rolledBack =>
      some "デプロイ失敗→ロールバック成功。旧版で稼働中。原因を調査してください"
  | .rollbackFailed tag =>
      some ("デプロイ失敗→ロールバックも不健全。手動対応が必要 (~/.deploy-backups/" ++ tag ++ ")")
  | .notRolledBack tag =>
      some ("デプロイ失敗 (--no-rollback)。~/.deploy-backups/" ++ tag ++ " から手動復元可")
  | .errexit => none

abbrev Script := Dialogue Ask Reply Exit

def run (command : Command) : Script Bool := Dialogue.request (Ask.run command)

def get (ip : List Char) (path : String) : Script (Bool × List Char) :=
  Dialogue.request (Ask.get ip path)

/-- A command that has to succeed. -/
def require (command : Command) (otherwise_ : Exit) : Script Unit := do
  if ← run command then return else Dialogue.fail otherwise_

/-! ## What is deployed -/

def codeFiles : List String :=
  ["Picamera.py", "web_server.py", "child-csv-to-mqtt.py", "index.html", "ack_delivery.py"]

def sendTargetFile : String := "send_target_config.json"

def sharedConfigFiles : List String := ["status_code_config.json", sendTargetFile]

def deviceOwnedFiles : List String :=
  ["id_names_config.json", "threshold_config.json", "recognition_config.json",
    "save_config.json", "model_config.json", "crop_config.json"]

/-- `CHILD_CODE_FILES` and `CHILD_ALL_CONFIG_FILES` -/
def backedUpFiles : List String := codeFiles ++ (sharedConfigFiles ++ deviceOwnedFiles)

def childUnits : List String := ["picamera", "web_server", "child-csv-to-mqtt"]

def unitFile (unit : String) : String := unit ++ ".service"

structure Options where
  withShared : Bool := false
  dryRun : Bool := false
  rollback : Bool := true

/-- The repository on the hub. -/
structure Source where
  /-- `child/` -/
  app : String → Option Content
  /-- `child/systemd/` -/
  units : String → Option Content
  /-- `hub_ap_gw_ip` -/
  gateway : Option (List Char)
  /-- `render_send_target_host` -/
  renderHost : Content → List Char → Option Content

def Source.read (source : Source) : List String → Except Exit (List (String × Content))
  | [] => return []
  | file :: files =>
      match source.app file with
      | none => .error (.noFile file)
      | some content => do return (file, content) :: (← source.read files)

/-- The copies, with this hub's address in the file of the destination. -/
def Source.render (source : Source) (gw : List Char) :
    List (String × Content) → Except Exit (List (String × Content))
  | [] => return []
  | (file, content) :: entries => do
      let rendered ← if file = sendTargetFile then
          match source.renderHost content gw with
          | none => .error .notRendered
          | some rendered => .ok rendered
        else .ok content
      return (file, rendered) :: (← source.render gw entries)

def releasedFiles (withShared : Bool) : List String :=
  if withShared then codeFiles ++ sharedConfigFiles else codeFiles

/-- What is in `SRC_DIR`. -/
def Source.release (source : Source) (withShared : Bool) :
    Except Exit (List (String × Content)) := do
  let entries ← source.read (releasedFiles withShared)
  if withShared then
    match source.gateway with
    | none => .error .noGateway
    | some gw => source.render gw entries
  else return entries

/-! ## The checks -/

structure Settings where
  host : String
  /-- `CHILD_AP_IP`, empty unless it is given. -/
  apIp : List Char := []
  stableWait : Nat := 6
  readyWait : Nat := 30
  verifyE2e : Bool := false

/-- `^[0-9]+(\.[0-9]+){3}$` -/
def isDotted (text : List Char) : Bool :=
  (text.splitOn '.').length = 4 &&
    (text.splitOn '.').all fun part => part ≠ [] && part.all Char.isDigit

def firstIpv4 (text : List Char) : Option (List Char) :=
  (text.splitOnP [' ', '\n'].contains).find? isDotted

def childResolveApIp (settings : Settings) : Script (List Char) :=
  if settings.apIp ≠ [] then return settings.apIp
  else do
    match firstIpv4 (← Dialogue.request Ask.addresses) with
    | some ip => return ip
    | none => Dialogue.fail (.noAddress settings.host)

def requireChildReachable (settings : Settings) : Script (List Char) := do
  require .reach (.unreachable settings.host)
  let ip ← childResolveApIp settings
  let free := (← Dialogue.request Ask.freeMb).getD 0
  if 100 < free then return ip
  else Dialogue.fail (.noSpace free)

/-- The loop of `child_restart_units`. -/
def restartEach : List String → Script Bool
  | [] => return true
  | unit :: units => do
      if ← run (.enable unit) then
        if ← run (.restart unit) then restartEach units else return false
      else return false

/-- `child_restart_units`; both callers test it, so that `set -e` is off in it. -/
def childRestartUnits (units : List String) : Script Bool := do
  let _ ← run .daemonReload
  restartEach units

def allActive : List String → Script Bool
  | [] => return true
  | unit :: units => do
      if ← run (.isActive unit) then allActive units else return false

def childHealthcheck (settings : Settings) (ip : List Char) (units : List String) :
    Script Bool := do
  if ← allActive units then
    let _ ← run (.sleep settings.stableWait)
    if ← allActive units then
      if units.contains "web_server" then return (← get ip "/").1 else return true
    else return false
  else return false

/-- `[[:space:]]`, in a line. -/
def isClassSpace (char : Char) : Bool := [' ', '\t', '\x0b', '\x0c', '\r'].contains char

/-- What follows `"key"[[:space:]]*:[[:space:]]*"` at the beginning of a text. -/
def stringAfter (key text : List Char) : Option (List Char) := do
  let rest ← text.dropPrefix? ('"' :: key ++ ['"'])
  let rest ← (rest.dropWhile isClassSpace).dropPrefix? [':']
  (rest.dropWhile isClassSpace).dropPrefix? ['"']

/-- `grep -q '"key"[[:space:]]*:[[:space:]]*"…'` -/
def grepString (key : List Char) (test : List Char → Bool) (text : List Char) : Bool :=
  (text.splitOn '\n').any fun line => line.tails.any fun rest => (stringAfter key rest).any test

def isReady (status : List Char) : Bool :=
  grepString "status".toList ("ready\"".toList.isPrefixOf) status

/-- The loop of `child_model_ready`, where so many rounds are left. -/
def pollStatus (ip : List Char) : Nat → List Char → Script (List Char)
  | 0, status => return status
  | rounds + 1, _ => do
      let status := (← get ip "/model_status").2
      if isReady status then return status
      else do
        let _ ← run (.sleep 2)
        pollStatus ip rounds status

/-- `child_model_ready`, with no model expected. -/
def childModelReady (settings : Settings) (ip : List Char) : Script Bool := do
  return isReady (← pollStatus ip ((settings.readyWait + 1) / 2) [])

/-- `[^"]*(成功|success|ok)` -/
def saysSuccess (value : List Char) : Bool :=
  (value.takeWhile (· ≠ '"')).tails.any fun rest =>
    ["成功".toList, "success".toList, "ok".toList].any (·.isPrefixOf rest)

def childE2eSendCheck (ip : List Char) : Script Bool := do
  if (← get ip "/send_logs_now").1 then
    let _ ← run (.sleep 3)
    let status := (← get ip "/send_target_status").2
    return grepString "last_result".toList saysSuccess (status.map Char.toLower)
  else return false

/-! ## The script -/

/-- The loop that puts the new units in place. -/
def installUnits (source : Source) : List String → Script Unit
  | [] => return
  | unit :: units => do
      match source.units unit with
      | none => installUnits source units
      | some content => do
          require (.upload unit content) .errexit
          require (.install unit) .errexit
          installUnits source units

/-- The condition for success, once the services are started. -/
def passes (settings : Settings) (ip : List Char) : Script Bool := do
  if ← childHealthcheck settings ip childUnits then
    if ← childModelReady settings ip then
      if settings.verifyE2e then childE2eSendCheck ip else return true
    else return false
  else return false

/-- The condition for success. -/
def comesUp (settings : Settings) (ip : List Char) : Script Bool := do
  if ← childRestartUnits childUnits then passes settings ip else return false

/-- The loop that puts the old units back. -/
def restoreUnits (tag : String) : List String → Script Unit
  | [] => return
  | unit :: units => do
      if ← run (.hasUnit tag unit) then
        let _ ← run (.installBackup tag unit)
        restoreUnits tag units
      else restoreUnits tag units

/-- The old files are put back; the script fails with the result. -/
def rollBack (settings : Settings) (ip : List Char) (tag : String) : Script Exit := do
  require (.restore tag) .restoreFailed
  restoreUnits tag childUnits
  let _ ← childRestartUnits childUnits
  if ← childHealthcheck settings ip childUnits then
    if ← childModelReady settings ip then return .rolledBack
    else return .rollbackFailed tag
  else return .rollbackFailed tag

/-- `deploy-child.sh`, from the distribution on. -/
def distribute (settings : Settings) (options : Options) (source : Source) (tag : String)
    (ip : List Char) (release : List (String × Content)) : Script Unit := do
  require (.rsync release) .rsyncFailed
  installUnits source childUnits
  if ← comesUp settings ip then
    let _ ← run .prune
  else if options.rollback then Dialogue.fail (← rollBack settings ip tag)
  else Dialogue.fail (.notRolledBack tag)

/-- `deploy-child.sh`; `tag` is `TS`. -/
def deployChild (settings : Settings) (options : Options) (source : Source) (tag : String) :
    Script Unit := do
  let release ← Dialogue.ofExcept (source.release options.withShared)
  if options.dryRun then require (.preview (release.map Prod.fst)) .errexit
  else do
    let ip ← requireChildReachable settings
    require (.backup tag backedUpFiles) .notBackedUp
    let _ ← run (.backupUnits tag childUnits)
    distribute settings options source tag ip release

end PresenceLogger.Fleet.Deploy
