import PresenceLogger.Fleet.Discovery
import PresenceLogger.Fleet.Hostname
import PresenceLogger.Fleet.SendTarget
import PresenceLogger.Library.Dialogue

/-!
# Procedures of the hub

What the hub does to a child goes through commands that it runs, some of them on the child or
on another hub, and through two files of its own.  A command that fails says nothing; what
cannot be decoded is an exception.
-/

namespace PresenceLogger.Fleet

open Library Library.Text Library.Shell SendTarget

/-- What a procedure asks for: a command with what is piped into it, a pause, or a file. -/
inductive Ask where
  | run (argv : List (List Char)) (input : Option (List Char))
  | sleep (seconds : Nat)
  | appendKnownHosts (text : List Char)
  | readInventory
  | appendInventory (text : List Char)

/-- What comes back, or the exception. -/
abbrev Reply : Ask → Type
  | .run _ _ => Except String (List Char)
  | .sleep _ => Unit
  | .appendKnownHosts _ => Except String Unit
  | .readInventory => Except String (Option (List Char))
  | .appendInventory _ => Except String Unit

abbrev Procedure := Dialogue Ask Reply String

/-- `run_cmd` and `run_cmd_long` -/
def run (argv : List (List Char)) (input : Option (List Char)) : Procedure (List Char) := do
  Dialogue.ofExcept (← Dialogue.request (.run argv input))

def appendKnownHosts (text : List Char) : Procedure Unit := do
  Dialogue.ofExcept (← Dialogue.request (.appendKnownHosts text))

/-- The text of the inventory, with nothing for a file that is not there. -/
def readInventoryFile : Procedure (List Char) := do
  let file ← Dialogue.ofExcept (← Dialogue.request .readInventory)
  return file.getD []

def appendInventory (text : List Char) : Procedure Unit := do
  Dialogue.ofExcept (← Dialogue.request (.appendInventory text))

def sleep (seconds : Nat) : Procedure Unit := Dialogue.request (Ask.sleep seconds)

/-- `_guarded` -/
def guarded (step : Procedure (List Char)) (okMessage : String) : Procedure StepResult :=
  Dialogue.handle (do return ⟨true, okMessage, .ofList (← step)⟩)
    fun error => return ⟨false, "失敗: " ++ error, ""⟩

/-! ## Commands -/

/-- The command line of `ssh`. -/
def sshArgv (timeout : String) (host remote : List Char) : List (List Char) := [
  "ssh".toList,
  "-o".toList, ("ConnectTimeout=" ++ timeout).toList,
  "-o".toList, "BatchMode=yes".toList,
  "-o".toList, "StrictHostKeyChecking=accept-new".toList,
  "pi@".toList ++ host, remote]

/-- `ssh_pi` and `_ssh` -/
def sshPi (host remote : List Char) (input : Option (List Char)) : Procedure (List Char) :=
  run (sshArgv "8" host remote) input

/-- `AP_DEV` -/
def apDev : List Char := "wlan1".toList

/-- `[A-Za-z0-9_.-]` -/
def isDevChar (char : Char) : Bool := char.isAlphanum || ['_', '.', '-'].contains char

/-- `current_ap_dev`, of the variable in the environment. -/
def currentApDev (variable_ : Option (List Char)) : List Char :=
  match strip (variable_.getD []) with
  | [] => apDev
  | raw => if raw.all isDevChar then raw else apDev

def neighArgv (dev : List Char) : List (List Char) :=
  ["ip".toList, "-4".toList, "neigh".toList, "show".toList, "dev".toList, dev]

def keyscanArgv (hostname : List Char) : List (List Char) :=
  ["ssh-keyscan".toList, "-H".toList, hostname]

/-! ### Commands that differ -/

theorem sshArgv_inj {timeout other : String} {host target remote command : List Char}
    (same : sshArgv timeout host remote = sshArgv other target command) :
    host = target ∧ remote = command := by
  have destination := congrArg (·[7]?) same
  have last := congrArg (·[8]?) same
  simp only [sshArgv, List.getElem?_cons_succ, List.getElem?_cons_zero, Option.some.injEq,
    List.append_cancel_left_eq] at destination last
  exact ⟨destination, last⟩

theorem apart_ssh {timeout otherTimeout : String} {host other remote otherRemote : List Char}
    (i : Nat) (apart : remote[i]? ≠ otherRemote[i]?) :
    sshArgv timeout host remote ≠ sshArgv otherTimeout other otherRemote := fun same =>
  apart (congrArg (·[i]?) (Option.some.inj (congrArg List.getLast? same)))

theorem neighArgv_ne_ssh (dev : List Char) {timeout : String} {host remote : List Char} :
    neighArgv dev ≠ sshArgv timeout host remote :=
  fun same => absurd (congrArg List.length same) (by simp [neighArgv, sshArgv])

theorem keyscanArgv_ne_ssh (hostname : List Char) {timeout : String} {host remote : List Char} :
    keyscanArgv hostname ≠ sshArgv timeout host remote :=
  fun same => absurd (congrArg List.length same) (by simp [keyscanArgv, sshArgv])

/-! ## Steps of `provision` -/

/-- `_ssh_alive` -/
def sshAlive (ip : List Char) : Procedure Bool :=
  Dialogue.handle (do
    let _ ← run (sshArgv "5" ip "true".toList) none
    return true) fun _ => return false

/-- The loop of `wait_for_return`, where so many rounds are left. -/
def waitRounds (dev mac : List Char) (lastIp : String) : Nat → Procedure StepResult
  | 0 =>
      let seen := if lastIp = "" then "" else "（" ++ lastIp ++ " は見えていますが応答しません）"
      return ⟨false, "180秒待っても復帰しませんでした" ++ seen, ""⟩
  | rounds + 1 => do
      let out ← run (neighArgv dev) none
      match (parseNeigh out).find? fun neighbor => neighbor.mac = .ofList (lowerName mac) with
      | some neighbor => do
          if ← sshAlive neighbor.ip.toList then
            return ⟨true, "復帰を確認しました (" ++ neighbor.ip ++ ")", neighbor.ip⟩
          else do
            sleep 5
            waitRounds dev mac neighbor.ip rounds
      | none => do
          sleep 5
          waitRounds dev mac lastIp rounds

/-- `wait_for_return`: 180 seconds, a round every 5. -/
def waitForReturn (dev mac : List Char) : Procedure StepResult := waitRounds dev mac "" 36

/-- `register_host_key` -/
def registerHostKey (hostname : List Char) : Procedure StepResult :=
  guarded (do
    let out ← run (keyscanArgv hostname) none
    if strip out = [] then return out
    else do
      appendKnownHosts (if out.getLast? = some '\n' then out else out ++ ['\n'])
      return out) (.ofList hostname ++ " の host key を登録しました")

/-- What `add_to_inventory` writes after this text. -/
def inventoryAddition (existing entry : List Char) : List Char :=
  (if existing.getLast? = some '\n' ∨ existing = [] then [] else ['\n']) ++ entry ++ ['\n']

/-- An entry is added to an inventory with this text. -/
def addEntry (existing entry : List Char) : Procedure (List Char) :=
  if ((splitLines existing).map entryText).contains entry then return "既に登録済みです".toList
  else do
    appendInventory (inventoryAddition existing entry)
    return entry ++ " を追加しました".toList

/-- `add_to_inventory`, step by step. -/
def addToInventorySteps (entry : List Char) : Procedure StepResult :=
  guarded (do addEntry (universalNewlines (← readInventoryFile)) entry) "インベントリを更新しました"

/-! ## The child's target -/

/-- `_SAFE_HOST_RE` -/
def isSafeHost (host : List Char) : Bool :=
  host.head?.any Char.isAlphanum && host.all isDevChar

/-- The command that runs the script on the child. -/
def alignCommand (gw : List Char) : List Char := "bash -c ".toList ++ quote (alignRemoteScript gw)

/-- `align_send_target` -/
def alignSendTarget (strRepr : List Char → String) (host gw : List Char) :
    Procedure StepResult :=
  if ¬checkIpv4 gw then .fail ("IPv4 アドレスではありません: " ++ strRepr gw)
  else if ¬isSafeHost host then return ⟨false, "子の宛先が不正です: " ++ strRepr host, ""⟩
  else do
    let out ← run (sshArgv "8" host (alignCommand gw)) none
    match alignVerdict gw out with
    | some result => return result
    | none => .fail "invalid literal for int()"

theorem alignCommand_zero (gw : List Char) : (alignCommand gw)[0]? = some 'b' := by rfl

/-! ## What is asked -/

section Asks

variable {allowed : Ask → Prop}

theorem asks_run {argv : List (List Char)} {input : Option (List Char)}
    (isAllowed : allowed (.run argv input)) : (run argv input).Asks allowed :=
  (Dialogue.asks_request isAllowed).bind fun reply => Dialogue.asks_ofExcept reply

theorem asks_guarded {step : Procedure (List Char)} {okMessage : String}
    (asks : step.Asks allowed) : (guarded step okMessage).Asks allowed :=
  (asks.bind fun _ => Dialogue.asks_pure _).handle fun _ => Dialogue.asks_pure _

theorem asks_registerHostKey {hostname : List Char}
    (scan : allowed (.run (keyscanArgv hostname) none))
    (append : ∀ text, allowed (.appendKnownHosts text)) :
    (registerHostKey hostname).Asks allowed := by
  refine asks_guarded ((asks_run scan).bind fun out => ?_)
  split
  · trivial
  · refine Dialogue.Asks.bind ?_ fun _ => trivial
    exact (Dialogue.asks_request (append _)).bind fun reply => Dialogue.asks_ofExcept reply

theorem asks_waitRounds {dev mac : List Char} (listing : allowed (.run (neighArgv dev) none))
    (alive : ∀ ip, allowed (.run (sshArgv "5" ip "true".toList) none))
    (pause : ∀ seconds, allowed (.sleep seconds)) (rounds : Nat) (lastIp : String) :
    (waitRounds dev mac lastIp rounds).Asks allowed := by
  induction rounds generalizing lastIp with
  | zero => trivial
  | succ rounds ih =>
      rw [waitRounds]
      refine (asks_run listing).bind fun out => ?_
      split
      · have probe (ip : List Char) : (sshAlive ip).Asks allowed :=
          Dialogue.Asks.handle ((asks_run (alive ip)).bind fun _ => trivial) fun _ => trivial
        refine (probe _).bind fun answers => ?_
        split
        · trivial
        · exact (Dialogue.asks_request (pause 5)).bind fun _ => ih _
      · exact (Dialogue.asks_request (pause 5)).bind fun _ => ih _

theorem asks_alignSendTarget {strRepr : List Char → String} {host gw : List Char}
    (align : allowed (.run (sshArgv "8" host (alignCommand gw)) none)) :
    (alignSendTarget strRepr host gw).Asks allowed := by
  unfold alignSendTarget
  split
  · trivial
  · split
    · trivial
    · refine (asks_run align).bind fun out => ?_
      split <;> trivial

end Asks

end PresenceLogger.Fleet
