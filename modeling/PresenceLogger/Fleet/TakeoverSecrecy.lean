import PresenceLogger.Fleet.Takeover

/-!
# The password of the access point

A child gets the password through the standard input of one command.  Nothing else that the
procedure does or says depends on it, beyond whether it may be used at all.
-/

namespace PresenceLogger.Fleet.Takeover

open Library Library.Text Library.Shell SendTarget

/-- The command that switches the network of a child. -/
def wifiArgv (oldHost entry : List Char) : List (List Char) :=
  sshArgv "8" oldHost (nestedSsh entry wifiInstall)

/-- What is piped into a command, blotted out for the one that may get a secret. -/
def blotted (secretive argv : List (List Char)) (input : Option (List Char)) :
    Option (List Char) :=
  if argv = secretive then input.map fun _ => [] else input

/-- What other users see of a question: everything but what is piped into this command. -/
def seen (secretive : List (List Char)) : Ask → Ask
  | .run argv input => .run argv (blotted secretive argv input)
  | question => question

theorem reply_seen (secretive : List (List Char)) (question : Ask) :
    Reply (seen secretive question) = Reply question := by
  cases question <;> rfl

/-- Two procedures that differ at most in what is piped into this command. -/
def Alike {α : Type} (secretive : List (List Char)) (left right : Procedure α) : Prop :=
  left.redact (reply_seen secretive) = right.redact (reply_seen secretive)

theorem Alike.goOn {α β : Type} {secretive : List (List Char)} {left right : Procedure α}
    {rest further : α → Procedure β} (alike : Alike secretive left right)
    (then_ : ∀ result, Alike secretive (rest result) (further result)) :
    Alike secretive (left >>= rest) (right >>= further) :=
  Dialogue.redact_bind_congr (reply_seen secretive) alike then_

theorem alike_run (argv : List (List Char)) (left right : List Char) :
    Alike argv (run argv (some left)) (run argv (some right)) := by
  have same : blotted argv argv (some left) = blotted argv argv (some right) := by simp [blotted]
  refine Dialogue.redact_bind_congr (reply_seen argv) ?_ fun _ => rfl
  let request (input : Option (List Char)) : Procedure (Except String (List Char)) :=
    .ask (.run argv input) .done
  exact congrArg request same

/-- Two hubs that may differ in the password. -/
structure SameButPsk (hub other : Hub) : Prop where
  apDev : hub.apDev = other.apDev
  siteEnv : hub.siteEnv = other.siteEnv
  pubkeyFile : hub.pubkeyFile = other.pubkeyFile
  ssid : hub.ssid = other.ssid
  missing : hub.psk = [] ↔ other.psk = []
  valid : pskValid hub.psk = pskValid other.psk

/-- What two sites have in common whose passwords may differ. -/
structure SameSite (site other : Site) : Prop where
  pubkey : site.pubkey = other.pubkey
  ssid : site.ssid = other.ssid
  gw : site.gw = other.gw

theorem siteOf_cases (strRepr : List Char → String) {hub other : Hub}
    (same : SameButPsk hub other) :
    (∃ reason, siteOf strRepr hub = .error reason ∧ siteOf strRepr other = .error reason) ∨
      ∃ left right, siteOf strRepr hub = .ok left ∧ siteOf strRepr other = .ok right ∧
        SameSite left right := by
  have pubkey : hub.pubkey = other.pubkey := by rw [Hub.pubkey, Hub.pubkey, same.pubkeyFile]
  unfold siteOf
  simp only [same.ssid, same.missing, same.valid, pubkey]
  split
  · split
    · exact .inl ⟨_, rfl, rfl⟩
    · split
      · split
        · split
          next value loaded =>
            rw [same.siteEnv] at loaded
            split
            next _ again =>
              cases loaded.symm.trans again
              exact .inl ⟨_, rfl, rfl⟩
            next _ again => cases loaded.symm.trans again
          next gw loaded =>
            rw [same.siteEnv] at loaded
            split
            next _ again => cases loaded.symm.trans again
            next _ again =>
              cases loaded.symm.trans again
              exact .inr ⟨_, _, rfl, rfl, ⟨rfl, rfl, rfl⟩⟩
        · exact .inl ⟨_, rfl, rfl⟩
      · exact .inl ⟨_, rfl, rfl⟩
  · exact .inl ⟨_, rfl, rfl⟩

section Procedure

variable {strRepr : List Char → String} {oldHost : List Char} {site other : Site}

theorem retarget_congr (same : SameSite site other) (child : Child) (waited : StepResult) :
    retarget strRepr oldHost site child waited = retarget strRepr oldHost other child waited := by
  rw [retarget, retarget, same.gw]

theorem receiveChild_congr (same : SameSite site other) (child : Child) (waited : StepResult) :
    receiveChild strRepr oldHost site child waited =
      receiveChild strRepr oldHost other child waited := by
  rw [receiveChild, receiveChild]
  simp only [retarget_congr same]

/-- Each site has a file for its children. -/
theorem Site.exists_keyfile (site : Site) (uuid : BitVec 128) :
    ∃ keyfile, nmJoinKeyfile uuid site.ssid site.psk = some keyfile := by
  unfold nmJoinKeyfile nmSsid
  rw [if_neg (not_not_intro site.ssidLength), if_neg (zero_notMem_bytes site.ssidNoNul)]
  split <;> exact ⟨_, rfl⟩

theorem alike_switchChild (same : SameSite site other) (dev mac : List Char) (uuid : BitVec 128)
    (child : Child) :
    Alike (wifiArgv oldHost child.entry) (switchChild strRepr oldHost dev uuid site child mac)
      (switchChild strRepr oldHost dev uuid other child mac) := by
  obtain ⟨left, isLeft⟩ := Site.exists_keyfile site uuid
  obtain ⟨right, isRight⟩ := Site.exists_keyfile other uuid
  rw [switchChild, switchChild, isLeft, isRight]
  refine (alike_run _ left right).goOn fun wifiOut => ?_
  simp only [receiveChild_congr same, same.ssid]
  rfl

theorem alike_admitChild (same : SameSite site other) (dev : List Char) (uuid : BitVec 128)
    (child : Child) :
    Alike (wifiArgv oldHost child.entry) (admitChild strRepr oldHost dev uuid site child)
      (admitChild strRepr oldHost dev uuid other child) := by
  rw [admitChild, admitChild, same.pubkey]
  refine Alike.goOn rfl fun macOut => ?_
  split
  · rfl
  · refine Alike.goOn rfl fun keyOut => ?_
    split
    · rfl
    · exact alike_switchChild same dev _ uuid child

end Procedure

/-- Two hubs whose passwords are both good, or both not, do and say the same, whatever the
commands come back with: the password is nowhere but in what is piped into the command that
switches the network. -/
theorem alike_takeChild (strRepr : List Char → String) {hub other : Hub}
    (same : SameButPsk hub other) (uuid : BitVec 128) (oldHost entry : List Char) :
    Alike (wifiArgv oldHost (strip entry)) (takeChild strRepr oldHost hub uuid entry)
      (takeChild strRepr oldHost other uuid entry) := by
  rw [takeChild, takeChild]
  split
  · rfl
  · dsimp only
    split
    · rfl
    · rw [takeNamed, takeNamed, same.apDev]
      refine Alike.goOn rfl fun text => ?_
      cases isChild : childOf (strip entry)
          ((parseChildrenConf (universalNewlines text)).map String.ofList) with
      | error reason =>
          simp only [isChild]
          rfl
      | ok child =>
          simp only [isChild]
          rcases siteOf_cases strRepr same with ⟨reason, left, right⟩ |
            ⟨site, other, left, right, alike⟩
          · rw [left, right]
            rfl
          · rw [left, right]
            rw [← entry_of_childOf isChild]
            exact alike_admitChild alike _ uuid _

/-- Hubs of one network with this password. -/
def hubWith (psk : List Char) : Hub where
  apDev := none
  siteEnv := some "AP_GW_IP=10.43.0.1\nAP_SSID=hub-b\n".toList
  apJoinEnv := none
  secretsEnv := some ("WIFI_AP_PSK=".toList ++ psk)
  pubkeyFile := some "ssh-ed25519 AAAAC3Nz pi@hub-b\n".toList

theorem alike_takeChild_passwords :
    Alike (wifiArgv "10.0.0.5".toList "zero2.local".toList)
      (takeChild String.ofList "10.0.0.5".toList (hubWith "correct horse".toList) 7
        "zero2.local".toList)
      (takeChild String.ofList "10.0.0.5".toList (hubWith "battery staple".toList) 7
        "zero2.local".toList) := by
  have same : SameButPsk (hubWith "correct horse".toList) (hubWith "battery staple".toList) := by
    refine ⟨rfl, rfl, rfl, ?_, ?_, ?_⟩ <;> decide +kernel
  have name : strip "zero2.local".toList = "zero2.local".toList := by decide
  have alike := alike_takeChild String.ofList same 7 "10.0.0.5".toList "zero2.local".toList
  rwa [name] at alike

end PresenceLogger.Fleet.Takeover
