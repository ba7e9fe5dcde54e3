import PresenceLogger.Fleet.ProcedureLog
import PresenceLogger.Fleet.Takeover

/-!
# The order in which a child is taken

Whatever the commands come back with, a child's network is not switched before the child has
this hub's key, this hub's inventory is not touched before the child has appeared, and the old
hub's is not written before the child sends here.
-/

namespace PresenceLogger.Fleet.Takeover

open Library Library.Text Library.Shell SendTarget

section Order

variable (hub : Hub) (oldHost entry : List Char)

/-- The child has this hub's key. -/
def Admitted : Log → Prop :=
  Ran (sshArgv "8" oldHost (nestedSsh entry (keyInner hub.pubkey))) (keyOk <:+: ·)

/-- The child's network has been switched. -/
def Switched (log : Log) : Prop :=
  ∃ keyfile out,
    ⟨.run (sshArgv "8" oldHost (nestedSsh entry wifiInstall)) (some keyfile), .ok out⟩ ∈ log

/-- Since then, the device that the old hub has reached is under this hub's access point, at
this address. -/
def Arrived (ip : String) (log : Log) : Prop :=
  ∃ mac ≠ [], Ran (sshArgv "8" oldHost (nestedSsh entry macInner)) (extractMac · = mac) log ∧
    SeenSince (Switched oldHost entry) (currentApDev hub.apDev) mac ip log

/-- The child's address, or its name if that is none. -/
def hostAt (ip : String) : List Char :=
  if matchesIpv4 (strip ip.toList) then strip ip.toList else inventoryName entry

/-- The old hub need not know the child any more: it has this hub's key and network, it is in
the inventory, and it reports that it sends here. -/
def Settled (log : Log) : Prop :=
  Admitted hub oldHost entry log ∧ Listed (inventoryName entry) log ∧
    ∃ ip, Arrived hub oldHost entry ip log ∧ Retargeted hub.siteEnv (hostAt entry ip) log

/-- What may be done after what was said.  Nothing is piped into any other command than the
one that switches the network of the child. -/
def Justified (log : Log) (exchange : Exchange Ask Reply) : Prop :=
  match exchange.question with
  | .run argv input =>
      (∀ host child, argv = sshArgv "8" host (nestedSsh child wifiInstall) →
        host = oldHost ∧ child = entry ∧ Admitted hub oldHost entry log ∧
          ∃ keyfile, input = some keyfile ∧ Reads hub.ssid hub.psk keyfile) ∧
      (∀ host text, argv = sshArgv "8" host (writeCommand text) →
        host = oldHost ∧ Settled hub oldHost entry log) ∧
      (argv ≠ sshArgv "8" oldHost (nestedSsh entry wifiInstall) → input = none)
  | .appendKnownHosts _ | .appendInventory _ => ∃ ip, Arrived hub oldHost entry ip log
  | .sleep _ | .readInventory => True

end Order

/-! ## Commands -/

/-- A command that neither switches a network nor writes an inventory. -/
structure Harmless (argv : List (List Char)) : Prop where
  noSwitch : ∀ host child, argv ≠ sshArgv "8" host (nestedSsh child wifiInstall)
  noWrite : ∀ host text, argv ≠ sshArgv "8" host (writeCommand text)

theorem nestedSsh_zero (entry inner : List Char) : (nestedSsh entry inner)[0]? = some 's' := by
  rfl

theorem writeCommand_zero (text : List Char) : (writeCommand text)[0]? = some 'p' := by rfl

theorem harmless_ssh {timeout : String} {host remote : List Char} (noSwitch : remote[0]? ≠ some 's')
    (noWrite : remote[0]? ≠ some 'p') : Harmless (sshArgv timeout host remote) where
  noSwitch _ child := apart_ssh 0 (by rwa [nestedSsh_zero])
  noWrite _ text := apart_ssh 0 (by rwa [writeCommand_zero])

/-- Another command for a child. -/
theorem harmless_nested {timeout : String} {host entry inner : List Char}
    (apart : inner ≠ wifiInstall) : Harmless (sshArgv timeout host (nestedSsh entry inner)) where
  noSwitch _ _ same := apart (nestedSsh_inj (sshArgv_inj same).2).2
  noWrite _ text := apart_ssh 0 (by rw [nestedSsh_zero, writeCommand_zero]; decide)

theorem macInner_ne : macInner ≠ wifiInstall :=
  fun same => absurd (congrArg List.head? same) (by decide)

theorem keyInner_ne (pubkey : List Char) : keyInner pubkey ≠ wifiInstall := by
  have colon : (keyInner pubkey)[9]? = some ';' := by rfl
  have feed : wifiInstall[9]? = some '\n' := by decide +kernel
  intro same
  rw [same, feed] at colon
  cases colon

theorem harmless_neigh (dev : List Char) : Harmless (neighArgv dev) :=
  ⟨fun _ _ => neighArgv_ne_ssh dev, fun _ _ => neighArgv_ne_ssh dev⟩

theorem harmless_keyscan (hostname : List Char) : Harmless (keyscanArgv hostname) :=
  ⟨fun _ _ => keyscanArgv_ne_ssh hostname, fun _ _ => keyscanArgv_ne_ssh hostname⟩

theorem harmless_align (host gw : List Char) :
    Harmless (sshArgv "8" host (alignCommand gw)) :=
  harmless_ssh (by rw [alignCommand_zero]; decide) (by rw [alignCommand_zero]; decide)

section Order

variable {hub : Hub} {oldHost entry : List Char} {log : Log}

variable {σ : Type} {env : Environment Ask Reply σ} {state : σ} {fact : Log → Prop}

/-- What holds in each state of a run. -/
abbrev Kept (hub : Hub) (oldHost entry : List Char) (fact : Log → Prop) : σ × Log → Prop :=
  Upholds (Justified hub oldHost entry) fact

/-- Nothing is to be said before other commands. -/
theorem may_run {argv : List (List Char)} (harmless : Harmless argv) :
    May (Justified hub oldHost entry) fact (.run argv none) := by
  intro log known reply
  refine ⟨fun host child same => ?_, fun host text same => ?_, fun _ => rfl⟩
  · exact absurd same (harmless.noSwitch host child)
  · exact absurd same (harmless.noWrite host text)

theorem may_read : May (Justified hub oldHost entry) fact .readInventory := fun _ _ _ => trivial

theorem may_switch {keyfile : List Char} (reads : Reads hub.ssid hub.psk keyfile)
    (admitted : ∀ log, fact log → Admitted hub oldHost entry log) :
    May (Justified hub oldHost entry) fact
      (.run (sshArgv "8" oldHost (nestedSsh entry wifiInstall)) (some keyfile)) := by
  intro log known reply
  refine ⟨fun host child same => ?_, fun host text same => ?_, fun other => absurd rfl other⟩
  · obtain ⟨isHost, nested⟩ := sshArgv_inj same
    exact ⟨isHost.symm, (nestedSsh_inj nested).1.symm, admitted log known, keyfile, rfl, reads⟩
  · exact absurd same (apart_ssh 0 (by rw [nestedSsh_zero, writeCommand_zero]; decide))

theorem may_write (settled : ∀ log, fact log → Settled hub oldHost entry log)
    (text : List Char) :
    May (Justified hub oldHost entry) fact
      (.run (sshArgv "8" oldHost (writeCommand text)) none) := by
  intro log known reply
  refine ⟨fun host child same => ?_, fun host text same => ?_, fun _ => rfl⟩
  · exact absurd same (apart_ssh 0 (by rw [nestedSsh_zero, writeCommand_zero]; decide))
  · exact ⟨(sshArgv_inj same).1.symm, settled log known⟩

/-! ## The procedure -/

/-- A result that is good says that the child has been moved. -/
abbrev Moved (hub : Hub) (oldHost entry : List Char) (result : StepResult) (log : Log) : Prop :=
  result.ok = true → Settled hub oldHost entry log

theorem safe_forgetChild (lasting : Lasting fact) {child : Child} {waited : StepResult}
    (settled : ∀ log, fact log → Settled hub oldHost child.entry log)
    (start : Kept hub oldHost child.entry fact (state, log)) :
    env.logged.Safe (Kept hub oldHost child.entry fact) (Tells (Moved hub oldHost child.entry))
      (forgetChild oldHost child waited) (state, log) := by
  have reading : Harmless (sshArgv "8" oldHost readCommand) := harmless_ssh (by decide) (by decide)
  rw [forgetChild]
  refine (safe_run lasting (may_run reading) start).goOn fun out state log kept => ?_
  have read := lasting.and (lasting_mem ⟨.run (sshArgv "8" oldHost readCommand) none, .ok out⟩)
  split
  · refine (safe_run read ((may_write settled _).and _) kept).goOn fun _ state log kept => ?_
    exact safe_ends kept fun _ => settled log kept.2.1.1
  · exact safe_ends kept fun _ => settled log kept.2.1

theorem safe_retarget (lasting : Lasting fact) {strRepr : List Char → String} {site : Site}
    {child : Child} {waited : StepResult} (loaded : loadApGwIp hub.siteEnv = .ok site.gw)
    (reached : ∀ log, fact log → Admitted hub oldHost child.entry log ∧
      Arrived hub oldHost child.entry waited.output log ∧ Listed child.inventoryName log)
    (start : Kept hub oldHost child.entry fact (state, log)) :
    env.logged.Safe (Kept hub oldHost child.entry fact) (Tells (Moved hub oldHost child.entry))
      (retarget strRepr oldHost site child waited) (state, log) := by
  rw [retarget]
  split
  · exact safe_ends start fun ok => nomatch ok
  · refine (safe_alignSendTarget lasting (may_run (harmless_align _ _)) start).goOn
      fun aligned state log kept => ?_
    split
    · exact safe_ends kept fun ok => nomatch ok
    next ok =>
      refine safe_forgetChild (lasting.and ?_) (fun log known => ?_) kept
      · exact fun exchange log told isOk => lasting_ran _ _ _ _ (told isOk)
      · obtain ⟨admitted, arrived, listed⟩ := reached log known.1
        exact ⟨admitted, listed, waited.output, arrived, site.gw, loaded, known.2 (not_not.mp ok)⟩

theorem safe_registerChildKey (lasting : Lasting fact)
    {child : Child} {ip : List Char}
    (arrived : ∀ log, fact log → ∃ ip, Arrived hub oldHost entry ip log)
    (start : Kept hub oldHost entry fact (state, log)) :
    env.logged.Safe (Kept hub oldHost entry fact) (Tells fun _ _ => True)
      (registerChildKey child ip) (state, log) := by
  have scan (hostname : List Char) {fact : Log → Prop} :
      May (Justified hub oldHost entry) fact (.run (keyscanArgv hostname) none) :=
    may_run (harmless_keyscan hostname)
  refine (safe_registerHostKey lasting (scan _) (fun _ log known _ => arrived log known)
    start).goOn fun kh state log kept => ?_
  split
  · exact safe_registerHostKey (lasting.and (lasting_const True)) (scan ip)
      (fun _ log known _ => arrived log known.1) kept
  · exact safe_ends kept trivial

theorem safe_receiveChild (lasting : Lasting fact) {strRepr : List Char → String} {site : Site}
    {child : Child} {waited : StepResult} (loaded : loadApGwIp hub.siteEnv = .ok site.gw)
    (admitted : ∀ log, fact log → Admitted hub oldHost child.entry log)
    (arrived : ∀ log, fact log → Arrived hub oldHost child.entry waited.output log)
    (start : Kept hub oldHost child.entry fact (state, log)) :
    env.logged.Safe (Kept hub oldHost child.entry fact) (Tells (Moved hub oldHost child.entry))
      (receiveChild strRepr oldHost site child waited) (state, log) := by
  rw [receiveChild]
  have somewhere (log : Log) (known : fact log) : ∃ ip, Arrived hub oldHost child.entry ip log :=
    ⟨waited.output, arrived log known⟩
  refine (safe_registerChildKey lasting somewhere start).goOn fun kh state log kept => ?_
  have one := lasting.and (lasting_const True)
  split
  next failed => exact safe_ends kept fun ok => absurd ok failed
  · refine (safe_addToInventorySteps one (inventoryName_ne_nil child.entry) may_read
      (fun _ log known _ => somewhere log known.1) kept).goOn fun added state log kept => ?_
    split
    next failed => exact safe_ends kept fun ok => absurd ok failed
    next ok =>
      refine safe_retarget (one.and ?_) loaded (fun log known => ?_) kept
      · exact fun exchange log told isOk => lasting_listed _ _ _ (told isOk)
      · exact ⟨admitted log known.1.1, arrived log known.1.1, known.2 (not_not.mp ok)⟩

theorem safe_switchChild (lasting : Lasting fact) {strRepr : List Char → String}
    {uuid : BitVec 128} {site : Site} {child : Child} {mac : List Char}
    (isSite : siteOf strRepr hub = .ok site) (isLower : lowerName mac = mac) (present : mac ≠ [])
    (admitted : ∀ log, fact log → Admitted hub oldHost child.entry log)
    (reached : ∀ log, fact log →
      Ran (sshArgv "8" oldHost (nestedSsh child.entry macInner)) (extractMac · = mac) log)
    (start : Kept hub oldHost child.entry fact (state, log)) :
    env.logged.Safe (Kept hub oldHost child.entry fact) (Tells (Moved hub oldHost child.entry))
      (switchChild strRepr oldHost (currentApDev hub.apDev) uuid site child mac) (state, log) := by
  obtain ⟨-, -, -, loaded⟩ := siteOf_eq_ok isSite
  obtain ⟨keyfile, isFile, reads⟩ := exists_keyfile isSite uuid
  rw [switchChild, isFile]
  refine (safe_run lasting (may_switch reads admitted) start).goOn fun wifiOut state log kept => ?_
  have probe (ip : List Char) : Harmless (sshArgv "5" ip "true".toList) :=
    harmless_ssh (by decide) (by decide)
  refine (safe_waitRounds (lasting.and (lasting_mem _)) (may_run (harmless_neigh _))
    (fun ip => may_run (probe ip)) (fun _ _ _ => trivial) 36 kept).goOn
      fun waited state log kept => ?_
  split
  · exact safe_ends kept fun ok => nomatch ok
  next ok =>
    refine safe_receiveChild ((lasting.and (lasting_mem _)).and ?_) loaded
      (fun log known => admitted log known.1.1) (fun log known => ?_) kept
    · exact fun exchange log told isOk => lasting_seenSince _ _ _ _ _ _ (told isOk)
    · have seen := known.2 (not_not.mp ok)
      rw [isLower] at seen
      exact ⟨mac, present, reached log known.1.1,
        seen.mono fun log since => ⟨keyfile, wifiOut, since.2⟩⟩

theorem safe_admitChild (lasting : Lasting fact) {strRepr : List Char → String}
    {uuid : BitVec 128} {site : Site} {child : Child} (isSite : siteOf strRepr hub = .ok site)
    (start : Kept hub oldHost child.entry fact (state, log)) :
    env.logged.Safe (Kept hub oldHost child.entry fact) (Tells (Moved hub oldHost child.entry))
      (admitChild strRepr oldHost (currentApDev hub.apDev) uuid site child) (state, log) := by
  obtain ⟨pubkey, -, -, -⟩ := siteOf_eq_ok isSite
  rw [admitChild]
  refine (safe_run lasting (may_run (harmless_nested macInner_ne)) start).goOn
    fun macOut state log kept => ?_
  split
  · exact safe_ends kept fun ok => nomatch ok
  next present =>
    have one := lasting.and
      (lasting_mem ⟨.run (sshArgv "8" oldHost (nestedSsh child.entry macInner)) none, .ok macOut⟩)
    refine (safe_run one (may_run (harmless_nested (keyInner_ne _))) kept).goOn
      fun keyOut state log kept => ?_
    split
    · exact safe_ends kept fun ok => nomatch ok
    next admitted =>
      refine safe_switchChild (one.and (lasting_mem _)) isSite (lowerName_extractMac macOut)
        present (fun log known => ?_) (fun log known => ?_) kept
      · exact ⟨keyOut, pubkey ▸ known.2, not_not.mp admitted⟩
      · exact ⟨macOut, known.1.2, rfl⟩

theorem safe_takeNamed {strRepr : List Char → String} {uuid : BitVec 128}
    (start : Kept hub oldHost entry (fun _ => True) (state, log)) :
    env.logged.Safe (Kept hub oldHost entry fun _ => True) (Tells (Moved hub oldHost entry))
      (takeNamed strRepr oldHost hub uuid entry) (state, log) := by
  have none_ : Lasting fun _ : Log => True := lasting_const True
  rw [takeNamed]
  refine (safe_readInventoryFile none_ may_read start).goOn fun text state log kept => ?_
  cases isChild : childOf entry
      ((parseChildrenConf (universalNewlines text)).map String.ofList) with
  | error reason =>
      simp only [isChild]
      exact safe_ends kept fun ok => nomatch ok
  | ok child =>
      simp only [isChild]
      have named : child.entry = entry := entry_of_childOf isChild
      subst named
      cases isSite : siteOf strRepr hub with
      | error reason => exact safe_ends kept fun ok => nomatch ok
      | ok site =>
          refine safe_admitChild (none_.and ?_) isSite kept
          exact lasting_exists fun _ => (lasting_mem _).and (lasting_const _)

theorem safe_takeChild {strRepr : List Char → String} {uuid : BitVec 128} {name : List Char}
    (start : Kept hub oldHost (strip name) (fun _ => True) (state, log)) :
    env.logged.Safe (Kept hub oldHost (strip name) fun _ => True)
      (Tells (Moved hub oldHost (strip name))) (takeChild strRepr oldHost hub uuid name)
      (state, log) := by
  rw [takeChild]
  split
  · exact safe_ends start fun ok => nomatch ok
  · dsimp only
    split
    · exact safe_ends start fun ok => nomatch ok
    · exact safe_takeNamed start

end Order

/-- Whatever is answered, everything that is done was justified by what was answered before,
and a child that is reported as moved has been moved. -/
theorem takeChild_ordered {σ : Type} (env : Environment Ask Reply σ)
    (strRepr : List Char → String) (hub : Hub) (uuid : BitVec 128) (oldHost entry : List Char)
    {start now : σ} {log : Log} {rest : Procedure StepResult}
    (reaches : env.logged.Reaches ((start, []), takeChild strRepr oldHost hub uuid entry)
      ((now, log), rest)) :
    Grounded (Justified hub oldHost (strip entry)) log ∧
      ∀ result, rest = .done result → result.ok = true →
        Settled hub oldHost (strip entry) log := by
  have safe := (safe_takeChild ⟨grounded_nil, trivial⟩).reaches reaches
  refine ⟨safe.now.1, fun result ends ok => ?_⟩
  subst ends
  exact tells_ok.mp safe.2 ok

/-! ### A child that is moved -/

def hubB : Hub where
  apDev := none
  siteEnv := some "AP_GW_IP=10.43.0.1\n".toList
  apJoinEnv := some "AP_SSID=hub-b\nWIFI_AP_PSK=\"correct horse\"\n".toList
  secretsEnv := none
  pubkeyFile := some "ssh-ed25519 AAAAC3Nz pi@hub-b\n".toList

/-- What the commands say when all goes well. -/
def outputs : Nat → List Char
  | 1 => "2c:cf:67:c1:1d:7b\n".toList
  | 2 => "KEY_OK\n".toList
  | 4 => "10.43.0.52 lladdr 2c:cf:67:c1:1d:7b REACHABLE\n".toList
  | 6 => "|1|zero2 ssh-ed25519 AAAA\n".toList
  | 10 => alignOutput restartedChild
  | 11 => "zero1.local\nzero2.local\n\n__PRESENCE_CAT_OK__\n".toList
  | _ => []

theorem moving : ∃ now log result, (Environment.ofAnswers (answering outputs)).logged.Reaches
    ((0, []), takeChild String.ofList "10.0.0.5".toList hubB 7 "zero2.local".toList)
    ((now, log), .done result) ∧ result.ok = true :=
  exists_run 20 (by decide +kernel)

theorem takeChild_ordered_zero2 : ∃ now log result,
    (Environment.ofAnswers (answering outputs)).logged.Reaches
      ((0, []), takeChild String.ofList "10.0.0.5".toList hubB 7 "zero2.local".toList)
      ((now, log), .done result) ∧
    Grounded (Justified hubB "10.0.0.5".toList "zero2.local".toList) log ∧
    result.ok = true ∧ Settled hubB "10.0.0.5".toList "zero2.local".toList log := by
  have name : strip "zero2.local".toList = "zero2.local".toList := by decide
  obtain ⟨now, log, result, reaches, good⟩ := moving
  have ordered := takeChild_ordered (.ofAnswers (answering outputs)) String.ofList hubB 7
    "10.0.0.5".toList "zero2.local".toList reaches
  rw [name] at ordered
  exact ⟨now, log, result, reaches, ordered.1, good, ordered.2 result rfl good⟩

end PresenceLogger.Fleet.Takeover
