import PresenceLogger.Fleet.Registration

/-!
# The order in which a child is registered

Whatever the commands come back with, a copy is stopped before its station numbers are emptied
and these before it is renamed, and nothing is entered before a device with its MAC is back.  A
child that keeps its name is neither stopped nor renamed, and only a name that is free is
entered.
-/

namespace PresenceLogger.Fleet.Registration

open Library Library.Text Library.Shell SendTarget

/-! ## Steps -/

section Steps

variable {justified : Log → Exchange Ask Reply → Prop} {fact : Log → Prop} {σ : Type}
  {env : Environment Ask Reply σ} {state : σ} {log : Log}

/-- A child was asked to run a command. -/
def Asked (host remote : List Char) : Log → Prop :=
  Ran (sshArgv "8" host remote) fun _ => True

theorem lasting_asked (host remote : List Char) : Lasting (Asked host remote) := lasting_ran _ _

/-- A step that is one command. -/
theorem safe_ordered (lasting : Lasting fact) {host remote : List Char} {okMessage : String}
    (may : May justified fact (.run (sshArgv "8" host remote) none))
    (start : Upholds justified fact (state, log)) :
    env.logged.Safe (Upholds justified fact)
      (Tells fun result log => result.ok = true → Asked host remote log)
      (guarded (sshPi host remote none) okMessage) (state, log) :=
  safe_guarded ((safe_run lasting may start).mono (fun _ kept => kept)
    fun _ _ _ told out isOk => ⟨out, told out isOk, trivial⟩)

theorem safe_restartEach (lasting : Lasting fact)
    (may : ∀ host, May justified fact (.run (sshArgv "8" host avahiCommand) none))
    (hosts : List (List Char)) (start : Upholds justified fact (state, log)) :
    env.logged.Safe (Upholds justified fact)
      (Tells fun _ log => ∀ host ∈ hosts, Asked host avahiCommand log) (restartEach hosts)
      (state, log) := by
  induction hosts generalizing fact state log with
  | nil => exact safe_ends start fun host among => absurd among List.not_mem_nil
  | cons host hosts ih =>
      refine (safe_run lasting (may host) start).goOn fun out state log kept => ?_
      refine (ih (lasting.and (lasting_mem _)) (fun host => (may host).and _) kept).goOn ?_
      intro outs state log kept
      exact safe_ends kept (List.forall_mem_cons.mpr ⟨⟨out, kept.2.1.2, trivial⟩, kept.2.2⟩)

/-- A child that is enrolled is in the inventory, and reports that it sends here. -/
theorem safe_enroll (lasting : Lasting fact) {strRepr : List Char → String}
    {host invName gw : List Char} {result : StepResult → StepResult} (present : invName ≠ [])
    (scan : May justified fact (.run (keyscanArgv invName) none))
    (append : ∀ text, May justified fact (.appendKnownHosts text))
    (reading : May justified fact .readInventory)
    (appendEntry : ∀ before, May justified fact
      (.appendInventory (inventoryAddition before invName)))
    (align : May justified (fun log => fact log ∧ Listed invName log)
      (.run (sshArgv "8" host (alignCommand gw)) none))
    (start : Upholds justified fact (state, log)) :
    env.logged.Safe (Upholds justified fact)
      (Tells fun result log => result.ok = true →
        Listed invName log ∧ Ran (sshArgv "8" host (alignCommand gw)) (Accepts gw) log)
      (enroll strRepr host invName gw result) (state, log) := by
  have one := lasting.and (lasting_const True)
  refine (safe_registerHostKey lasting scan append start).goOn fun kh state log kept => ?_
  split
  next failed => exact safe_ends kept fun ok => absurd ok failed
  · refine (safe_addToInventorySteps one present (reading.and _)
      (fun text => (appendEntry text).and _) kept).goOn fun added state log kept => ?_
    split
    next failed => exact safe_ends kept fun ok => absurd ok failed
    next isAdded =>
      have two : Lasting fun log => (fact log ∧ True) ∧ (added.ok = true → Listed invName log) :=
        one.and fun exchange log told isOk => lasting_listed _ _ _ (told isOk)
      have may : May justified (fun log => (fact log ∧ True) ∧
          (added.ok = true → Listed invName log))
          (.run (sshArgv "8" host (alignCommand gw)) none) :=
        fun log known => align log ⟨known.1.1, known.2 (not_not.mp isAdded)⟩
      have aligning : env.logged.Safe (Upholds justified fun log => (fact log ∧ True) ∧
          (added.ok = true → Listed invName log)) (Tells fun result log => result.ok = true →
            Ran (sshArgv "8" host (alignCommand gw)) (Accepts gw) log)
          (alignAfterJoin strRepr host invName gw) (state, log) := by
        refine (safe_alignSendTarget two may kept).goOn fun aligned state log kept => ?_
        split
        · exact safe_ends kept kept.2.2
        · exact safe_ends kept fun ok => nomatch ok
      refine aligning.goOn fun aligned state log kept => ?_
      split
      next failed => exact safe_ends kept fun ok => absurd ok failed
      next ok =>
        exact safe_ends kept fun _ => ⟨kept.2.1.2 (not_not.mp isAdded), kept.2.2 (not_not.mp ok)⟩

end Steps

/-! ## Commands -/

/-! The characters that tell the commands apart. -/

theorem stopCommand_zero : stopCommand[0]? = some 's' := by rfl

theorem stopCommand_five : stopCommand[5]? = some 's' := by rfl

theorem stopCommand_fifteen : stopCommand[15]? = some 's' := by rfl

theorem blankCommand_zero : blankCommand[0]? = some 'c' := by rfl

theorem renameCommand_zero (newHostname : List Char) :
    (renameCommand newHostname)[0]? = some 's' := by rfl

theorem renameCommand_five (newHostname : List Char) :
    (renameCommand newHostname)[5]? = some 'h' := by rfl

theorem avahiCommand_zero : avahiCommand[0]? = some 's' := by rfl

theorem avahiCommand_five : avahiCommand[5]? = some 's' := by rfl

theorem avahiCommand_fifteen : avahiCommand[15]? = some 'r' := by rfl

/-! ## A new child -/

section Register

variable (dev ip mac newHostname : List Char)

/-- The copy has been asked to stop, to empty its station numbers and to rename itself. -/
def Renamed (log : Log) : Prop :=
  Asked ip stopCommand log ∧ Asked ip blankCommand log ∧
    Asked ip (renameCommand newHostname) log

/-- Since then, a device with its MAC has been listed at this address. -/
def Prepared (back : String) (log : Log) : Prop :=
  Renamed ip newHostname log ∧ SeenSince (Renamed ip newHostname) dev mac back log

/-- The address of the child that is back. -/
def hostBack (back : String) : List Char :=
  match strip back.toList with
  | [] => ip
  | newIp => newIp

/-- What may be done after what was said. -/
def RegisterJustified (log : Log) (exchange : Exchange Ask Reply) : Prop :=
  match exchange.question with
  | .run argv input =>
      input = none ∧
        (∀ host, argv = sshArgv "8" host blankCommand → host = ip ∧ Asked ip stopCommand log) ∧
        (∀ host name, argv = sshArgv "8" host (renameCommand name) →
          host = ip ∧ renameCommand name = renameCommand newHostname ∧
            Asked ip stopCommand log ∧ Asked ip blankCommand log) ∧
        (∀ host, argv = sshArgv "8" host avahiCommand →
          ∃ back, Prepared dev ip mac newHostname back log) ∧
        ∀ host gw, argv = sshArgv "8" host (alignCommand gw) →
          (∃ back, host = hostBack ip back ∧ Prepared dev ip mac newHostname back log) ∧
            Listed (newHostname ++ dotLocal) log
  | .appendKnownHosts _ | .appendInventory _ => ∃ back, Prepared dev ip mac newHostname back log
  | .sleep _ | .readInventory => True

end Register

/-- A command that needs nothing before it. -/
structure Unconditional (argv : List (List Char)) : Prop where
  blank : ∀ host, argv ≠ sshArgv "8" host blankCommand
  rename : ∀ host name, argv ≠ sshArgv "8" host (renameCommand name)
  avahi : ∀ host, argv ≠ sshArgv "8" host avahiCommand
  align : ∀ host gw, argv ≠ sshArgv "8" host (alignCommand gw)

section Register

variable {dev ip mac newHostname : List Char} {fact : Log → Prop}

theorem ne_renameCommand {timeout : String} {host other remote : List Char}
    (apart : remote[5]? ≠ some 'h') (name : List Char) :
    sshArgv timeout host remote ≠ sshArgv "8" other (renameCommand name) :=
  apart_ssh 5 (by rwa [renameCommand_five])

theorem ne_alignCommand {timeout : String} {host other remote : List Char}
    (apart : remote[0]? ≠ some 'b') (gw : List Char) :
    sshArgv timeout host remote ≠ sshArgv "8" other (alignCommand gw) :=
  apart_ssh 0 (by rwa [alignCommand_zero])

theorem unconditional_ssh {timeout : String} {host remote : List Char}
    (blank : remote[0]? ≠ some 'c') (rename : remote[5]? ≠ some 'h')
    (avahi : remote[15]? ≠ some 'r') (align : remote[0]? ≠ some 'b') :
    Unconditional (sshArgv timeout host remote) where
  blank _ := apart_ssh 0 (by rwa [blankCommand_zero])
  rename _ name := ne_renameCommand rename name
  avahi _ := apart_ssh 15 (by rwa [avahiCommand_fifteen])
  align _ gw := ne_alignCommand align gw

theorem unconditional_neigh : Unconditional (neighArgv dev) :=
  ⟨fun _ => neighArgv_ne_ssh dev, fun _ _ => neighArgv_ne_ssh dev,
    fun _ => neighArgv_ne_ssh dev, fun _ _ => neighArgv_ne_ssh dev⟩

theorem unconditional_keyscan (hostname : List Char) : Unconditional (keyscanArgv hostname) :=
  ⟨fun _ => keyscanArgv_ne_ssh hostname, fun _ _ => keyscanArgv_ne_ssh hostname,
    fun _ => keyscanArgv_ne_ssh hostname, fun _ _ => keyscanArgv_ne_ssh hostname⟩

theorem may_unconditional {argv : List (List Char)} (free : Unconditional argv) :
    May (RegisterJustified dev ip mac newHostname) fact (.run argv none) :=
  fun _ _ _ => ⟨rfl, fun host same => absurd same (free.blank host),
    fun host name same => absurd same (free.rename host name),
    fun host same => absurd same (free.avahi host),
    fun host gw same => absurd same (free.align host gw)⟩

theorem may_stop : May (RegisterJustified dev ip mac newHostname) fact
    (.run (sshArgv "8" ip stopCommand) none) :=
  may_unconditional (unconditional_ssh (by rw [stopCommand_zero]; decide)
    (by rw [stopCommand_five]; decide) (by rw [stopCommand_fifteen]; decide)
    (by rw [stopCommand_zero]; decide))

theorem may_blank (stopped : ∀ log, fact log → Asked ip stopCommand log) :
    May (RegisterJustified dev ip mac newHostname) fact
      (.run (sshArgv "8" ip blankCommand) none) := by
  intro log known reply
  refine ⟨rfl, fun host same => ⟨(sshArgv_inj same).1.symm, stopped log known⟩,
    fun host name same => ?_, fun host same => ?_, fun host gw same => ?_⟩
  · exact absurd same (apart_ssh 0 (by rw [blankCommand_zero, renameCommand_zero]; decide))
  · exact absurd same (apart_ssh 0 (by rw [blankCommand_zero, avahiCommand_zero]; decide))
  · exact absurd same (ne_alignCommand (by rw [blankCommand_zero]; decide) gw)

theorem may_rename (stopped : ∀ log, fact log → Asked ip stopCommand log)
    (blanked : ∀ log, fact log → Asked ip blankCommand log) :
    May (RegisterJustified dev ip mac newHostname) fact
      (.run (sshArgv "8" ip (renameCommand newHostname)) none) := by
  intro log known reply
  refine ⟨rfl, fun host same => ?_, fun host name same => ?_, fun host same => ?_,
    fun host gw same => ?_⟩
  · exact absurd same (apart_ssh 0 (by rw [blankCommand_zero, renameCommand_zero]; decide))
  · obtain ⟨isHost, isName⟩ := sshArgv_inj same
    exact ⟨isHost.symm, isName.symm, stopped log known, blanked log known⟩
  · exact absurd same.symm (ne_renameCommand (by rw [avahiCommand_five]; decide) newHostname)
  · exact absurd same (ne_alignCommand (by rw [renameCommand_zero]; decide) gw)

theorem may_avahi {back : String}
    (prepared : ∀ log, fact log → Prepared dev ip mac newHostname back log) (host : List Char) :
    May (RegisterJustified dev ip mac newHostname) fact
      (.run (sshArgv "8" host avahiCommand) none) := by
  intro log known reply
  refine ⟨rfl, fun host same => ?_, fun host name same => ?_,
    fun _ _ => ⟨back, prepared log known⟩, fun other gw same => ?_⟩
  · exact absurd same (apart_ssh 0 (by rw [blankCommand_zero, avahiCommand_zero]; decide))
  · exact absurd same (ne_renameCommand (by rw [avahiCommand_five]; decide) name)
  · exact absurd same (ne_alignCommand (by rw [avahiCommand_zero]; decide) gw)

theorem may_align {back : String}
    (prepared : ∀ log, fact log → Prepared dev ip mac newHostname back log)
    (listed : ∀ log, fact log → Listed (newHostname ++ dotLocal) log) (gw : List Char) :
    May (RegisterJustified dev ip mac newHostname) fact
      (.run (sshArgv "8" (hostBack ip back) (alignCommand gw)) none) := by
  intro log known reply
  refine ⟨rfl, fun host same => ?_, fun host name same => ?_, fun other same => ?_,
    fun host gw same => ?_⟩
  · exact absurd same.symm (ne_alignCommand (by rw [blankCommand_zero]; decide) gw)
  · exact absurd same.symm (ne_alignCommand (by rw [renameCommand_zero]; decide) gw)
  · exact absurd same.symm (ne_alignCommand (by rw [avahiCommand_zero]; decide) gw)
  · exact ⟨⟨back, (sshArgv_inj same).1.symm, prepared log known⟩, listed log known⟩

/-! ### The procedure -/

/-- A result that is good says that the child has been registered. -/
def Registered (dev ip mac newHostname : List Char) (siteEnv : Option (List Char))
    (existing : List String) (result : StepResult) (log : Log) : Prop :=
  result.ok = true →
    (∀ entry ∈ existing, strip entry.toList ≠ [] →
      Asked (strip entry.toList) avahiCommand log) ∧
    Listed (newHostname ++ dotLocal) log ∧
    ∃ back, Prepared dev ip mac newHostname back log ∧
      Retargeted siteEnv (hostBack ip back) log

variable {siteEnv : Option (List Char)} {existing : List String} {σ : Type}
  {env : Environment Ask Reply σ} {state : σ} {log : Log}

/-- What holds in each state of a run. -/
abbrev Kept (dev ip mac newHostname : List Char) (fact : Log → Prop) : σ × Log → Prop :=
  Upholds (RegisterJustified dev ip mac newHostname) fact

theorem mem_mdnsHosts {entry : String} (among : entry ∈ existing)
    (present : strip entry.toList ≠ []) (newIp : List Char) :
    strip entry.toList ∈ mdnsHosts existing newIp := by
  have folded (entries hosts : List (List Char)) : hosts ⊆ entries.foldl
        (fun hosts entry => if hosts.contains entry then hosts else hosts ++ [entry]) hosts ∧
      entries ⊆ entries.foldl
        (fun hosts entry => if hosts.contains entry then hosts else hosts ++ [entry]) hosts := by
    induction entries generalizing hosts with
    | nil => exact ⟨fun _ inside => inside, List.nil_subset _⟩
    | cons first entries ih =>
        obtain ⟨before, after⟩ := ih (if hosts.contains first then hosts else hosts ++ [first])
        rw [List.foldl_cons]
        refine ⟨fun host inside => before ?_, List.cons_subset.mpr ⟨before ?_, after⟩⟩
        · split
          · exact inside
          · exact List.mem_append_left _ inside
        · split
          next inside => exact List.contains_iff_mem.mp inside
          next => exact List.mem_append_right _ (List.mem_singleton_self first)
  have inHosts := (folded ((existing.map fun entry => strip entry.toList).filter (· ≠ [])) []).2
    (List.mem_filter.mpr ⟨List.mem_map_of_mem among, by simpa using present⟩)
  rw [mdnsHosts]
  split
  · exact inHosts
  · exact List.mem_append_left _ inHosts

theorem safe_completeChild (lasting : Lasting fact) {strRepr : List Char → String}
    {gw : List Char} {back : String} (loaded : loadApGwIp siteEnv = .ok gw)
    (prepared : ∀ log, fact log → Prepared dev ip mac newHostname back log)
    (start : Kept dev ip mac newHostname fact (state, log)) :
    env.logged.Safe (Kept dev ip mac newHostname fact)
      (Tells (Registered dev ip mac newHostname siteEnv existing))
      (completeChild strRepr existing gw (hostBack ip back) newHostname) (state, log) := by
  have announcing : env.logged.Safe (Kept dev ip mac newHostname fact)
      (Tells fun result log => result.ok = true →
        ∀ host ∈ mdnsHosts existing (hostBack ip back), Asked host avahiCommand log)
      (restartMdns (mdnsHosts existing (hostBack ip back))) (state, log) := by
    refine safe_guarded ((safe_restartEach lasting (may_avahi prepared) _ start).goOn ?_)
    exact fun outs state log kept => safe_ends kept kept.2.2
  refine announcing.goOn fun announced state log kept => ?_
  split
  next failed => exact safe_ends kept fun ok => absurd ok failed
  next ok =>
    have one : Lasting fun log => fact log ∧ (announced.ok = true →
        ∀ host ∈ mdnsHosts existing (hostBack ip back), Asked host avahiCommand log) :=
      lasting.and fun exchange log told isOk host among =>
        lasting_asked _ _ _ _ (told isOk host among)
    have present : newHostname ++ dotLocal ≠ [] :=
      List.append_ne_nil_of_right_ne_nil _ (by decide)
    refine (safe_enroll one present (may_unconditional (unconditional_keyscan _))
      (fun _ log known _ => ⟨back, prepared log known.1⟩) (fun _ _ _ => trivial)
      (fun _ log known _ => ⟨back, prepared log known.1⟩)
      (may_align (fun log known => prepared log known.1.1) (fun log known => known.2) gw)
      kept).mono (fun _ kept => kept) ?_
    intro outcome after kept told result isOk isGood
    obtain ⟨listed, accepted⟩ := told result isOk isGood
    refine ⟨fun entry among present => ?_, listed, back, prepared _ kept.2.1, gw, loaded, accepted⟩
    exact kept.2.2 (not_not.mp ok) _ (mem_mdnsHosts among present _)

theorem safe_prepareChild {strRepr : List Char → String} {gw : List Char}
    (loaded : loadApGwIp siteEnv = .ok gw) (isLower : lowerName mac = mac)
    (start : Kept dev ip mac newHostname (fun _ => True) (state, log)) :
    env.logged.Safe (Kept dev ip mac newHostname fun _ => True)
      (Tells (Registered dev ip mac newHostname siteEnv existing))
      (prepareChild strRepr dev existing gw ip mac newHostname) (state, log) := by
  have none_ : Lasting fun _ : Log => True := lasting_const True
  have later {host remote : List Char} {result : StepResult} :
      Lasting fun log => result.ok = true → Asked host remote log :=
    fun exchange log told isOk => lasting_asked _ _ _ _ (told isOk)
  refine (safe_ordered none_ may_stop start).goOn fun stopped state log kept => ?_
  split
  next failed => exact safe_ends kept fun ok => absurd ok failed
  next isStopped =>
    have one := none_.and (@later ip stopCommand stopped)
    refine (safe_ordered one (may_blank fun log known => known.2 (not_not.mp isStopped))
      kept).goOn fun blanked state log kept => ?_
    split
    next failed => exact safe_ends kept fun ok => absurd ok failed
    next isBlanked =>
      have two := one.and (@later ip blankCommand blanked)
      have naming : env.logged.Safe (Kept dev ip mac newHostname fun log =>
            (True ∧ (stopped.ok = true → Asked ip stopCommand log)) ∧
              (blanked.ok = true → Asked ip blankCommand log))
          (Tells fun result log => result.ok = true → Asked ip (renameCommand newHostname) log)
          (renameAndReboot strRepr ip newHostname) (state, log) := by
        rw [renameAndReboot]
        split
        · exact safe_ends kept fun ok => nomatch ok
        · exact safe_ordered two (may_rename (fun log known => known.1.2 (not_not.mp isStopped))
            (fun log known => known.2 (not_not.mp isBlanked))) kept
      refine naming.goOn fun renamed state log kept => ?_
      split
      next failed => exact safe_ends kept fun ok => absurd ok failed
      next isRenamed =>
        have three := two.and (@later ip (renameCommand newHostname) renamed)
        have probe (host : List Char) : Unconditional (sshArgv "5" host "true".toList) :=
          unconditional_ssh (by decide) (by decide) (by decide) (by decide)
        refine (safe_waitRounds three (may_unconditional unconditional_neigh)
          (fun host => may_unconditional (probe host)) (fun _ _ _ => trivial) 36
          kept).goOn fun waited state log kept => ?_
        split
        next failed => exact safe_ends kept fun ok => absurd ok failed
        next isBack =>
          have renamed (log : Log) (known : ((True ∧ (stopped.ok = true →
              Asked ip stopCommand log)) ∧ (blanked.ok = true → Asked ip blankCommand log)) ∧
                (renamed.ok = true → Asked ip (renameCommand newHostname) log)) :
              Renamed ip newHostname log :=
            ⟨known.1.1.2 (not_not.mp isStopped), known.1.2 (not_not.mp isBlanked),
              known.2 (not_not.mp isRenamed)⟩
          refine safe_completeChild (three.and ?_) loaded (fun log known => ?_) kept
          · exact fun exchange log told isOk => lasting_seenSince _ _ _ _ _ _ (told isOk)
          · have seen := known.2 (not_not.mp isBack)
            rw [isLower] at seen
            exact ⟨renamed log known.1, seen.mono renamed⟩

end Register

/-- Whatever is answered, everything that is done to a new child was justified by what was
answered before, and a child that is reported as registered has gone through all steps. -/
theorem registerNewChild_ordered {σ : Type} (env : Environment Ask Reply σ)
    (strRepr : List Char → String) (hub : Hub) (existing : List String)
    (ip mac newHostname : List Char) {start now : σ} {log : Log} {rest : Procedure StepResult}
    (reaches : env.logged.Reaches
      ((start, []), registerNewChild strRepr hub existing ip mac newHostname) ((now, log), rest)) :
    Grounded (RegisterJustified (currentApDev hub.apDev) ip (lowerName (strip mac)) newHostname)
        log ∧
      (∀ result, rest = .done result →
        Registered (currentApDev hub.apDev) ip (lowerName (strip mac)) newHostname hub.siteEnv
          existing result log) ∧
      (log ≠ [] → validateHostname (.str (.ofList newHostname)) existing = .ok none) := by
  have begins : Kept (currentApDev hub.apDev) ip (lowerName (strip mac)) newHostname
      (fun _ => True) (start, []) := ⟨grounded_nil, trivial⟩
  have safe : env.logged.Safe (Kept (currentApDev hub.apDev) ip (lowerName (strip mac))
      newHostname fun _ => True) (Tells (Registered (currentApDev hub.apDev) ip
        (lowerName (strip mac)) newHostname hub.siteEnv existing))
      (registerNewChild strRepr hub existing ip mac newHostname) (start, []) := by
    rw [registerNewChild]
    split
    · exact safe_ends begins fun ok => nomatch ok
    · dsimp only
      split
      · exact safe_ends begins fun ok => nomatch ok
      · split
        · exact ⟨begins, tells_error⟩
        · exact safe_ends begins fun ok => nomatch ok
        · split
          · exact safe_ends begins fun ok => nomatch ok
          next gw loaded => exact safe_prepareChild loaded (lowerName_lowerName _) begins
  have quiet : validateHostname (.str (.ofList newHostname)) existing ≠ .ok none →
      env.logged.Safe (fun state => state.2 = []) (fun _ _ => True)
        (registerNewChild strRepr hub existing ip mac newHostname) (start, []) := by
    intro refused
    rw [registerNewChild]
    split
    · exact ⟨rfl, trivial⟩
    · dsimp only
      split
      · exact ⟨rfl, trivial⟩
      · split
        · exact ⟨rfl, trivial⟩
        · exact ⟨rfl, trivial⟩
        next free => exact absurd free refused
  have reached := safe.reaches reaches
  refine ⟨reached.now.1, fun result ends => ?_, fun asked => ?_⟩
  · subst ends
    exact tells_ok.mp reached.2
  · by_contra refused
    exact asked ((quiet refused).reaches reaches).now

/-! ### A copy that is registered -/

def hubB : Hub where
  apDev := none
  siteEnv := some "AP_GW_IP='10.43.0.1'\n".toList
  apJoinEnv := none
  secretsEnv := none
  pubkeyFile := none

/-- What the commands say when all goes well. -/
def registerOutputs : Nat → List Char
  | 3 => "10.43.0.78 lladdr 2C:CF:67:C1:1D:7B STALE\n".toList
  | 7 => "|1|hub-b-002 ssh-ed25519 AAAA\n".toList
  | 11 => alignOutput restartedChild
  | _ => []

theorem registering : ∃ now log result,
    (Environment.ofAnswers (answering registerOutputs)).logged.Reaches
      ((0, []), registerNewChild String.ofList hubB ["hub-b-001.local"] "10.43.0.77".toList
        "2C:CF:67:C1:1D:7B ".toList "hub-b-002".toList)
      ((now, log), .done result) ∧ result.ok = true :=
  exists_run 20 (by decide +kernel)

theorem registerNewChild_ordered_copy : ∃ log : Log,
    Asked "10.43.0.77".toList (renameCommand "hub-b-002".toList) log ∧
      Asked "hub-b-001.local".toList avahiCommand log ∧
      ∃ back, Retargeted hubB.siteEnv (hostBack "10.43.0.77".toList back) log := by
  obtain ⟨now, log, result, reaches, good⟩ := registering
  obtain ⟨announced, -, back, prepared, retargeted⟩ := (registerNewChild_ordered
    (.ofAnswers (answering registerOutputs)) String.ofList hubB ["hub-b-001.local"]
    "10.43.0.77".toList "2C:CF:67:C1:1D:7B ".toList "hub-b-002".toList reaches).2.1 result rfl good
  have name : strip "hub-b-001.local".toList = "hub-b-001.local".toList := by decide
  have others := announced "hub-b-001.local" (List.mem_singleton_self _)
  rw [name] at others
  exact ⟨log, prepared.1.2.2, others (by decide), back, retargeted⟩

/-! ## A child that keeps its name -/

section Adopt

variable (ip : List Char) (existing : List String)

/-- The child has said its name, which is free. -/
def Named (hostname : List Char) (log : Log) : Prop :=
  Ran (sshArgv "3" ip hostnameCommand) (strip · = hostname) log ∧
    validateHostname (.str (.ofList hostname)) existing = .ok none

/-- What may be done after what was said: the child is never stopped, emptied or renamed. -/
def AdoptJustified (log : Log) (exchange : Exchange Ask Reply) : Prop :=
  match exchange.question with
  | .run argv input =>
      input = none ∧ ∀ host, argv ≠ sshArgv "8" host stopCommand ∧
        argv ≠ sshArgv "8" host blankCommand ∧
        ∀ name, argv ≠ sshArgv "8" host (renameCommand name)
  | .appendKnownHosts _ => ∃ hostname, Named ip existing hostname log
  | .appendInventory text => ∃ hostname, Named ip existing hostname log ∧
      ∃ before, text = inventoryAddition before (hostname ++ dotLocal)
  | .sleep _ | .readInventory => True

end Adopt

section Adopt

variable {ip : List Char} {existing : List String} {fact : Log → Prop}

theorem may_keep {argv : List (List Char)} (stop : ∀ host, argv ≠ sshArgv "8" host stopCommand)
    (blank : ∀ host, argv ≠ sshArgv "8" host blankCommand)
    (rename : ∀ host name, argv ≠ sshArgv "8" host (renameCommand name)) :
    May (AdoptJustified ip existing) fact (.run argv none) :=
  fun _ _ _ => ⟨rfl, fun host => ⟨stop host, blank host, rename host⟩⟩

theorem may_probe : May (AdoptJustified ip existing) fact
    (.run (sshArgv "3" ip hostnameCommand) none) :=
  may_keep (fun _ => apart_ssh 0 (by rw [stopCommand_zero]; decide))
    (fun _ => apart_ssh 0 (by rw [blankCommand_zero]; decide))
    fun _ name => ne_renameCommand (by decide) name

theorem may_alignAdopted (host gw : List Char) : May (AdoptJustified ip existing) fact
    (.run (sshArgv "8" host (alignCommand gw)) none) := by
  refine may_keep (fun _ same => ?_) (fun _ same => ?_) fun _ name same => ?_
  · exact absurd same.symm (ne_alignCommand (by rw [stopCommand_zero]; decide) gw)
  · exact absurd same.symm (ne_alignCommand (by rw [blankCommand_zero]; decide) gw)
  · exact absurd same.symm (ne_alignCommand (by rw [renameCommand_zero]; decide) gw)

/-- A result that is good says that the child has been taken in under its name. -/
def Adopted (ip : List Char) (existing : List String) (siteEnv : Option (List Char))
    (result : StepResult) (log : Log) : Prop :=
  result.ok = true → ∃ hostname, Named ip existing hostname log ∧
    Listed (hostname ++ dotLocal) log ∧ Retargeted siteEnv ip log

theorem noSuffix_of_valid {hostname : List Char}
    (free : validateHostname (.str (.ofList hostname)) existing = .ok none) :
    dotLocal.isSuffixOf hostname = false := by
  obtain ⟨-, valid, -⟩ := validateHostname_eq_none.mp free
  rw [String.toList_ofList] at valid
  rw [← Bool.not_eq_true, List.isSuffixOf_iff_suffix]
  intro ends
  have among : '.' ∈ hostname := ends.subset (by decide)
  obtain ⟨-, -, notDot⟩ := plain_of_nameChar ((isValidName_iff.mp valid).2.2 '.' among)
  exact notDot rfl

end Adopt

/-- Whatever is answered, a child that keeps its name is never stopped, emptied or renamed, and
only a name that is free is entered. -/
theorem adoptKeepingIdentity_ordered {σ : Type} (env : Environment Ask Reply σ)
    (strRepr : List Char → String) (hub : Hub) (existing : List String) (ip : List Char)
    {start now : σ} {log : Log} {rest : Procedure StepResult}
    (reaches : env.logged.Reaches
      ((start, []), adoptKeepingIdentity strRepr hub existing ip) ((now, log), rest)) :
    Grounded (AdoptJustified ip existing) log ∧
      ∀ result, rest = .done result → Adopted ip existing hub.siteEnv result log := by
  have begins : Upholds (AdoptJustified ip existing) (fun _ => True) (start, []) :=
    ⟨grounded_nil, trivial⟩
  have none_ : Lasting fun _ : Log => True := lasting_const True
  have safe : env.logged.Safe (Upholds (AdoptJustified ip existing) fun _ => True)
      (Tells (Adopted ip existing hub.siteEnv)) (adoptKeepingIdentity strRepr hub existing ip)
      (start, []) := by
    rw [adoptKeepingIdentity]
    split
    · exact safe_ends begins fun ok => nomatch ok
    next gw loaded =>
      have probing : env.logged.Safe (Upholds (AdoptJustified ip existing) fun _ => True)
          (Tells fun hostname log => hostname ≠ [] →
            Ran (sshArgv "3" ip hostnameCommand) (strip · = hostname) log)
          (probeHostname ip) (start, []) := by
        rw [probeHostname]
        split
        · exact safe_ends begins fun present => absurd rfl present
        · refine (safe_run none_ may_probe begins).goOn fun out state log kept => ?_
          exact safe_ends kept fun _ => ⟨out, kept.2.2, rfl⟩
      refine probing.goOn fun hostname state log kept => ?_
      split
      · exact safe_ends kept fun ok => nomatch ok
      next present =>
        split
        · exact ⟨kept, tells_error⟩
        · exact safe_ends kept fun ok => nomatch ok
        next free =>
          have one : Lasting fun log : Log => True ∧ (hostname ≠ [] →
              Ran (sshArgv "3" ip hostnameCommand) (strip · = hostname) log) :=
            none_.and fun exchange log told isThere => lasting_ran _ _ _ _ (told isThere)
          have named (log : Log) (known : True ∧ (hostname ≠ [] →
              Ran (sshArgv "3" ip hostnameCommand) (strip · = hostname) log)) :
              Named ip existing hostname log := ⟨known.2 present, free⟩
          rw [noSuffix_of_valid free]
          refine (safe_enroll one (List.append_ne_nil_of_left_ne_nil present _)
            (may_keep (fun _ => keyscanArgv_ne_ssh _) (fun _ => keyscanArgv_ne_ssh _)
              fun _ _ => keyscanArgv_ne_ssh _)
            (fun _ log known _ => ⟨hostname, named log known⟩) (fun _ _ _ => trivial)
            (fun before log known _ => ⟨hostname, named log known, before, rfl⟩)
            (may_alignAdopted ip gw) kept).mono (fun _ kept => kept) ?_
          intro outcome after kept told result isOk isGood
          obtain ⟨listed, accepted⟩ := told result isOk isGood
          exact ⟨hostname, named _ kept.2, listed, gw, loaded, accepted⟩
  have reached := safe.reaches reaches
  refine ⟨reached.now.1, fun result ends => ?_⟩
  subst ends
  exact tells_ok.mp reached.2

/-! ### A child that is taken in -/

def adoptOutputs : Nat → List Char
  | 0 => "hub-b-002\n".toList
  | 1 => "|1|hub-b-002 ssh-ed25519 AAAA".toList
  | 5 => alignOutput restartedChild
  | _ => []

theorem adopting : ∃ now log result,
    (Environment.ofAnswers (answering adoptOutputs)).logged.Reaches
      ((0, []), adoptKeepingIdentity String.ofList hubB ["hub-b-001.local"] "10.43.0.77".toList)
      ((now, log), .done result) ∧ result.ok = true :=
  exists_run 20 (by decide +kernel)

theorem adoptKeepingIdentity_ordered_child : ∃ log hostname,
    Named "10.43.0.77".toList ["hub-b-001.local"] hostname log ∧
      Listed (hostname ++ dotLocal) log := by
  obtain ⟨now, log, result, reaches, good⟩ := adopting
  obtain ⟨hostname, named, listed, -⟩ := (adoptKeepingIdentity_ordered
    (.ofAnswers (answering adoptOutputs)) String.ofList hubB ["hub-b-001.local"]
    "10.43.0.77".toList reaches).2 result rfl good
  exact ⟨log, hostname, named, listed⟩

end PresenceLogger.Fleet.Registration
