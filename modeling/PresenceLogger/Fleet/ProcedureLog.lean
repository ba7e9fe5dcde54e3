import PresenceLogger.Fleet.Procedure

/-!
# What the steps of a procedure leave in its log

A step may be taken where each of its questions may be asked.  What it says when it succeeds
is in the log: a device has been seen, an entry has been written, a child has reported.
-/

namespace PresenceLogger.Fleet

open Library Library.Text Library.Shell SendTarget

abbrev Log := List (Exchange Ask Reply)

/-- A command was run, and its output is such. -/
def Ran (argv : List (List Char)) (said : List Char → Prop) (log : Log) : Prop :=
  ∃ out, ⟨.run argv none, .ok out⟩ ∈ log ∧ said out

theorem lasting_ran (argv : List (List Char)) (said : List Char → Prop) :
    Lasting (Ran argv said) :=
  lasting_exists fun out => (lasting_mem _).and (lasting_const (said out))

/-- Since the fact holds, a device with this MAC has been listed under the access point, at
this address. -/
def SeenSince (fact : Log → Prop) (dev mac : List Char) (ip : String) (log : Log) : Prop :=
  ∃ out, SaidAfter fact ⟨.run (neighArgv dev) none, .ok out⟩ log ∧
    ∃ neighbor ∈ parseNeigh out, neighbor.mac = .ofList mac ∧ neighbor.ip = ip

theorem lasting_seenSince (fact : Log → Prop) (dev mac : List Char) (ip : String) :
    Lasting (SeenSince fact dev mac ip) :=
  lasting_exists fun _ => (lasting_saidAfter _ _).and (lasting_const _)

theorem SeenSince.mono {fact weaker : Log → Prop} {dev mac : List Char} {ip : String} {log : Log}
    (implies : ∀ log, fact log → weaker log) (seen : SeenSince fact dev mac ip log) :
    SeenSince weaker dev mac ip log := by
  obtain ⟨out, said, listed⟩ := seen
  exact ⟨out, said.mono implies, listed⟩

/-- The entry is in this hub's inventory. -/
def Listed (entry : List Char) (log : Log) : Prop :=
  (∃ file, ⟨.readInventory, .ok file⟩ ∈ log ∧ entry ∈ parseChildrenConf (file.getD [])) ∨
    ∃ existing, ⟨.appendInventory (inventoryAddition existing entry), .ok ()⟩ ∈ log

theorem lasting_listed (entry : List Char) : Lasting (Listed entry) := by
  intro exchange log listed
  exact listed.imp
    (fun ⟨file, read, among⟩ => ⟨file, List.mem_cons_of_mem _ read, among⟩)
    fun ⟨existing, appended⟩ => ⟨existing, List.mem_cons_of_mem _ appended⟩

/-- The child at this host reports that it sends to this hub. -/
def Retargeted (siteEnv : Option (List Char)) (host : List Char) (log : Log) : Prop :=
  ∃ gw, loadApGwIp siteEnv = .ok gw ∧
    Ran (sshArgv "8" host (alignCommand gw)) (Accepts gw) log

section Steps

variable {justified : Log → Exchange Ask Reply → Prop} {fact : Log → Prop}

/-- A question that may be asked wherever the fact holds. -/
def May (justified : Log → Exchange Ask Reply → Prop) (fact : Log → Prop) (question : Ask) :
    Prop :=
  ∀ log, fact log → ∀ reply, justified log ⟨question, reply⟩

theorem May.and {question : Ask} (may : May justified fact question) (more : Log → Prop) :
    May justified (fun log => fact log ∧ more log) question :=
  fun log known => may log known.1

variable {σ : Type} {env : Environment Ask Reply σ} {state : σ} {log : Log}

theorem safe_runAfter {argv : List (List Char)} {input : Option (List Char)}
    (lasting : Lasting fact) (may : May justified fact (.run argv input))
    (start : Upholds justified fact (state, log)) :
    env.logged.Safe (Upholds justified fact)
      (Tells fun out log => SaidAfter fact ⟨.run argv input, .ok out⟩ log) (run argv input)
      (state, log) := by
  refine (safe_asked lasting (may log start.2) start).goOn fun reply state log kept => ?_
  cases reply with
  | error error => exact ⟨kept, tells_error⟩
  | ok out => exact safe_ends kept kept.2.2

theorem safe_run {argv : List (List Char)} {input : Option (List Char)} (lasting : Lasting fact)
    (may : May justified fact (.run argv input)) (start : Upholds justified fact (state, log)) :
    env.logged.Safe (Upholds justified fact)
      (Tells fun out log => ⟨.run argv input, .ok out⟩ ∈ log) (run argv input) (state, log) :=
  (safe_runAfter lasting may start).mono (fun _ kept => kept)
    fun _ _ _ told out isOk => (told out isOk).mem

theorem safe_guarded {step : Procedure (List Char)} {okMessage : String} {post : Log → Prop}
    (safe : env.logged.Safe (Upholds justified fact) (Tells fun _ => post) step (state, log)) :
    env.logged.Safe (Upholds justified fact) (Tells fun result log => result.ok = true → post log)
      (guarded step okMessage) (state, log) := by
  refine Environment.Safe.recover (safe.goOn fun out state log kept => ?_) ?_
  · exact safe_ends kept fun _ => kept.2.2
  · exact fun error state log kept => safe_ends kept fun ok => nomatch ok

theorem safe_sleep (lasting : Lasting fact) {seconds : Nat}
    (may : May justified fact (.sleep seconds)) (start : Upholds justified fact (state, log)) :
    env.logged.Safe (Upholds justified fact) (Tells fun _ _ => True) (sleep seconds)
      (state, log) :=
  (safe_asked lasting (may log start.2) start).mono (fun _ kept => kept)
    fun _ _ _ _ _ _ => trivial

theorem safe_sshAlive (lasting : Lasting fact) {ip : List Char}
    (may : May justified fact (.run (sshArgv "5" ip "true".toList) none))
    (start : Upholds justified fact (state, log)) :
    env.logged.Safe (Upholds justified fact) (Tells fun _ _ => True) (sshAlive ip)
      (state, log) := by
  refine Environment.Safe.recover ?_ fun error state log kept => safe_ends kept trivial
  exact (safe_run lasting may start).goOn fun out state log kept => safe_ends kept trivial

/-- A child that is waited for has been seen, at the address that is returned. -/
theorem safe_waitRounds (lasting : Lasting fact) {dev mac : List Char} {lastIp : String}
    (listing : May justified fact (.run (neighArgv dev) none))
    (probe : ∀ ip, May justified fact (.run (sshArgv "5" ip "true".toList) none))
    (pause : May justified fact (.sleep 5)) (rounds : Nat)
    (start : Upholds justified fact (state, log)) :
    env.logged.Safe (Upholds justified fact)
      (Tells fun result log => result.ok = true →
        SeenSince fact dev (lowerName mac) result.output log)
      (waitRounds dev mac lastIp rounds) (state, log) := by
  induction rounds generalizing fact state log lastIp with
  | zero => exact safe_ends start fun ok => nomatch ok
  | succ rounds ih =>
      rw [waitRounds]
      refine (safe_runAfter lasting listing start).goOn fun out state log kept => ?_
      have read := lasting.and (lasting_saidAfter fact ⟨.run (neighArgv dev) none, .ok out⟩)
      have still := read.and (lasting_const True)
      cases found : (parseNeigh out).find? fun neighbor =>
          neighbor.mac = .ofList (lowerName mac) with
      | none =>
          refine (safe_sleep read (pause.and _) kept).goOn fun _ state log kept => ?_
          refine (ih still ((listing.and _).and _) (fun ip => ((probe ip).and _).and _)
            ((pause.and _).and _) kept).mono (fun _ kept => kept) ?_
          exact fun _ _ _ told result isOk good =>
            (told result isOk good).mono fun _ known => known.1.1
      | some neighbor =>
          refine (safe_sshAlive read ((probe _).and _) kept).goOn fun alive state log kept => ?_
          split
          · refine safe_ends kept fun _ => ⟨out, kept.2.1.2, neighbor, ?_, ?_, rfl⟩
            · exact List.mem_of_find?_eq_some found
            · simpa using List.find?_some found
          · refine (safe_sleep still ((pause.and _).and _) kept).goOn fun _ state log kept => ?_
            refine (ih (still.and (lasting_const True)) (((listing.and _).and _).and _)
              (fun ip => (((probe ip).and _).and _).and _) (((pause.and _).and _).and _)
              kept).mono (fun _ kept => kept) ?_
            exact fun _ _ _ told result isOk good =>
              (told result isOk good).mono fun _ known => known.1.1.1

theorem safe_appendKnownHosts (lasting : Lasting fact) {text : List Char}
    (may : May justified fact (.appendKnownHosts text))
    (start : Upholds justified fact (state, log)) :
    env.logged.Safe (Upholds justified fact) (Tells fun _ _ => True) (appendKnownHosts text)
      (state, log) := by
  refine (safe_asked lasting (may log start.2) start).goOn fun reply state log kept => ?_
  cases reply with
  | error error => exact ⟨kept, tells_error⟩
  | ok done => exact safe_ends kept trivial

theorem safe_appendInventory (lasting : Lasting fact) {text : List Char}
    (may : May justified fact (.appendInventory text))
    (start : Upholds justified fact (state, log)) :
    env.logged.Safe (Upholds justified fact)
      (Tells fun _ log => ⟨.appendInventory text, .ok ()⟩ ∈ log) (appendInventory text)
      (state, log) := by
  refine (safe_asked lasting (may log start.2) start).goOn fun reply state log kept => ?_
  cases reply with
  | error error => exact ⟨kept, tells_error⟩
  | ok done => exact safe_ends kept kept.2.2.mem

theorem safe_registerHostKey (lasting : Lasting fact) {hostname : List Char}
    (scan : May justified fact (.run (keyscanArgv hostname) none))
    (append : ∀ text, May justified fact (.appendKnownHosts text))
    (start : Upholds justified fact (state, log)) :
    env.logged.Safe (Upholds justified fact) (Tells fun _ _ => True)
      (registerHostKey hostname) (state, log) := by
  have steps : env.logged.Safe (Upholds justified fact) (Tells fun _ _ => True) (do
      let out ← run (keyscanArgv hostname) none
      if strip out = [] then return out
      else do
        appendKnownHosts (if out.getLast? = some '\n' then out else out ++ ['\n'])
        return out) (state, log) := by
    refine (safe_run lasting scan start).goOn fun out state log kept => ?_
    split
    · exact safe_ends kept trivial
    · have read := lasting.and (lasting_mem ⟨.run (keyscanArgv hostname) none, .ok out⟩)
      exact (safe_appendKnownHosts read ((append _).and _) kept).goOn fun _ state log kept =>
        safe_ends kept trivial
  exact (safe_guarded steps).mono (fun _ kept => kept) fun _ _ _ _ _ _ => trivial

theorem safe_readInventoryFile (lasting : Lasting fact)
    (reading : May justified fact .readInventory) (start : Upholds justified fact (state, log)) :
    env.logged.Safe (Upholds justified fact)
      (Tells fun text log => ∃ file, ⟨.readInventory, .ok file⟩ ∈ log ∧ file.getD [] = text)
      readInventoryFile (state, log) := by
  refine (safe_asked lasting (reading log start.2) start).goOn fun reply state log kept => ?_
  cases reply with
  | error error => exact ⟨kept, tells_error⟩
  | ok file => exact safe_ends kept ⟨file, kept.2.2.mem, rfl⟩

/-- An entry that is added to the inventory is in it. -/
theorem safe_addToInventorySteps (lasting : Lasting fact) {entry : List Char}
    (present : entry ≠ []) (reading : May justified fact .readInventory)
    (append : ∀ existing, May justified fact (.appendInventory (inventoryAddition existing entry)))
    (start : Upholds justified fact (state, log)) :
    env.logged.Safe (Upholds justified fact)
      (Tells fun result log => result.ok = true → Listed entry log)
      (addToInventorySteps entry) (state, log) := by
  refine safe_guarded ((safe_readInventoryFile lasting reading start).goOn ?_)
  intro text state log kept
  obtain ⟨file, read, rfl⟩ := kept.2.2
  rw [addEntry]
  split
  next among =>
    refine safe_ends kept (.inl ⟨file, read, ?_⟩)
    exact (mem_lines_iff present _).mp (List.contains_iff_mem.mp among)
  next absent =>
    have still : Lasting fun log : Log => fact log ∧ ∃ other,
        (⟨.readInventory, .ok other⟩ : Exchange Ask Reply) ∈ log ∧ other.getD [] = file.getD [] :=
      lasting.and (lasting_exists fun _ => (lasting_mem _).and (lasting_const _))
    exact (safe_appendInventory still ((append _).and _) kept).goOn fun _ state log kept =>
      safe_ends kept (.inr ⟨_, kept.2.2⟩)

/-- A child whose target is changed reports that it sends to it. -/
theorem safe_alignSendTarget (lasting : Lasting fact) {strRepr : List Char → String}
    {host gw : List Char}
    (may : May justified fact (.run (sshArgv "8" host (alignCommand gw)) none))
    (start : Upholds justified fact (state, log)) :
    env.logged.Safe (Upholds justified fact)
      (Tells fun result log => result.ok = true →
        Ran (sshArgv "8" host (alignCommand gw)) (Accepts gw) log)
      (alignSendTarget strRepr host gw) (state, log) := by
  unfold alignSendTarget
  split
  · exact ⟨start, tells_error⟩
  · split
    · exact safe_ends start fun ok => nomatch ok
    · refine (safe_run lasting may start).goOn fun out state log kept => ?_
      cases verdict : alignVerdict gw out with
      | none => exact ⟨kept, tells_error⟩
      | some result => exact safe_ends kept fun ok => ⟨out, kept.2.2, result, verdict, ok⟩

end Steps

/-! ## Where nothing fails -/

/-- The commands say what is given by their number, and the files can be written. -/
def answering (outputs : Nat → List Char) (asked : Nat) : (question : Ask) → Reply question × Nat
  | .run _ _ => (.ok (outputs asked), asked + 1)
  | .sleep _ => ((), asked + 1)
  | .appendKnownHosts _ => (.ok (), asked + 1)
  | .readInventory => (.ok none, asked + 1)
  | .appendInventory _ => (.ok (), asked + 1)

def succeeds : Procedure StepResult → Bool
  | .done result => result.ok
  | _ => false

/-- A procedure that succeeds where nothing fails has a run in which it does. -/
theorem exists_run {outputs : Nat → List Char} {program : Procedure StepResult} (n : Nat)
    (good : succeeds (Environment.play (answering outputs) n (0, program)).2 = true) :
    ∃ now log result, (Environment.ofAnswers (answering outputs)).logged.Reaches
      ((0, []), program) ((now, log), .done result) ∧ result.ok = true := by
  have answers (asked : Nat) (question : Ask) :
      (Environment.ofAnswers (answering outputs)).answers asked question
        (answering outputs asked question).1 (answering outputs asked question).2 := rfl
  have played : (Environment.ofAnswers (answering outputs)).Reaches (0, program)
      ((Environment.play (answering outputs) n (0, program)).1,
        (Environment.play (answering outputs) n (0, program)).2) :=
    Environment.reaches_play (@id Nat) answers n (0, program)
  obtain ⟨log, reaches⟩ := played.logged []
  cases last : (Environment.play (answering outputs) n (0, program)).2 with
  | done result =>
      rw [last] at reaches good
      exact ⟨_, log, result, reaches, good⟩
  | fail error =>
      rw [last] at good
      cases good
  | ask question next =>
      rw [last] at good
      cases good

end PresenceLogger.Fleet
