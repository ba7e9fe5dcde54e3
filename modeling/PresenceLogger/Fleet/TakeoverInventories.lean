import PresenceLogger.Fleet.Takeover

/-!
# The inventories while a child is taken

The old hub's inventory is written over SSH, which may leave anything in it, and this hub's is
appended to, which may stop at any character.  A child that the old hub knows is in one of the
two all the same, and this hub forgets no line.
-/

namespace PresenceLogger.Fleet.Takeover

open Library Library.Text Library.Shell SendTarget

/-- The inventories of the old hub and of this one, whose file may be missing. -/
structure Hubs where
  old : List Char
  new : Option (List Char)

def Hubs.newText (hubs : Hubs) : List Char := hubs.new.getD []

/-- Any command may fail; only the one that writes the old hub's inventory changes it, and only
what is appended changes this hub's. -/
def bothHubs (oldHost : List Char) : Environment Ask Reply Hubs where
  answers before question reply after :=
    match question, reply with
    | .run argv _, _ =>
        after.new = before.new ∧
          ((∀ text, argv ≠ sshArgv "8" oldHost (writeCommand text)) → after.old = before.old)
    | .sleep _, _ => after = before
    | .appendKnownHosts _, _ => after = before
    | .readInventory, .ok file => after = before ∧ file = before.new
    | .readInventory, .error _ => after = before
    | .appendInventory text, .ok _ =>
        after.old = before.old ∧ after.newText = before.newText ++ text
    | .appendInventory text, .error _ =>
        after.old = before.old ∧ ∃ part, part <+: text ∧ after.newText = before.newText ++ part

/-! ## What is appended -/

/-- However far an addition gets, the lines before it stay. -/
theorem splitLines_addition {file entry part : List Char}
    (isPart : part <+: inventoryAddition (universalNewlines file) entry) :
    splitLines file <+: splitLines (file ++ part) := by
  cases part with
  | nil => rw [List.append_nil]
  | cons first part =>
      rw [inventoryAddition] at isPart
      refine splitLinesFrom_prefix (fun _ => .inl rfl) fun char isLast => ?_
      split at isPart
      next ended =>
        refine .inl (ended.elim (fun last => getLast?_of_universalNewlines last char isLast) ?_)
        intro nothing
        rw [eq_nil_of_universalNewlines nothing] at isLast
        cases isLast
      next =>
        rw [List.append_assoc, List.singleton_append, List.cons_prefix_cons] at isPart
        exact .inr (congrArg some isPart.1)

theorem parse_subset {file longer : List Char} (grown : splitLines file <+: splitLines longer)
    {entry : List Char} (among : entry ∈ parseChildrenConf file) :
    entry ∈ parseChildrenConf longer :=
  (grown.sublist.filterMap lineEntry).subset among

theorem mem_parse_addition {file entry : List Char} (plain : Plain entry) (present : entry ≠ [])
    (absent : entry ∉ parseChildrenConf file) :
    entry ∈ parseChildrenConf (file ++ inventoryAddition (universalNewlines file) entry) := by
  have parsed := parse_addToInventory plain present absent
  rw [addToInventory_of_not_mem present absent, List.append_assoc, List.append_assoc,
    ← List.append_assoc _ entry] at parsed
  rw [inventoryAddition, parsed]
  exact List.mem_append_right _ (List.mem_singleton_self entry)

section Remembered

variable (entry : List Char) (first : Hubs)

/-- The child is in an inventory, and this hub's has its lines. -/
def Remembered (now : Hubs) : Prop :=
  (entry ∈ parseChildrenConf now.old ∨ inventoryName entry ∈ parseChildrenConf now.newText) ∧
    splitLines first.newText <+: splitLines now.newText

/-- The child is in this hub's inventory, which has its lines. -/
def Received (now : Hubs) : Prop :=
  inventoryName entry ∈ parseChildrenConf now.newText ∧
    splitLines first.newText <+: splitLines now.newText

end Remembered

variable {entry oldHost : List Char} {first : Hubs}

theorem Received.remembered {now : Hubs} (received : Received entry first now) :
    Remembered entry first now :=
  ⟨.inr received.1, received.2⟩

/-- This hub's inventory grows by lines. -/
theorem Remembered.grow {before after : Hubs} (kept : Remembered entry first before)
    (old : after.old = before.old) (new : splitLines before.newText <+: splitLines after.newText) :
    Remembered entry first after := by
  refine ⟨?_, kept.2.trans new⟩
  rw [old]
  exact kept.1.imp_right fun among => parse_subset new among

/-! ## Questions -/

/-- Neither inventory is written. -/
def Quiet (oldHost : List Char) : Ask → Prop
  | .run argv _ => ∀ text, argv ≠ sshArgv "8" oldHost (writeCommand text)
  | .appendInventory _ => False
  | .sleep _ | .appendKnownHosts _ | .readInventory => True

/-- This hub's inventory is not written. -/
def Elsewhere : Ask → Prop
  | .appendInventory _ => False
  | .run _ _ | .sleep _ | .appendKnownHosts _ | .readInventory => True

theorem Quiet.elsewhere {question : Ask} (quiet : Quiet oldHost question) :
    Elsewhere question := by
  cases question with
  | appendInventory text => exact quiet
  | run argv input => trivial
  | sleep seconds => trivial
  | appendKnownHosts text => trivial
  | readInventory => trivial

theorem newText_of_elsewhere {question : Ask} (elsewhere : Elsewhere question)
    {before after : Hubs} {reply : Reply question}
    (answered : (bothHubs oldHost).answers before question reply after) :
    after.newText = before.newText := by
  cases question with
  | appendInventory text => exact elsewhere.elim
  | run argv input => exact congrArg (·.getD []) answered.1
  | sleep seconds => exact congrArg Hubs.newText answered
  | appendKnownHosts text => exact congrArg Hubs.newText answered
  | readInventory =>
      cases reply with
      | ok file => exact congrArg Hubs.newText answered.1
      | error error => exact congrArg Hubs.newText answered

theorem old_of_quiet {question : Ask} (quiet : Quiet oldHost question) {before after : Hubs}
    {reply : Reply question} (answered : (bothHubs oldHost).answers before question reply after) :
    after.old = before.old := by
  cases question with
  | appendInventory text => exact quiet.elim
  | run argv input => exact answered.2 quiet
  | sleep seconds => exact congrArg Hubs.old answered
  | appendKnownHosts text => exact congrArg Hubs.old answered
  | readInventory =>
      cases reply with
      | ok file => exact congrArg Hubs.old answered.1
      | error error => exact congrArg Hubs.old answered

section Programs

variable {α : Type} {program : Procedure α} {now : Hubs}

/-- Programs that write no inventory. -/
theorem safe_of_quiet (asks : program.Asks (Quiet oldHost)) (start : Remembered entry first now) :
    (bothHubs oldHost).Safe (Remembered entry first) (fun _ now => Remembered entry first now)
      program now := by
  refine Environment.safe_of_asks asks (fun before question reply after quiet kept answered => ?_)
    start
  refine kept.grow (old_of_quiet quiet answered) ?_
  rw [newText_of_elsewhere quiet.elsewhere answered]

/-- Programs that do not write this hub's inventory. -/
theorem safe_of_elsewhere (asks : program.Asks Elsewhere) (start : Received entry first now) :
    (bothHubs oldHost).Safe (Received entry first) (fun _ now => Received entry first now) program
      now := by
  refine Environment.safe_of_asks asks (fun before question reply after elsewhere kept answered =>
    ?_) start
  rw [Received, newText_of_elsewhere elsewhere answered]
  exact kept

end Programs

/-! ## Steps -/

theorem quiet_ssh {timeout : String} {host remote : List Char} {input : Option (List Char)}
    (apart : remote.head? ≠ some 'p') :
    Quiet oldHost (.run (sshArgv timeout host remote) input) := fun _ => not_write apart

theorem quiet_registerHostKey (hostname : List Char) :
    (registerHostKey hostname).Asks (Quiet oldHost) :=
  asks_registerHostKey (fun _ => keyscanArgv_ne_ssh hostname) fun _ => trivial

theorem quiet_registerChildKey (child : Child) (ip : List Char) :
    (registerChildKey child ip).Asks (Quiet oldHost) := by
  refine (quiet_registerHostKey _).bind fun kh => ?_
  split
  · exact quiet_registerHostKey ip
  · trivial

theorem elsewhere_forgetChild (child : Child) (waited : StepResult) :
    (forgetChild oldHost child waited).Asks Elsewhere := by
  refine (asks_run trivial).bind fun out => ?_
  split
  · exact (asks_run trivial).bind fun _ => trivial
  · trivial

theorem elsewhere_retarget (strRepr : List Char → String) (site : Site) (child : Child)
    (waited : StepResult) : (retarget strRepr oldHost site child waited).Asks Elsewhere := by
  rw [retarget]
  split
  · trivial
  · refine (asks_alignSendTarget trivial).bind fun aligned => ?_
    split
    · trivial
    · exact elsewhere_forgetChild child waited

/-- A good result says that the child is in this hub's inventory. -/
def Ends (entry : List Char) (first : Hubs) (outcome : Except String StepResult) (now : Hubs) :
    Prop :=
  ∀ result, outcome = .ok result → result.ok = true → Received entry first now

section Runs

variable {now : Hubs} {child : Child}

theorem ends_pure {result : StepResult} (start : Remembered entry first now)
    (received : result.ok = true → Received entry first now) :
    (bothHubs oldHost).Safe (Remembered entry first) (Ends entry first) (pure result) now :=
  ⟨start, fun _ isOk ok => by cases isOk; exact received ok⟩

/-- A quiet program does not change what is to be kept. -/
theorem quiet_bind {α : Type} {program : Procedure α} {rest : α → Procedure StepResult}
    (asks : program.Asks (Quiet oldHost)) (start : Remembered entry first now)
    (then_ : ∀ result now, Remembered entry first now →
      (bothHubs oldHost).Safe (Remembered entry first) (Ends entry first) (rest result) now) :
    (bothHubs oldHost).Safe (Remembered entry first) (Ends entry first) (program >>= rest) now := by
  refine Environment.safe_bind.mpr ((safe_of_quiet asks start).mono (fun _ kept => kept) ?_)
  intro outcome now kept _
  cases outcome with
  | error error => exact fun _ isOk => by cases isOk
  | ok result => exact then_ result now kept

/-- An entry that is added is in the inventory. -/
theorem safe_addEntry (plain : Plain (inventoryName entry)) (start : Remembered entry first now) :
    (bothHubs oldHost).Safe (Remembered entry first)
      (fun outcome now => ∀ text, outcome = .ok text → Received entry first now)
      (addEntry (universalNewlines now.newText) (inventoryName entry)) now := by
  have named := inventoryName_ne_nil entry
  have test : ((splitLines (universalNewlines now.newText)).map entryText).contains
      (inventoryName entry) = true ↔ inventoryName entry ∈ parseChildrenConf now.newText := by
    rw [List.contains_iff_mem, mem_lines_iff named]
  rw [addEntry]
  by_cases present : inventoryName entry ∈ parseChildrenConf now.newText
  · rw [if_pos (test.mpr present)]
    exact ⟨start, fun _ _ => ⟨present, start.2⟩⟩
  · rw [if_neg (mt test.mp present)]
    refine Environment.safe_bind.mpr (Environment.safe_bind.mpr
      (Environment.safe_request.mpr ⟨start, fun reply after answered => ?_⟩))
    cases reply with
    | error error =>
        obtain ⟨old, part, isPart, new⟩ := answered
        have kept := start.grow old (new ▸ splitLines_addition isPart)
        exact ⟨kept, kept, fun _ isOk => by cases isOk⟩
    | ok done =>
        obtain ⟨old, new⟩ := answered
        have kept := start.grow old (new ▸ splitLines_addition List.prefix_rfl)
        refine ⟨kept, kept, kept, fun _ _ => ⟨?_, kept.2⟩⟩
        rw [new]
        exact mem_parse_addition plain named present

/-- Where an addition ends well, the child is in the inventory. -/
theorem safe_addToInventorySteps_bothHubs (plain : Plain (inventoryName entry))
    (start : Remembered entry first now) :
    (bothHubs oldHost).Safe (Remembered entry first) (Ends entry first)
      (addToInventorySteps (inventoryName entry)) now := by
  refine Environment.safe_handle.mpr (Environment.safe_bind.mpr (Environment.safe_bind.mpr
    (Environment.safe_bind.mpr (Environment.safe_request.mpr ⟨start, ?_⟩))))
  intro reply after answered
  cases reply with
  | error error =>
      cases (answered : after = now)
      refine ⟨start, start, start, fun _ isOk ok => ?_⟩
      cases isOk
      cases ok
  | ok file =>
      obtain ⟨same, isFile⟩ := (answered : after = now ∧ file = now.new)
      subst same isFile
      refine ⟨start, start, (safe_addEntry plain start).mono (fun _ kept => kept) ?_⟩
      intro outcome now kept added
      cases outcome with
      | error error => exact ⟨kept, fun _ isOk ok => by cases isOk; cases ok⟩
      | ok text => exact ⟨kept, fun _ _ _ => added text rfl⟩

/-! ## The procedure -/

theorem safe_retarget_bothHubs {strRepr : List Char → String} {site : Site}
    {waited : StepResult} (received : Received child.entry first now) :
    (bothHubs oldHost).Safe (Remembered child.entry first) (Ends child.entry first)
      (retarget strRepr oldHost site child waited) now :=
  (safe_of_elsewhere (elsewhere_retarget strRepr site child waited) received).mono
    (fun _ received => received.remembered) fun _ _ received _ _ _ _ => received

theorem safe_receiveChild_bothHubs {strRepr : List Char → String} {site : Site}
    {waited : StepResult} (start : Remembered child.entry first now) :
    (bothHubs oldHost).Safe (Remembered child.entry first) (Ends child.entry first)
      (receiveChild strRepr oldHost site child waited) now := by
  rw [receiveChild]
  refine quiet_bind (quiet_registerChildKey child _) start fun kh now kept => ?_
  split
  next failed => exact ends_pure kept fun ok => absurd ok failed
  · have added : (bothHubs oldHost).Safe (Remembered child.entry first) (Ends child.entry first)
        (addToInventorySteps child.inventoryName) now :=
      safe_addToInventorySteps_bothHubs child.plain_inventoryName kept
    refine Environment.safe_bind.mpr (added.mono (fun _ kept => kept) ?_)
    intro outcome now kept ends
    cases outcome with
    | error error => exact fun _ isOk => by cases isOk
    | ok result =>
        dsimp only [Environment.Then]
        split
        next failed => exact ends_pure kept fun ok => absurd ok failed
        next ok => exact safe_retarget_bothHubs (ends result rfl (not_not.mp ok))

theorem safe_admitChild_bothHubs {strRepr : List Char → String} {dev : List Char}
    {uuid : BitVec 128} {site : Site} (start : Remembered child.entry first now) :
    (bothHubs oldHost).Safe (Remembered child.entry first) (Ends child.entry first)
      (admitChild strRepr oldHost dev uuid site child) now := by
  rw [admitChild]
  refine quiet_bind (asks_run (quiet_ssh head?_nestedSsh)) start fun macOut now kept => ?_
  split
  · exact ends_pure kept fun ok => nomatch ok
  · refine quiet_bind (asks_run (quiet_ssh head?_nestedSsh)) kept fun keyOut now kept => ?_
    split
    · exact ends_pure kept fun ok => nomatch ok
    · rw [switchChild]
      split
      · exact ⟨kept, fun _ isOk => by cases isOk⟩
      · refine quiet_bind (asks_run (quiet_ssh head?_nestedSsh)) kept fun wifiOut now kept => ?_
        have waiting : (waitForReturn dev (extractMac macOut)).Asks (Quiet oldHost) :=
          asks_waitRounds (fun _ => neighArgv_ne_ssh dev) (fun ip => quiet_ssh (by decide))
            (fun _ => trivial) 36 ""
        refine quiet_bind waiting kept fun waited now kept => ?_
        split
        · exact ends_pure kept fun ok => nomatch ok
        · exact safe_receiveChild_bothHubs kept

theorem safe_takeNamed_bothHubs {strRepr : List Char → String} {hub : Hub} {uuid : BitVec 128}
    (start : Remembered entry first now) :
    (bothHubs oldHost).Safe (Remembered entry first) (Ends entry first)
      (takeNamed strRepr oldHost hub uuid entry) now := by
  have reading : readInventoryFile.Asks (Quiet oldHost) :=
    (Dialogue.asks_request trivial).bind fun reply =>
      (Dialogue.asks_ofExcept reply).bind fun _ => trivial
  rw [takeNamed]
  refine quiet_bind reading start fun text now kept => ?_
  cases isChild : childOf entry
      ((parseChildrenConf (universalNewlines text)).map String.ofList) with
  | error reason =>
      simp only [isChild]
      exact ends_pure kept fun ok => nomatch ok
  | ok child =>
      simp only [isChild]
      have named : child.entry = entry := entry_of_childOf isChild
      subst named
      cases isSite : siteOf strRepr hub with
      | error reason => exact ends_pure kept fun ok => nomatch ok
      | ok site => exact safe_admitChild_bothHubs kept

end Runs

/-- Whatever fails, and wherever the procedure stops, a child that the old hub knows is in one
of the inventories, and in this hub's if it is reported as moved; this hub forgets no line. -/
theorem takeChild_remembers (strRepr : List Char → String) (hub : Hub) (uuid : BitVec 128)
    (oldHost entry : List Char) {start now : Hubs} {rest : Procedure StepResult}
    (known : strip entry ∈ parseChildrenConf start.old)
    (reaches : (bothHubs oldHost).Reaches (start, takeChild strRepr oldHost hub uuid entry)
      (now, rest)) :
    (strip entry ∈ parseChildrenConf now.old ∨
        inventoryName (strip entry) ∈ parseChildrenConf now.newText) ∧
      splitLines start.newText <+: splitLines now.newText ∧
      ∀ result, rest = .done result → result.ok = true →
        inventoryName (strip entry) ∈ parseChildrenConf now.newText := by
  have begins : Remembered (strip entry) start start := ⟨.inl known, List.prefix_rfl⟩
  have safe : (bothHubs oldHost).Safe (Remembered (strip entry) start) (Ends (strip entry) start)
      (takeChild strRepr oldHost hub uuid entry) start := by
    rw [takeChild]
    split
    · exact ends_pure begins fun ok => nomatch ok
    · dsimp only
      split
      · exact ends_pure begins fun ok => nomatch ok
      · exact safe_takeNamed_bothHubs begins
  have reached := safe.reaches reaches
  refine ⟨reached.now.1, reached.now.2, fun result ends ok => ?_⟩
  subst ends
  exact (reached.2 result rfl ok).1

/-! ### A write that fails -/

def oldHubA : List Char := "10.0.0.5".toList

def hubC : Hub where
  apDev := none
  siteEnv := some "AP_GW_IP=10.43.0.1\n".toList
  apJoinEnv := some "AP_SSID=hub-c\nWIFI_AP_PSK=correct horse\n".toList
  secretsEnv := none
  pubkeyFile := some "ssh-ed25519 AAAAC3Nz pi@hub-c\n".toList

def pizero2 : List Char := "pizero2".toList

/-- What the commands say when all goes well, by what was asked before. -/
def said (hubs : Hubs) : Nat → List Char
  | 1 => "2c:cf:67:c1:1d:7b\n".toList
  | 2 => keyOk
  | 4 => "10.43.0.52 lladdr 2c:cf:67:c1:1d:7b REACHABLE\n".toList
  | 10 => alignOutput restartedChild
  | 11 => hubs.old ++ trailer
  | _ => []

/-- The write of the old hub's inventory leaves an empty file. -/
def cutShort (state : Hubs × Nat) :
    (question : Ask) → Reply question × Hubs × Nat
  | .run argv _ =>
      (.ok (said state.1 state.2),
        if state.2 = 12 ∧ argv = sshArgv "8" oldHubA (writeCommand "pizero1\n\n".toList) then
          { state.1 with old := [] }
        else state.1, state.2 + 1)
  | .sleep _ => ((), state.1, state.2 + 1)
  | .appendKnownHosts _ => (.ok (), state.1, state.2 + 1)
  | .readInventory => (.ok state.1.new, state.1, state.2 + 1)
  | .appendInventory text =>
      (.ok (), { state.1 with new := some (state.1.newText ++ text) }, state.2 + 1)

theorem bothHubs_cutShort (state : Hubs × Nat) (question : Ask) :
    (bothHubs oldHubA).answers state.1 question (cutShort state question).1
      (cutShort state question).2.1 := by
  cases question with
  | run argv input =>
      refine ⟨?_, fun other => ?_⟩
      · rw [cutShort]
        split <;> rfl
      · rw [cutShort, if_neg fun isWrite => other _ isWrite.2]
  | sleep seconds => rfl
  | appendKnownHosts text => rfl
  | readInventory => exact ⟨rfl, rfl⟩
  | appendInventory text => exact ⟨rfl, rfl⟩

def beforeMoving : Hubs where
  old := "pizero1\npizero2\n".toList
  new := some "zero1.local".toList

def cutShortRun : (Hubs × Nat) × Procedure StepResult :=
  Environment.play cutShort 20 ((beforeMoving, 0), takeChild String.ofList oldHubA hubC 7 pizero2)

theorem takeChild_remembers_cutShort :
    cutShortRun.1.1.old = [] ∧
      inventoryName (strip pizero2) ∈ parseChildrenConf cutShortRun.1.1.newText := by
  have lost : cutShortRun.1.1.old = [] := by decide +kernel
  have nothing : parseChildrenConf [] = [] := by decide
  have reaches : (bothHubs oldHubA).Reaches
      (beforeMoving, takeChild String.ofList oldHubA hubC 7 pizero2)
      (cutShortRun.1.1, cutShortRun.2) :=
    Environment.reaches_play Prod.fst bothHubs_cutShort 20
      ((beforeMoving, 0), takeChild String.ofList oldHubA hubC 7 pizero2)
  have known := (takeChild_remembers String.ofList hubC 7 oldHubA pizero2 (by decide +kernel)
    reaches).1
  rw [lost, nothing] at known
  exact ⟨lost, known.resolve_left List.not_mem_nil⟩

end PresenceLogger.Fleet.Takeover
