import PresenceLogger.Child.Outbox
import PresenceLogger.Library.Dict

/-!
# The archive

Files come into the outbox and are moved to the directory of the sent ones, or with a sidecar to
that of the refused ones.  Names are shared: a CSV may come again under a name that is taken, and a
call that stops halfway leaves its sidecar behind.
-/

namespace PresenceLogger.Child

open Library

namespace Archive

/-- What a name in a directory stands for. -/
inductive Entry where
  | text (text : List Char)
  | sidecar (rows : List SidecarRow)
  | folder

/-- `WATCH_DIR` and the directories by their paths. -/
structure Disk where
  outbox : Dict String Entry
  folders : String → Dict String Entry

namespace Disk

variable (disk : Disk)

def names (dir : String) : List String := (disk.folders dir).rows.map Prod.fst

def find (dir name : String) : Option Entry := (disk.folders dir).find name

def put (dir name : String) (entry : Entry) : Disk :=
  { disk with folders := Function.update disk.folders dir ((disk.folders dir).set name entry) }

def remove (dir name : String) : Disk :=
  { disk with folders := Function.update disk.folders dir ((disk.folders dir).delete name) }

end Disk

/-! ## What a call does -/

/-- What a call does to the files. -/
inductive Effect where
  /-- `tmp.open("w")` -/
  | openTmp (dir name : String)
  /-- `output.write(json.dumps(row) + "\n")` -/
  | writeRow (dir name : String) (row : SidecarRow)
  /-- `tmp.replace(sidecar)` -/
  | replace (dir source target : String)
  /-- `shutil.move(path, target)` -/
  | move (source dir target : String)

/-- An effect, with `none` for an `OSError`. -/
def Effect.apply (disk : Disk) : Effect → Option Disk
  | .openTmp dir name =>
      match disk.find dir name with
      | some .folder => none
      | _ => some (disk.put dir name (.sidecar []))
  | .writeRow dir name row =>
      match disk.find dir name with
      | some (.sidecar rows) => some (disk.put dir name (.sidecar (rows ++ [row])))
      | _ => none
  | .replace dir source target =>
      match disk.find dir source, disk.find dir target with
      | none, _ => none
      | some _, some .folder => none
      | some entry, _ => some ((disk.remove dir source).put dir target entry)
  | .move source dir target =>
      match disk.outbox.find source, disk.find dir target with
      | none, _ => none
      -- What is moved to a folder goes into it.
      | some _, some .folder => some { disk with outbox := disk.outbox.delete source }
      | some entry, _ =>
          some ({ disk with outbox := disk.outbox.delete source }.put dir target entry)

/-- Effects one after the other, up to the first that raises. -/
def Disk.perform (disk : Disk) : List Effect → Disk
  | [] => disk
  | effect :: effects =>
      match effect.apply disk with
      | some next => next.perform effects
      | none => disk

def archiveFile (disk : Disk) (source : FileName) (archiveDir : String) : List Effect :=
  [.move source.text archiveDir (source.chooseTarget (disk.names archiveDir))]

/-- The sidecar of a file. -/
def sidecarName (target : String) : String := target ++ ".nack.jsonl"

def writeNackSidecar (nackedDir targetName : String) (rows : List SidecarRow) : List Effect :=
  let sidecar := sidecarName targetName
  let tmp := sidecar ++ ".tmp"
  .openTmp nackedDir tmp :: rows.map (.writeRow nackedDir tmp) ++
    [.replace nackedDir tmp sidecar]

def archiveToDestination (disk : Disk) (path : FileName) (result : DeliveryResult)
    (store : String → Option DeliveryRow) (archiveDir nackedDir : String) : List Effect :=
  if result.complete = false then []
  else if result.nacked = 0 then archiveFile disk path archiveDir
  else
    let target := path.chooseTarget (disk.names nackedDir)
    writeNackSidecar nackedDir target (result.nackedRows.map (sidecarRow store)) ++
      [.move path.text nackedDir target]

/-! ## Runs -/

/-- A file that comes, or a call that stops after so many effects. -/
inductive Event where
  | arrive (name : String) (text : List Char)
  | archiveFile (source : FileName) (archiveDir : String) (effects : Nat)
  | archiveToDestination (path : FileName) (result : DeliveryResult)
      (store : String → Option DeliveryRow) (archiveDir nackedDir : String) (effects : Nat)

def Disk.step (disk : Disk) : Event → Disk
  | .arrive name text => { disk with outbox := disk.outbox.set name (.text text) }
  | .archiveFile source archiveDir effects =>
      disk.perform ((archiveFile disk source archiveDir).take effects)
  | .archiveToDestination path result store archiveDir nackedDir effects =>
      disk.perform
        ((archiveToDestination disk path result store archiveDir nackedDir).take effects)

def machine : Machine Disk Event Empty where
  step disk event := (disk.step event, [])

/-! ## What is kept -/

/-- The name of a CSV, or one that `_choose_target` has made of it. -/
def IsCsv (name : String) : Prop :=
  ∃ source : FileName, ".csv".toList <:+ source.text.toList ∧
    (name = source.text ∨ ∃ n, name = source.numbered n)

/-- A CSV in a directory stays what it is, and so does its sidecar. -/
def Keeps (before after : Disk) : Prop :=
  ∀ dir name, IsCsv name → ∀ entry, before.find dir name = some entry →
    after.find dir name = some entry ∧
      ∀ sidecar, before.find dir (sidecarName name) = some sidecar →
        after.find dir (sidecarName name) = some sidecar

/-- The loop of the search comes to an end, at the first name that is free. -/
def SearchEnds (source : FileName) (taken : List String) : Prop :=
  source.chooseTarget taken ∉ taken ∧
    (source.chooseTarget taken = source.text ∨
      source.text ∈ taken ∧ ∃ n ≥ 1, source.chooseTarget taken = source.numbered n ∧
        ∀ k ≥ 1, k < n → source.numbered k ∈ taken)

theorem searchEnds (source : FileName) (taken : List String) : SearchEnds source taken := by
  refine ⟨source.chooseTarget_not_mem taken, ?_⟩
  rw [FileName.chooseTarget]
  split
  next used =>
    exact .inr ⟨used, _, source.le_freeNumber taken _ 1, rfl,
      fun k first before => source.mem_of_lt_freeNumber taken _ 1 k first before⟩
  next => exact .inl rfl

/-! ### Names -/

/-- A CSV has no name of a sidecar. -/
theorem IsCsv.last {name : String} (isCsv : IsCsv name) {last : Char}
    (isLast : name.toList.getLast? = some last) : last = 'v' ∨ last.isDigit = true := by
  obtain ⟨source, isSuffix, isName⟩ := isCsv
  obtain ⟨before, isText⟩ := isSuffix
  have textLast : source.text.toList.getLast? = some 'v' := by
    rw [← isText, List.getLast?_append]
    rfl
  rcases isName with rfl | ⟨n, rfl⟩
  · rw [textLast] at isLast
    exact .inl (Option.some.inj isLast).symm
  · simp only [FileName.text, FileName.numbered, String.toList_append,
      List.getLast?_append] at textLast isLast
    cases suffixLast : source.suffix.toList.getLast? with
    | some char =>
        rw [suffixLast, Option.some_or] at textLast isLast
        exact .inl ((Option.some.inj isLast).symm.trans (Option.some.inj textLast))
    | none =>
        right
        rw [suffixLast, Option.none_or] at isLast
        have digit : last ∈ (toString n).toList := by
          cases digitLast : (toString n).toList.getLast? with
          | some char =>
              rw [digitLast, Option.some_or] at isLast
              exact Option.some.inj isLast ▸ List.mem_of_getLast? digitLast
          | none => exact absurd (List.getLast?_eq_none_iff.mp digitLast) (by simp)
        have isDigit : last ∈ Nat.toDigits 10 n := by
          rwa [Nat.toString_eq_repr, Nat.toList_repr] at digit
        exact Nat.isDigit_of_mem_toDigits (by decide) (by decide) isDigit

theorem IsCsv.ne_sidecarName {name : String} (isCsv : IsCsv name) (target : String) :
    name ≠ sidecarName target := by
  rintro rfl
  have isLast : (sidecarName target).toList.getLast? = some 'l' := by
    rw [sidecarName, String.toList_append, List.getLast?_append]
    rfl
  rcases isCsv.last isLast with same | digit
  · exact absurd same (by decide)
  · exact absurd digit (by decide)

theorem IsCsv.ne_tmpName {name : String} (isCsv : IsCsv name) (target : String) :
    name ≠ sidecarName target ++ ".tmp" := by
  rintro rfl
  have isLast : (sidecarName target ++ ".tmp").toList.getLast? = some 'p' := by
    rw [String.toList_append, List.getLast?_append]
    rfl
  rcases isCsv.last isLast with same | digit
  · exact absurd same (by decide)
  · exact absurd digit (by decide)

theorem sidecarName_injective : Function.Injective sidecarName :=
  fun _ _ same => (String.append_left_inj _).mp same

theorem sidecarName_ne_tmpName (name target : String) :
    sidecarName name ≠ sidecarName target ++ ".tmp" := by
  intro same
  have last := congrArg (fun text => text.toList.getLast?) same
  simp only [sidecarName, String.toList_append, List.getLast?_append] at last
  exact absurd (Option.some.inj last) (by decide)

/-! ### Files that an effect leaves alone -/

/-- The names that a call with this target may write. -/
def targetFiles (target : String) : List String :=
  [target, sidecarName target, sidecarName target ++ ".tmp"]

/-- The other files are the same. -/
def Untouched (dir target : String) (before after : Disk) : Prop :=
  ∀ other name, (other = dir → name ∉ targetFiles target) →
    after.find other name = before.find other name

/-- An effect writes no other files. -/
def Effect.IsOf (dir target : String) : Effect → Prop
  | .openTmp folder name | .writeRow folder name _ => folder = dir ∧ name ∈ targetFiles target
  | .replace folder source name =>
      folder = dir ∧ source ∈ targetFiles target ∧ name ∈ targetFiles target
  | .move _ folder name => folder = dir ∧ name ∈ targetFiles target

section

variable {dir target : String} {disk : Disk}

theorem Untouched.refl : Untouched dir target disk disk := fun _ _ _ => rfl

theorem Untouched.trans {next after : Disk} (first : Untouched dir target disk next)
    (second : Untouched dir target next after) : Untouched dir target disk after :=
  fun other name apart => (second other name apart).trans (first other name apart)

theorem untouched_put {name : String} (among : name ∈ targetFiles target) (entry : Entry) :
    Untouched dir target disk (disk.put dir name entry) := by
  intro other query apart
  simp only [Disk.find, Disk.put]
  by_cases here : other = dir
  · subst here
    have notSame : name ≠ query := fun same => apart rfl (same ▸ among)
    rw [Function.update_self, Dict.find_set, if_neg notSame]
  · rw [Function.update_of_ne here]

theorem untouched_remove {name : String} (among : name ∈ targetFiles target) :
    Untouched dir target disk (disk.remove dir name) := by
  intro other query apart
  simp only [Disk.find, Disk.remove]
  by_cases here : other = dir
  · subst here
    have notSame : query ≠ name := fun same => apart rfl (same ▸ among)
    rw [Function.update_self, Dict.find_delete, if_neg notSame]
  · rw [Function.update_of_ne here]

/-- One effect. -/
theorem Effect.IsOf.untouched {effect : Effect} (isOf : effect.IsOf dir target) {next : Disk}
    (applied : effect.apply disk = some next) : Untouched dir target disk next := by
  cases effect with
  | openTmp folder name =>
      obtain ⟨rfl, among⟩ := isOf
      rw [Effect.apply] at applied
      split at applied
      · cases applied
      · cases applied
        exact untouched_put among _
  | writeRow folder name row =>
      obtain ⟨rfl, among⟩ := isOf
      rw [Effect.apply] at applied
      split at applied
      · cases applied
        exact untouched_put among _
      · cases applied
  | replace folder source name =>
      obtain ⟨rfl, fromAmong, toAmong⟩ := isOf
      rw [Effect.apply] at applied
      split at applied
      · cases applied
      · cases applied
      · cases applied
        exact (untouched_remove fromAmong).trans (untouched_put toAmong _)
  | move source folder name =>
      obtain ⟨rfl, among⟩ := isOf
      rw [Effect.apply] at applied
      split at applied
      · cases applied
      · cases applied
        exact fun _ _ _ => rfl
      · cases applied
        exact fun other query apart => untouched_put among _ other query apart

/-- Effects up to any of them. -/
theorem untouched_perform {effects : List Effect}
    (each : ∀ effect ∈ effects, effect.IsOf dir target) :
    Untouched dir target disk (disk.perform effects) := by
  induction effects generalizing disk with
  | nil => exact .refl
  | cons effect effects ih =>
      rw [Disk.perform]
      split
      next next applied =>
        exact ((each effect (.head _)).untouched applied).trans
          (ih fun other later => each other (.tail _ later))
      · exact .refl

/-- A target that is free is no CSV's name, and its sidecar is no CSV's. -/
theorem keeps_of_untouched {after : Disk} (free : target ∉ disk.names dir)
    (untouched : Untouched dir target disk after) : Keeps disk after := by
  intro other name isCsv entry found
  have apart : other = dir → name ≠ target := by
    rintro rfl rfl
    exact free (List.mem_map.mpr ⟨_, Dict.find_eq_some_iff.mp found, rfl⟩)
  refine ⟨(untouched other name fun here among => ?_).trans found, fun sidecar isSidecar =>
    (untouched other (sidecarName name) fun here among => ?_).trans isSidecar⟩
  · simp only [targetFiles, List.mem_cons, List.not_mem_nil, or_false] at among
    rcases among with same | same | same
    · exact apart here same
    · exact isCsv.ne_sidecarName target same
    · exact isCsv.ne_tmpName target same
  · simp only [targetFiles, List.mem_cons, List.not_mem_nil, or_false] at among
    rcases among with same | same | same
    · subst here
      exact free (List.mem_map.mpr ⟨_, Dict.find_eq_some_iff.mp isSidecar, same⟩)
    · exact apart here (sidecarName_injective same)
    · exact sidecarName_ne_tmpName name target same

end

/-! ### Calls and runs -/

theorem isOf_archiveFile (disk : Disk) (source : FileName) (archiveDir : String) :
    ∀ effect ∈ archiveFile disk source archiveDir,
      effect.IsOf archiveDir (source.chooseTarget (disk.names archiveDir)) := by
  intro effect among
  rw [List.mem_singleton.mp among]
  exact ⟨rfl, .head _⟩

theorem isOf_writeNackSidecar (nackedDir targetName : String) (rows : List SidecarRow) :
    ∀ effect ∈ writeNackSidecar nackedDir targetName rows, effect.IsOf nackedDir targetName := by
  have tmp : sidecarName targetName ++ ".tmp" ∈ targetFiles targetName :=
    .tail _ (.tail _ (.head _))
  intro effect among
  simp only [writeNackSidecar, List.cons_append, List.mem_cons, List.mem_append, List.mem_map,
    List.not_mem_nil, or_false] at among
  rcases among with rfl | ⟨row, -, rfl⟩ | rfl
  · exact ⟨rfl, tmp⟩
  · exact ⟨rfl, tmp⟩
  · exact ⟨rfl, tmp, .tail _ (.head _)⟩

theorem isOf_archiveToDestination (disk : Disk) (path : FileName) (result : DeliveryResult)
    (store : String → Option DeliveryRow) (archiveDir nackedDir : String) :
    ∃ dir, ∀ effect ∈ archiveToDestination disk path result store archiveDir nackedDir,
      effect.IsOf dir (path.chooseTarget (disk.names dir)) := by
  rw [archiveToDestination]
  split
  · exact ⟨archiveDir, fun _ none => absurd none List.not_mem_nil⟩
  · split
    · exact ⟨archiveDir, isOf_archiveFile disk path archiveDir⟩
    · refine ⟨nackedDir, fun effect among => ?_⟩
      rcases List.mem_append.mp among with sidecar | moved
      · exact isOf_writeNackSidecar _ _ _ effect sidecar
      · rw [List.mem_singleton.mp moved]
        exact ⟨rfl, .head _⟩

theorem Keeps.refl (disk : Disk) : Keeps disk disk :=
  fun _ _ _ _ found => ⟨found, fun _ isSidecar => isSidecar⟩

theorem Keeps.trans {before next after : Disk} (first : Keeps before next)
    (second : Keeps next after) : Keeps before after := by
  intro dir name isCsv entry found
  obtain ⟨kept, sidecarKept⟩ := first dir name isCsv entry found
  obtain ⟨kept', sidecarKept'⟩ := second dir name isCsv entry kept
  exact ⟨kept', fun sidecar isSidecar => sidecarKept' sidecar (sidecarKept sidecar isSidecar)⟩

/-- A call keeps what is there, wherever it stops. -/
theorem keeps_step (disk : Disk) (event : Event) : Keeps disk (disk.step event) := by
  cases event with
  | arrive name text => exact fun _ _ _ _ found => ⟨found, fun _ isSidecar => isSidecar⟩
  | archiveFile source archiveDir effects =>
      have each := isOf_archiveFile disk source archiveDir
      exact keeps_of_untouched (source.chooseTarget_not_mem _)
        (untouched_perform fun effect among => each effect (List.mem_of_mem_take among))
  | archiveToDestination path result store archiveDir nackedDir effects =>
      obtain ⟨dir, each⟩ :=
        isOf_archiveToDestination disk path result store archiveDir nackedDir
      exact keeps_of_untouched (path.chooseTarget_not_mem _)
        (untouched_perform fun effect among => each effect (List.mem_of_mem_take among))

/-- From any content of the directories, every search for a name ends at one that is free, and no
sequence of calls replaces a CSV or its sidecar. -/
theorem archive_keeps (disk : Disk) (events : List Event) :
    (∀ source dir, SearchEnds source (disk.names dir)) ∧
      Keeps disk (machine.final disk events) := by
  refine ⟨fun source dir => searchEnds source (disk.names dir), ?_⟩
  induction events generalizing disk with
  | nil => exact .refl disk
  | cons event events ih => exact (keeps_step disk event).trans (ih _)

end Archive

end PresenceLogger.Child
