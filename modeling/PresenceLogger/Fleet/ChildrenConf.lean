import PresenceLogger.Library.Lines

/-!
# The inventory of children

`children.conf` names a child on each line; what follows a `#` is a comment.  Entries are
added at the end of the text, and taken out by dropping their lines.
-/

namespace PresenceLogger.Fleet

open Library Library.Text

/-- `line.split("#", 1)[0].strip()` -/
def entryText (line : List Char) : List Char := strip (partition '#' line).1

/-- The entry of a line. -/
def lineEntry (line : List Char) : Option (List Char) :=
  if entryText line = [] then none else some (entryText line)

/-- `parse_children_conf` -/
def parseChildrenConf (text : List Char) : List (List Char) := readLines lineEntry text

/-- `line[:-1] if line.endswith("\n") else line` -/
def withoutFeed (line : List Char) : List Char :=
  if line.getLast? = some '\n' then line.dropLast else line

/-- `strip_inventory_entry` -/
def stripInventoryEntry (text entry : List Char) : List Char :=
  ((keepLines text).filter fun line => entryText (withoutFeed line) ≠ entry).flatten

structure StepResult where
  ok : Bool
  message : String
  output : String
  deriving DecidableEq

/-- `add_to_inventory`: the text of the file afterwards, a file that is not there being
empty, and the result. -/
def addToInventory (file entry : List Char) : List Char × StepResult :=
  let existing := universalNewlines file
  let lines := (splitLines existing).map entryText
  let separator := if existing.getLast? = some '\n' ∨ existing = [] then [] else ['\n']
  let message := "インベントリを更新しました"
  if lines.contains entry then (file, ⟨true, message, "既に登録済みです"⟩)
  else
    (file ++ separator ++ entry ++ ['\n'], ⟨true, message, String.ofList entry ++ " を追加しました"⟩)

/-! ## The entry of a line -/

@[simp] theorem lineEntry_nil : lineEntry [] = none := rfl

theorem toList_lineEntry (line : List Char) :
    (lineEntry line).toList = if entryText line = [] then [] else [entryText line] := by
  rw [lineEntry]
  split <;> rfl

/-- Blanks at the end of a line do not change its entry. -/
theorem entryText_append (line : List Char) {blanks : List Char}
    (blank : ∀ char ∈ blanks, isSpace char = true) :
    entryText (line ++ blanks) = entryText line := by
  have noHash : ∀ char ∈ blanks, (char != '#') = true := by
    intro char among
    rw [bne_iff_ne]
    rintro rfl
    exact absurd (blank _ among) (by decide)
  simp only [entryText, partition, List.takeWhile_append]
  split
  next whole =>
    rw [List.takeWhile_eq_self_iff.mpr noHash]
    have all : line.takeWhile (· != '#') = line :=
      (List.takeWhile_prefix _).eq_of_length whole
    rw [all]
    exact stripBy_append_skipped line blank
  · rfl

theorem isSpace_of_isLineBreak {char : Char} (breaks : isLineBreak char = true) :
    isSpace char = true := by
  simp only [isLineBreak, isSpace, Bool.or_eq_true, Bool.and_eq_true, decide_eq_true_eq,
    beq_iff_eq] at breaks ⊢
  omega

/-- The entry of a line with its end. -/
theorem entryText_withoutFeed {body ending : List Char} (one : OneLine body)
    (ends : ending = [] ∨ ending = ['\r', '\n'] ∨
      ∃ char, isLineBreak char = true ∧ ending = [char]) :
    entryText (withoutFeed (body ++ ending)) = entryText body := by
  have returnBlank : ∀ char ∈ ['\r'], isSpace char = true := by decide
  rcases ends with rfl | rfl | ⟨char, breaks, rfl⟩
  · rw [List.append_nil, withoutFeed, if_neg]
    intro last
    exact absurd (one _ (List.mem_of_getLast? last)) (by decide)
  · have last : (body ++ ['\r', '\n']).getLast? = some '\n' := by simp
    rw [withoutFeed, if_pos last, List.append_cons, List.dropLast_concat,
      entryText_append body returnBlank]
  · rw [withoutFeed, List.getLast?_concat]
    split
    · rw [List.dropLast_concat]
    · exact entryText_append body
        (List.forall_mem_singleton.mpr (isSpace_of_isLineBreak breaks))

/-- The test by which `strip_inventory_entry` keeps a line. -/
def keepsLine (entry line : List Char) : Bool := entryText (withoutFeed line) ≠ entry

/-- A line is kept for what it is parsed to. -/
theorem parse_line {body ending : List Char} (one : OneLine body)
    (ends : ending = [] ∨ ending = ['\r', '\n'] ∨
      ∃ char, isLineBreak char = true ∧ ending = [char]) (entry : List Char) :
    (if keepsLine entry (body ++ ending) then parseChildrenConf (body ++ ending) else []) =
      (parseChildrenConf (body ++ ending)).filter (· ≠ entry) := by
  have parsed : parseChildrenConf (body ++ ending) =
      if entryText body = [] then [] else [entryText body] := by
    rw [← toList_lineEntry]
    rcases ends with rfl | ends
    · rw [List.append_nil]
      exact readLines_oneLine lineEntry_nil one
    · exact readLines_body lineEntry_nil one ends
  rw [parsed, keepsLine, entryText_withoutFeed one ends]
  by_cases nothing : entryText body = []
  · simp [nothing]
  · by_cases same : entryText body = entry
    · simp [same]
    · simp [nothing, same]

theorem parse_filter {lines : List (List Char)} (isLines : ∀ line ∈ lines, IsLine line)
    (entry : List Char) :
    (lines.filter (keepsLine entry)).flatMap parseChildrenConf =
      (lines.flatMap parseChildrenConf).filter (· ≠ entry) := by
  induction lines with
  | nil => rfl
  | cons line lines ih =>
      obtain ⟨⟨body, ending, rfl, one, ends⟩, others⟩ := List.forall_mem_cons.mp isLines
      have here := parse_line one (.inr ends) entry
      rw [List.flatMap_cons, List.filter_append, ← here, ← ih others, List.filter_cons]
      split <;> rfl

/-- Stripping an entry takes it out of what the text is parsed to. -/
theorem parse_stripInventoryEntry (text entry : List Char) :
    parseChildrenConf (stripInventoryEntry text entry) =
      (parseChildrenConf text).filter (· ≠ entry) := by
  obtain ⟨lines, last, split, isLines, isLast⟩ := keepLines_cases text
  have whole : text = lines.flatten ++ last.flatten := by
    rw [← flatten_keepLines text, split, List.flatten_append]
  have kept : ∀ line ∈ lines.filter (keepsLine entry), IsLine line :=
    fun line among => isLines line (List.mem_of_mem_filter among)
  have atEnd : parseChildrenConf (last.filter (keepsLine entry)).flatten =
      (parseChildrenConf last.flatten).filter (· ≠ entry) := by
    rcases isLast with rfl | ⟨body, one, rfl⟩
    · rfl
    · have here := parse_line one (.inl rfl) entry
      rw [List.append_nil] at here
      rw [List.flatten_singleton, ← here, List.filter_singleton]
      cases keepsLine entry body with
      | true => simp
      | false => rfl
  have stripped : stripInventoryEntry text entry =
      (lines.filter (keepsLine entry)).flatten ++ (last.filter (keepsLine entry)).flatten := by
    rw [← List.flatten_append, ← List.filter_append, ← split]
    rfl
  rw [stripped, whole]
  simp only [parseChildrenConf, readLines_flatten lineEntry_nil kept,
    readLines_flatten lineEntry_nil isLines, List.filter_append]
  exact congrArg₂ (· ++ ·) (parse_filter isLines entry) atEnd

/-! ## Adding an entry -/

/-- Something that an entry may be: neither comment nor blanks in it. -/
def Plain (entry : List Char) : Prop := ∀ char ∈ entry, char ≠ '#' ∧ isSpace char = false

instance (entry : List Char) : Decidable (Plain entry) := List.decidableBAll _ entry

theorem entryText_plain {entry : List Char} (plain : Plain entry) : entryText entry = entry := by
  have whole : (partition '#' entry).1 = entry :=
    List.takeWhile_eq_self_iff.mpr fun char among => by simpa using (plain char among).1
  rw [entryText, whole]
  exact (trimmed_of_forall fun char among => (plain char among).2).stripBy_eq

theorem oneLine_plain {entry : List Char} (plain : Plain entry) : OneLine entry := by
  intro char among
  cases breaks : isLineBreak char with
  | false => rfl
  | true => exact absurd (isSpace_of_isLineBreak breaks) (by simp [(plain char among).2])

theorem parse_entry {entry : List Char} (plain : Plain entry) (some_ : entry ≠ []) :
    parseChildrenConf (entry ++ ['\n']) = [entry] := by
  have feedBreaks : isLineBreak '\n' = true := rfl
  rw [parseChildrenConf, readLines_append_break lineEntry_nil feedBreaks,
    readLines_oneLine lineEntry_nil (oneLine_plain plain), toList_lineEntry,
    entryText_plain plain, if_neg some_]

/-- The test of `add_to_inventory`, for an entry that is not empty. -/
theorem mem_lines_iff {entry : List Char} (some_ : entry ≠ []) (file : List Char) :
    entry ∈ (splitLines (universalNewlines file)).map entryText ↔
      entry ∈ parseChildrenConf file := by
  have named (line : List Char) : lineEntry line = some entry ↔ entryText line = entry := by
    rw [lineEntry]
    split
    next nothing => simp [nothing, Ne.symm some_]
    · exact Option.some_inj
  rw [parseChildrenConf, ← readLines_universalNewlines lineEntry_nil, readLines, List.mem_filterMap,
    List.mem_map]
  simp only [named]

/-- Adding an entry that is there changes nothing. -/
theorem addToInventory_of_mem {file entry : List Char} (some_ : entry ≠ [])
    (present : entry ∈ parseChildrenConf file) : (addToInventory file entry).1 = file := by
  rw [addToInventory]
  simp only [if_pos (List.contains_iff_mem.mpr ((mem_lines_iff some_ file).mpr present))]

/-- What is written for an entry that is not there. -/
theorem addToInventory_of_not_mem {file entry : List Char} (some_ : entry ≠ [])
    (absent : entry ∉ parseChildrenConf file) :
    (addToInventory file entry).1 =
      file ++ (if (universalNewlines file).getLast? = some '\n' ∨ universalNewlines file = [] then
        [] else ['\n']) ++ entry ++ ['\n'] := by
  rw [addToInventory]
  have missing : ¬((splitLines (universalNewlines file)).map entryText).contains entry = true :=
    fun present => absent ((mem_lines_iff some_ file).mp (List.contains_iff_mem.mp present))
  simp only [if_neg missing]

/-- An entry that is not there is added at the end. -/
theorem parse_addToInventory {file entry : List Char} (plain : Plain entry) (some_ : entry ≠ [])
    (absent : entry ∉ parseChildrenConf file) :
    parseChildrenConf (addToInventory file entry).1 = parseChildrenConf file ++ [entry] := by
  have feedBreaks : isLineBreak '\n' = true := rfl
  have added := parse_entry plain some_
  rw [addToInventory_of_not_mem some_ absent]
  split
  next ended =>
    have noFeed : (entry ++ ['\n']).head? ≠ some '\n' := by
      cases entry with
      | nil => exact absurd rfl some_
      | cons first entry =>
          intro feed
          cases feed
          exact absurd (plain '\n' (.head _)).2 (by decide)
    have parts : universalNewlines (file ++ (entry ++ ['\n'])) =
        universalNewlines file ++ universalNewlines (entry ++ ['\n']) :=
      universalNewlines_append noFeed file
    rw [List.append_nil, List.append_assoc, ← added]
    simp only [parseChildrenConf]
    rw [← readLines_universalNewlines lineEntry_nil, parts,
      ← readLines_universalNewlines lineEntry_nil file,
      ← readLines_universalNewlines lineEntry_nil (entry ++ ['\n'])]
    rcases ended with last | nothing
    · obtain ⟨front, isFront⟩ := List.getLast?_eq_some_iff.mp last
      rw [isFront, List.append_assoc, List.singleton_append,
        readLines_append lineEntry_nil feedBreaks, readLines_append_break lineEntry_nil feedBreaks]
    · rw [nothing, List.nil_append, readLines_nil, List.nil_append]
  · rw [List.append_assoc, List.append_assoc, List.singleton_append, ← added]
    exact readLines_append lineEntry_nil feedBreaks file _

theorem splitLines_addToInventory {file entry : List Char} (some_ : entry ≠ []) :
    splitLines file <+: splitLines (addToInventory file entry).1 := by
  by_cases present : entry ∈ parseChildrenConf file
  · simp only [addToInventory_of_mem some_ present, List.prefix_rfl]
  · rw [addToInventory_of_not_mem some_ present]
    split
    next ended =>
      rw [List.append_nil, List.append_assoc]
      refine splitLinesFrom_prefix (fun _ => .inl rfl) fun char isLast => .inl ?_
      rcases ended with last | nothing
      · exact getLast?_of_universalNewlines last char isLast
      · rw [eq_nil_of_universalNewlines nothing] at isLast
        cases isLast
    · rw [List.append_assoc, List.append_assoc]
      exact splitLinesFrom_prefix (fun _ => .inl rfl) fun _ _ => .inr rfl

/-- What adding an entry is to do: the entry is there afterwards, once more if it was not,
adding it again changes nothing, the old lines stay, and stripping it leaves the others. -/
structure AddsEntry (file entry after : List Char) : Prop where
  parsed : parseChildrenConf after =
    if entry ∈ parseChildrenConf file then parseChildrenConf file
    else parseChildrenConf file ++ [entry]
  again : (addToInventory after entry).1 = after
  kept : splitLines file <+: splitLines after
  stripped : parseChildrenConf (stripInventoryEntry after entry) =
    (parseChildrenConf file).filter (· ≠ entry)

/-- An entry that is not empty is added as it should be. -/
theorem addsEntry_addToInventory {entry : List Char} (plain : Plain entry) (some_ : entry ≠ [])
    (file : List Char) : AddsEntry file entry (addToInventory file entry).1 := by
  have parsed : parseChildrenConf (addToInventory file entry).1 =
      if entry ∈ parseChildrenConf file then parseChildrenConf file
      else parseChildrenConf file ++ [entry] := by
    split
    next present => rw [addToInventory_of_mem some_ present]
    next absent => exact parse_addToInventory plain some_ absent
  refine ⟨parsed, addToInventory_of_mem some_ ?_, splitLines_addToInventory some_, ?_⟩
  · rw [parsed]
    split
    next present => exact present
    · exact List.mem_append_right _ (List.mem_singleton_self entry)
  · rw [parse_stripInventoryEntry, parsed]
    split
    · rfl
    · simp

/-- A text with a comment and a last line that has not ended. -/
theorem addsEntry_child :
    AddsEntry "a.local # 1\r\nb.local".toList "c.local".toList
      (addToInventory "a.local # 1\r\nb.local".toList "c.local".toList).1 :=
  addsEntry_addToInventory (by decide) (by decide) _

/-- An empty entry is none that a text is parsed to. -/
theorem not_addsEntry_empty :
    ¬∀ file entry, Plain entry → AddsEntry file entry (addToInventory file entry).1 := by
  intro adds
  have parsed := (adds [] [] (by decide)).parsed
  revert parsed
  decide

end PresenceLogger.Fleet
