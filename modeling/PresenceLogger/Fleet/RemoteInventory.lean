import PresenceLogger.Fleet.ChildrenConf
import PresenceLogger.Library.FormData

/-!
# The inventory of the old hub

`take_child` reads the old hub's `children.conf` over SSH and writes it back without the
child that was taken.  What the remote commands exit with is thrown away: whether the file
was read is told from a sentinel in what arrives.
-/

namespace PresenceLogger.Fleet

open Library Library.Text

/-- `CAT_OK` -/
def catOk : List Char := "__PRESENCE_CAT_OK__".toList

/-- `MISSING` -/
def missing : List Char := "__PRESENCE_MISSING__".toList

/-- `text[:text.rfind(word)]`, if the word is in the text. -/
def beforeLast (word : List Char) : List Char → Option (List Char)
  | [] => none
  | char :: text =>
      match beforeLast word text with
      | some before => some (char :: before)
      | none => if word.isPrefixOf (char :: text) then some [] else none

inductive ReadStatus where
  | missing
  | fail
  | ok
  deriving DecidableEq

/-- What `_read_remote_inventory` makes of the output. -/
def readRemoteInventory (out : List Char) : Option (List Char) × ReadStatus :=
  let lines := (splitLines out).filter (· ≠ [])
  if lines.getLast? = some missing ∧ beforeLast catOk out = none then (some [], .missing)
  else
    match beforeLast catOk out with
    | none => (none, .fail)
    | some before => (some before, .ok)

/-- The text that `take_child` hands to the old hub to write, if it writes. -/
def rewriteInventory (out entry : List Char) : Option (List Char) :=
  match readRemoteInventory out with
  | (some text, .ok) => some (stripInventoryEntry text entry)
  | _ => none

/-! ## The remote commands -/

/-- How the commands and the connection fare: whether `test -f` holds, how many bytes of
the file `cat` prints, and how many bytes of what is printed arrive. -/
structure Outcome where
  isFile : Bool
  printed : Nat
  arrived : Nat

/-- What `printf` prints after `cat`. -/
def trailer : List Char := '\n' :: (catOk ++ ['\n'])

/-- The part of the file that `cat` prints. -/
def Outcome.shown (outcome : Outcome) (content : List UInt8) : List UInt8 :=
  content.take outcome.printed

def Outcome.stdout (outcome : Outcome) (content : List UInt8) : List UInt8 :=
  if outcome.isFile then outcome.shown content ++ FormData.bytes trailer
  else FormData.bytes (missing ++ ['\n'])

/-- `subprocess.run(..., text=True).stdout`, with `none` for a `UnicodeDecodeError`. -/
def decodeOutput (bytes : List UInt8) : Option (List Char) :=
  (Utf8.decode bytes.toByteArray).map universalNewlines

/-- What `take_child` writes for a file with this content. -/
def takeChildWrites (content : List UInt8) (entry : List Char) (outcome : Outcome) :
    Option (List Char) :=
  (decodeOutput ((outcome.stdout content).take outcome.arrived)).bind fun out =>
    rewriteInventory out entry

/-! ## The last sentinel -/

theorem rewriteInventory_eq (out entry : List Char) :
    rewriteInventory out entry =
      (beforeLast catOk out).map fun before => stripInventoryEntry before entry := by
  rw [rewriteInventory, readRemoteInventory]
  cases beforeLast catOk out with
  | none =>
      dsimp only
      split_ifs <;> rfl
  | some before => simp

/-- What comes before a text does not hide a word in it. -/
theorem beforeLast_append {word text before : List Char}
    (found : beforeLast word text = some before)
    (front : List Char) : beforeLast word (front ++ text) = some (front ++ before) := by
  induction front with
  | nil => exact found
  | cons char front ih => rw [List.cons_append, beforeLast, ih, List.cons_append]

theorem isPrefixOf_append_cons {word : List Char} {stop : Char} (apart : stop ∉ word)
    (front text : List Char) :
    word.isPrefixOf (front ++ stop :: text) = word.isPrefixOf front := by
  induction word generalizing front with
  | nil => simp
  | cons first word ih =>
      have others := ih (List.not_mem_of_not_mem_cons apart)
      cases front with
      | nil =>
          have notFirst : first ≠ stop := fun same => apart (same ▸ .head _)
          rw [List.nil_append, List.isPrefixOf_cons_cons, beq_false_of_ne notFirst]
          rfl
      | cons char front =>
          rw [List.cons_append, List.isPrefixOf_cons_cons, List.isPrefixOf_cons_cons, others]

/-- A word does not reach over a character that is not in it. -/
theorem beforeLast_append_cons {word text : List Char} {stop : Char} (apart : stop ∉ word)
    (some_ : word ≠ []) (absent : beforeLast word text = none) (front : List Char) :
    beforeLast word (front ++ stop :: text) = beforeLast word front := by
  induction front with
  | nil =>
      have notHere : word.isPrefixOf (stop :: text) = false := by
        have same := isPrefixOf_append_cons apart [] text
        rw [List.nil_append] at same
        cases word with
        | nil => exact absurd rfl some_
        | cons first word => rw [same]; rfl
      simp [beforeLast, absent, notHere]
  | cons char front ih =>
      rw [List.cons_append, beforeLast, ih, beforeLast, ← List.cons_append,
        isPrefixOf_append_cons apart]

/-! ## What arrives -/

theorem bytes_take {text : List Char} (ascii : ∀ char ∈ text, char.utf8Size = 1) (count : Nat) :
    (FormData.bytes text).take count = FormData.bytes (text.take count) := by
  induction text generalizing count with
  | nil => simp [FormData.bytes]
  | cons char text ih =>
      have single := String.utf8EncodeChar_eq_singleton (ascii char (.head _))
      cases count with
      | zero => simp [FormData.bytes]
      | succ count =>
          have others := ih (fun other among => ascii other (.tail _ among)) count
          rw [FormData.bytes_cons, single, List.take_succ_cons, FormData.bytes_cons, single]
          simp [others]

theorem trailer_ascii : ∀ char ∈ trailer, char.utf8Size = 1 := by decide

/-- The part of the file that arrives, and how much of the trailer does. -/
theorem decodeOutput_eq {outcome : Outcome} (isFile : outcome.isFile = true)
    (content : List UInt8) :
    decodeOutput ((outcome.stdout content).take outcome.arrived) =
      (Utf8.decode ((outcome.shown content).take outcome.arrived).toByteArray).map fun shown =>
        universalNewlines
          (shown ++ trailer.take (outcome.arrived - (outcome.shown content).length)) := by
  rw [decodeOutput, Outcome.stdout, if_pos isFile, List.take_append, bytes_take trailer_ascii,
    List.toByteArray_append, FormData.toByteArray_bytes, Utf8.decode_append_encode, Option.map_map]
  rfl

/-- A sentinel that arrives whole stands after the file and a line feed. -/
theorem beforeLast_of_whole {count : Nat} (whole : catOk.length < count) (shown : List Char) :
    beforeLast catOk (universalNewlines (shown ++ trailer.take count)) =
      some (universalNewlines (shown ++ ['\n'])) := by
  obtain ⟨rest, taken, noFeed, newlines, found⟩ : ∃ rest, trailer.take count = '\n' :: rest ∧
      rest.head? ≠ some '\n' ∧ universalNewlines rest = rest ∧ beforeLast catOk rest = some [] := by
    by_cases all : catOk.length + 1 < count
    · exact ⟨catOk ++ ['\n'], List.take_of_length_le all, by decide, by decide, by decide⟩
    · have exactly : count = catOk.length + 1 := by omega
      subst exactly
      exact ⟨catOk, by decide, by decide, by decide, by decide⟩
  rw [taken, List.append_cons, universalNewlines_append noFeed, newlines,
    beforeLast_append found, List.append_nil]

/-- Less of it is no sentinel. -/
theorem beforeLast_of_partial {count : Nat} (partly : count ≤ catOk.length) (shown : List Char) :
    beforeLast catOk (universalNewlines (shown ++ trailer.take count)) =
      beforeLast catOk (universalNewlines shown) := by
  cases count with
  | zero => rw [List.take_zero, List.append_nil]
  | succ count =>
      have small : ∀ count < catOk.length, (trailer.take (count + 1)) = '\n' :: catOk.take count ∧
          (catOk.take count).head? ≠ some '\n' ∧
          universalNewlines (catOk.take count) = catOk.take count ∧
          beforeLast catOk (catOk.take count) = none := by
        decide
      obtain ⟨taken, noFeed, newlines, absent⟩ := small count partly
      have apart : '\n' ∉ catOk := by decide
      have some_ : catOk ≠ [] := by decide
      obtain ⟨front, ends, isFront⟩ := exists_universalNewlines_feed shown
      rw [taken, List.append_cons, universalNewlines_append noFeed, newlines, ends,
        List.append_assoc, List.singleton_append, beforeLast_append_cons apart some_ absent]
      rcases isFront with same | same
      · rw [same]
      · rw [same, beforeLast_append_cons apart some_ rfl]

/-! ## What is written -/

/-- Apart from the entry, the text has the entries of the file. -/
def SameEntries (content : List UInt8) (entry text : List Char) : Prop :=
  ∃ original, Utf8.decode content.toByteArray = some original ∧
    (parseChildrenConf text).filter (· ≠ entry) =
      (parseChildrenConf original).filter (· ≠ entry)

/-- What is written is parsed to the entries of the file without the one taken. -/
def Survives (content : List UInt8) (entry : List Char) (outcome : Outcome) : Prop :=
  ∀ written, takeChildWrites content entry outcome = some written →
    ∃ original, Utf8.decode content.toByteArray = some original ∧
      parseChildrenConf written = (parseChildrenConf original).filter (· ≠ entry)

/-- The sentinel of `printf` arrives whole. -/
def Whole (content : List UInt8) (outcome : Outcome) : Prop :=
  (outcome.shown content).length + catOk.length < outcome.arrived

instance (content : List UInt8) (outcome : Outcome) : Decidable (Whole content outcome) :=
  inferInstanceAs (Decidable (_ < _))

/-- What precedes the last sentinel to arrive has the entries of the file, apart from the
one taken: all that `cat` printed, if the sentinel of `printf` arrives, and otherwise what
precedes a sentinel in the part of the file that arrives. -/
structure Harmless (content : List UInt8) (entry : List Char) (outcome : Outcome) : Prop where
  printed : outcome.isFile = true → Whole content outcome →
    ∀ shown, Utf8.decode (outcome.shown content).toByteArray = some shown →
      SameEntries content entry shown
  inside : outcome.isFile = true → ¬Whole content outcome →
    ∀ shown before,
      Utf8.decode ((outcome.shown content).take outcome.arrived).toByteArray = some shown →
        beforeLast catOk (universalNewlines shown) = some before →
          SameEntries content entry before

/-- Where there is no file, nothing is written. -/
theorem takeChildWrites_of_missing {outcome : Outcome} (noFile : outcome.isFile = false)
    (content : List UInt8) (entry : List Char) : takeChildWrites content entry outcome = none := by
  have ascii : ∀ char ∈ missing ++ ['\n'], char.utf8Size = 1 := by decide
  have absent : ∀ count < (missing ++ ['\n']).length + 1,
      beforeLast catOk (universalNewlines ((missing ++ ['\n']).take count)) = none := by
    decide
  have arrives : ∀ count,
      beforeLast catOk (universalNewlines ((missing ++ ['\n']).take count)) = none := by
    intro count
    rw [List.take_eq_take_min]
    exact absent _ (Nat.lt_succ_of_le (Nat.min_le_right _ _))
  rw [takeChildWrites, decodeOutput, Outcome.stdout, if_neg (by simp [noFile]), bytes_take ascii,
    FormData.toByteArray_bytes, Utf8.decode_encode]
  simp [rewriteInventory_eq, arrives]

/-- What is written when the sentinel of `printf` arrives. -/
theorem takeChildWrites_of_whole {content : List UInt8} {outcome : Outcome}
    (isFile : outcome.isFile = true) (whole : Whole content outcome) (entry : List Char) :
    takeChildWrites content entry outcome =
      (Utf8.decode (outcome.shown content).toByteArray).map fun shown =>
        stripInventoryEntry (universalNewlines (shown ++ ['\n'])) entry := by
  have all : (outcome.shown content).take outcome.arrived = outcome.shown content :=
    List.take_of_length_le (by rw [Whole] at whole; omega)
  have enough : catOk.length < outcome.arrived - (outcome.shown content).length := by
    rw [Whole] at whole
    omega
  rw [takeChildWrites, decodeOutput_eq isFile, all]
  cases Utf8.decode (outcome.shown content).toByteArray with
  | none => rfl
  | some shown =>
      simp only [Option.map_some, Option.bind_some, rewriteInventory_eq, beforeLast_of_whole enough]

/-- What is written when it does not. -/
theorem takeChildWrites_of_not_whole {content : List UInt8} {outcome : Outcome}
    (isFile : outcome.isFile = true) (cut : ¬Whole content outcome) (entry : List Char) :
    takeChildWrites content entry outcome =
      (Utf8.decode ((outcome.shown content).take outcome.arrived).toByteArray).bind fun shown =>
        (beforeLast catOk (universalNewlines shown)).map fun before =>
          stripInventoryEntry before entry := by
  have short : outcome.arrived - (outcome.shown content).length ≤ catOk.length := by
    rw [Whole] at cut
    omega
  rw [takeChildWrites, decodeOutput_eq isFile]
  cases Utf8.decode ((outcome.shown content).take outcome.arrived).toByteArray with
  | none => rfl
  | some shown =>
      simp only [Option.map_some, Option.bind_some, rewriteInventory_eq,
        beforeLast_of_partial short]

theorem parse_feed (text : List Char) :
    parseChildrenConf (universalNewlines (text ++ ['\n'])) = parseChildrenConf text := by
  have feedBreaks : isLineBreak '\n' = true := rfl
  rw [parseChildrenConf, readLines_universalNewlines lineEntry_nil,
    readLines_append_break lineEntry_nil feedBreaks, parseChildrenConf]

/-- The inventory survives exactly the outcomes that hide no other entry. -/
theorem survives_iff {content : List UInt8} {entry : List Char} {outcome : Outcome} :
    Survives content entry outcome ↔ Harmless content entry outcome := by
  cases isFile : outcome.isFile with
  | false =>
      constructor
      · exact fun _ => ⟨by simp [isFile], by simp [isFile]⟩
      · intro _ written writes
        rw [takeChildWrites_of_missing isFile] at writes
        cases writes
  | true =>
      by_cases whole : Whole content outcome
      · rw [Survives, takeChildWrites_of_whole isFile whole]
        constructor
        · intro survives
          refine ⟨fun _ _ shown decoded => ?_, fun _ cut => absurd whole cut⟩
          obtain ⟨original, isOriginal, same⟩ := survives _ (by rw [decoded]; rfl)
          rw [parse_stripInventoryEntry, parse_feed] at same
          exact ⟨original, isOriginal, same⟩
        · intro harmless written writes
          obtain ⟨shown, decoded, rfl⟩ := Option.map_eq_some_iff.mp writes
          rw [parse_stripInventoryEntry, parse_feed]
          exact harmless.printed isFile whole shown decoded
      · rw [Survives, takeChildWrites_of_not_whole isFile whole]
        constructor
        · intro survives
          refine ⟨fun _ all => absurd all whole, fun _ _ shown before decoded found => ?_⟩
          obtain ⟨original, isOriginal, same⟩ :=
            survives (stripInventoryEntry before entry)
              (by rw [decoded, Option.bind_some, found]; rfl)
          rw [parse_stripInventoryEntry] at same
          exact ⟨original, isOriginal, same⟩
        · intro harmless written writes
          obtain ⟨shown, decoded, stripped⟩ := Option.bind_eq_some_iff.mp writes
          obtain ⟨before, found, rfl⟩ := Option.map_eq_some_iff.mp stripped
          rw [parse_stripInventoryEntry]
          exact harmless.inside isFile whole shown before decoded found

/-- A `cat` that fails after the first line wipes the second. -/
theorem not_survives_cat_fails :
    ¬∀ (content : List UInt8) (entry : List Char) (outcome : Outcome),
      Survives content entry outcome := by
  intro survives
  have written : takeChildWrites (FormData.bytes "a.local\nb.local\n".toList) "a.local".toList
      ⟨true, 8, 29⟩ = some ['\n'] := by
    decide +kernel
  obtain ⟨original, isOriginal, same⟩ := survives _ _ _ _ written
  rw [FormData.toByteArray_bytes, Utf8.decode_encode] at isOriginal
  cases isOriginal
  revert same
  decide +kernel

end PresenceLogger.Fleet
