import Mathlib.Data.List.Basic
import Mathlib.Data.List.TakeWhile
import Mathlib.Data.Char

/-!
# Python text

The `str` operations of Python 3.11 (Unicode 14) on lists of characters: which
characters are white space, line boundaries and decimal digits, and the methods
and the `int` constructor built on them.
-/

namespace PresenceLogger.Library.Text

/-- A check of the characters in a text runs along the text, not over all characters. -/
instance decidableForallMem {p : Char → Prop} [DecidablePred p] (text : List Char) :
    Decidable (∀ char ∈ text, p char) :=
  List.decidableBAll p text

instance decidableForallMemOption {p : Char → Prop} [DecidablePred p] (found : Option Char) :
    Decidable (∀ char ∈ found, p char) :=
  Option.decidableForallMem found

/-- `str.isspace` of one character. -/
def isSpace (char : Char) : Bool :=
  let code := char.toNat
  (9 ≤ code && code ≤ 13) || (28 ≤ code && code ≤ 32) || code == 0x85 || code == 0xa0 ||
    code == 0x1680 || (0x2000 ≤ code && code ≤ 0x200a) || code == 0x2028 || code == 0x2029 ||
    code == 0x202f || code == 0x205f || code == 0x3000

/-- The characters at which `str.splitlines` ends a line. -/
def isLineBreak (char : Char) : Bool :=
  let code := char.toNat
  (10 ≤ code && code ≤ 13) || (28 ≤ code && code ≤ 30) || code == 0x85 ||
    code == 0x2028 || code == 0x2029

/-- The code points of the digits zero, in code point order; each starts a run
of ten. -/
def decimalZeros : List Nat :=
  [0x30, 0x660, 0x6f0, 0x7c0, 0x966, 0x9e6, 0xa66, 0xae6, 0xb66, 0xbe6, 0xc66, 0xce6, 0xd66,
    0xde6, 0xe50, 0xed0, 0xf20, 0x1040, 0x1090, 0x17e0, 0x1810, 0x1946, 0x19d0, 0x1a80, 0x1a90,
    0x1b50, 0x1bb0, 0x1c40, 0x1c50, 0xa620, 0xa8d0, 0xa900, 0xa9d0, 0xa9f0, 0xaa50, 0xabf0,
    0xff10, 0x104a0, 0x10d30, 0x11066, 0x110f0, 0x11136, 0x111d0, 0x112f0, 0x11450, 0x114d0,
    0x11650, 0x116c0, 0x11730, 0x118e0, 0x11950, 0x11c50, 0x11d50, 0x11da0, 0x16a60, 0x16ac0,
    0x16b50, 0x1d7ce, 0x1d7d8, 0x1d7e2, 0x1d7ec, 0x1d7f6, 0x1e140, 0x1e2f0, 0x1e950, 0x1fbf0]

/-- The value of a decimal digit of any script. -/
def decimalValue (char : Char) : Option Nat :=
  (decimalZeros.find? fun first => first ≤ char.toNat && char.toNat < first + 10).map
    fun first => char.toNat - first

/-- Drop the characters `skip` accepts from both ends. -/
def stripBy (skip : Char → Bool) (text : List Char) : List Char :=
  ((text.dropWhile skip).reverse.dropWhile skip).reverse

/-- `str.strip()` -/
def strip (text : List Char) : List Char := stripBy isSpace text

/-- The lines of `text`, where `line` holds the current line so far, reversed. -/
def splitLinesFrom (line : List Char) : List Char → List (List Char)
  | [] => if line = [] then [] else [line.reverse]
  | '\r' :: '\n' :: rest => line.reverse :: splitLinesFrom [] rest
  | char :: rest =>
      if isLineBreak char then line.reverse :: splitLinesFrom [] rest
      else splitLinesFrom (char :: line) rest

/-- `str.splitlines()` -/
def splitLines (text : List Char) : List (List Char) := splitLinesFrom [] text

/-- `str.partition(separator)` without its middle part. -/
def partition (separator : Char) (text : List Char) : List Char × List Char :=
  (text.takeWhile (· != separator), (text.dropWhile (· != separator)).drop 1)

/-- The digit values of an integer literal; single underscores may separate
digits. -/
def literalDigits : List Char → Option (List Nat)
  | [] => none
  | [char] => (decimalValue char).map fun digit => [digit]
  | char :: '_' :: rest =>
      (decimalValue char).bind fun digit => (literalDigits rest).map (digit :: ·)
  | char :: rest =>
      (decimalValue char).bind fun digit => (literalDigits rest).map (digit :: ·)

/-- `sys.int_info.default_max_str_digits` -/
def maxStrDigits : Nat := 4300

/-- An unsigned literal; longer ones than the interpreter's limit are refused. -/
def parseDigits (text : List Char) : Option Nat :=
  (literalDigits text).bind fun digits =>
    if digits.length ≤ maxStrDigits then some (digits.foldl (fun n digit => 10 * n + digit) 0)
    else none

/-- The white space `int` skips: the ASCII separators 28 to 31 are not among
it, although `str.strip` removes them. -/
def isIntSpace (char : Char) : Bool :=
  isSpace char && !(28 ≤ char.toNat && char.toNat ≤ 31)

/-- `int(text)`, with `none` for a `ValueError`. -/
def parseInt (text : List Char) : Option Int :=
  match stripBy isIntSpace text with
  | '-' :: digits => (parseDigits digits).map fun n => -(n : Int)
  | '+' :: digits => (parseDigits digits).map fun n => (n : Int)
  | digits => (parseDigits digits).map fun n => (n : Int)

/-- `re.match` of so many decimal digits between `^` and `$`, which also matches
before a final newline. -/
def matchesDigits (count : Nat) (text : List Char) : Bool :=
  (text.take count).length = count && (text.take count).all (fun char => (decimalValue char).isSome)
    && (text.drop count = [] || text.drop count = ['\n'])

/-- `str(n)` of an `int`. -/
def ofInt (n : Int) : List Char := (toString n).toList

/-! ## Lines without a break -/

/-- A text in which no character ends a line. -/
def OneLine (text : List Char) : Prop := ∀ char ∈ text, isLineBreak char = false

instance (text : List Char) : Decidable (OneLine text) :=
  List.decidableBAll _ text

theorem OneLine.append {left right : List Char} (leftOne : OneLine left)
    (rightOne : OneLine right) : OneLine (left ++ right) := by
  intro char member
  rcases List.mem_append.mp member with inLeft | inRight
  · exact leftOne char inLeft
  · exact rightOne char inRight

theorem splitLinesFrom_plain {char : Char} (plain : isLineBreak char = false)
    (line rest : List Char) :
    splitLinesFrom line (char :: rest) = splitLinesFrom (char :: line) rest := by
  rw [splitLinesFrom.eq_def]
  split
  next equal => cases equal
  next equal =>
    rw [List.cons.injEq] at equal
    rw [equal.1] at plain
    exact absurd plain (by decide)
  next equal =>
    rw [List.cons.injEq] at equal
    obtain ⟨rfl, rfl⟩ := equal
    rw [if_neg (by simp [plain])]

theorem splitLinesFrom_newline (line rest : List Char) :
    splitLinesFrom line ('\n' :: rest) = line.reverse :: splitLinesFrom [] rest := by
  rw [splitLinesFrom.eq_def]
  simp [show isLineBreak '\n' = true by decide]

private theorem splitLinesFrom_oneLine {text : List Char} (one : OneLine text)
    (line rest : List Char) :
    splitLinesFrom line (text ++ '\n' :: rest) =
      (line.reverse ++ text) :: splitLinesFrom [] rest := by
  induction text generalizing line with
  | nil => rw [List.nil_append, splitLinesFrom_newline, List.append_nil]
  | cons char text ih =>
      have tailOne : OneLine text := fun other member => one other (List.mem_cons_of_mem _ member)
      rw [List.cons_append, splitLinesFrom_plain (one char List.mem_cons_self), ih tailOne]
      simp

/-- A line feed ends a line that contains no break of its own. -/
theorem splitLines_oneLine {text : List Char} (one : OneLine text) (rest : List Char) :
    splitLines (text ++ '\n' :: rest) = text :: splitLines rest := by
  simpa [splitLines] using splitLinesFrom_oneLine one [] rest

/-- Up to its first break, a text goes on with the line before it. -/
private theorem splitLinesFrom_eq_modifyHead {text : List Char} (nonempty : text ≠ [])
    (line : List Char) :
    splitLinesFrom line text = (splitLinesFrom [] text).modifyHead (line.reverse ++ ·) := by
  induction text generalizing line with
  | nil => exact absurd rfl nonempty
  | cons char text ih =>
      by_cases plain : isLineBreak char = false
      · rw [splitLinesFrom_plain plain, splitLinesFrom_plain plain]
        cases text with
        | nil => simp [splitLinesFrom]
        | cons next text =>
            rw [ih (List.cons_ne_nil _ _) (char :: line), ih (List.cons_ne_nil _ _) [char],
              List.modifyHead_modifyHead]
            congr 1
            funext rest
            simp
      · rw [splitLinesFrom.eq_def, splitLinesFrom.eq_def [] _]
        split
        next equal => cases equal
        next equal =>
          cases equal
          simp
        next equal =>
          cases equal
          simp [plain]

/-- A text without a break belongs to the first line of what follows it. -/
theorem splitLines_append {left text : List Char} (one : OneLine left) (nonempty : text ≠ []) :
    splitLines (left ++ text) = (splitLines text).modifyHead (left ++ ·) := by
  have collected (line : List Char) :
      splitLinesFrom line (left ++ text) = splitLinesFrom (left.reverse ++ line) text := by
    induction left generalizing line with
    | nil => rfl
    | cons char left ih =>
        have leftOne : OneLine left := fun other member => one other (.tail _ member)
        rw [List.cons_append, splitLinesFrom_plain (one char (.head _)), ih leftOne]
        simp
  rw [splitLines, collected, List.append_nil, splitLinesFrom_eq_modifyHead nonempty,
    List.reverse_reverse, splitLines]

private theorem splitLinesFrom_ne_nil {line text : List Char} (nonempty : line ≠ [] ∨ text ≠ []) :
    splitLinesFrom line text ≠ [] := by
  induction text generalizing line with
  | nil =>
      rw [splitLinesFrom, if_neg (nonempty.resolve_right fun other => other rfl)]
      exact List.cons_ne_nil _ _
  | cons char text ih =>
      rw [splitLinesFrom.eq_def]
      split
      next equal => cases equal
      next equal => exact List.cons_ne_nil _ _
      next equal =>
        cases equal
        split
        · exact List.cons_ne_nil _ _
        · exact ih (.inl (List.cons_ne_nil _ _))

theorem splitLines_ne_nil {text : List Char} (nonempty : text ≠ []) : splitLines text ≠ [] :=
  splitLinesFrom_ne_nil (.inr nonempty)

theorem splitLinesFrom_break {char : Char} (breaks : isLineBreak char = true)
    (notReturn : char ≠ '\r') (line rest : List Char) :
    splitLinesFrom line (char :: rest) = line.reverse :: splitLinesFrom [] rest := by
  rw [splitLinesFrom.eq_def]
  split
  next equal => cases equal
  next equal =>
    cases equal
    exact absurd rfl notReturn
  next equal =>
    cases equal
    rw [if_pos breaks]

/-- A line feed ends the last of the lines before it. -/
theorem splitLines_append_feed {text : List Char} (present : text ≠ []) (noReturn : '\r' ∉ text)
    (ended : ∀ char ∈ text.getLast?, isLineBreak char = false) (rest : List Char) :
    splitLines (text ++ '\n' :: rest) = splitLines text ++ splitLines rest := by
  have collected (line : List Char) (some : line ≠ [] ∨ text ≠ []) :
      splitLinesFrom line (text ++ '\n' :: rest) =
        splitLinesFrom line text ++ splitLinesFrom [] rest := by
    clear present
    induction text generalizing line with
    | nil =>
        have started : line ≠ [] := some.resolve_right fun other => other rfl
        rw [List.nil_append, splitLinesFrom_newline, splitLinesFrom, if_neg started]
        rfl
    | cons char text ih =>
        have laterReturn := List.not_mem_of_not_mem_cons noReturn
        have laterEnded : ∀ other ∈ text.getLast?, isLineBreak other = false := by
          intro other isLast
          apply ended other
          rw [List.getLast?_cons, Option.mem_def.mp isLast]
          rfl
        by_cases plain : isLineBreak char = false
        · rw [List.cons_append, splitLinesFrom_plain plain, splitLinesFrom_plain plain]
          exact ih laterReturn laterEnded _ (.inl (List.cons_ne_nil _ _))
        · have breaks : isLineBreak char = true := by simpa using plain
          have notReturn : char ≠ '\r' := fun same => noReturn (same ▸ .head _)
          have goesOn : text ≠ [] := by
            rintro rfl
            exact plain (ended char rfl)
          rw [List.cons_append, splitLinesFrom_break breaks notReturn,
            splitLinesFrom_break breaks notReturn, ih laterReturn laterEnded [] (.inr goesOn)]
          rfl
  exact collected [] (.inr present)

theorem splitLines_eq_singleton {text : List Char} (one : OneLine text) (present : text ≠ []) :
    splitLines text = [text] := by
  have noReturn : '\r' ∉ text := fun member => absurd (one _ member) (by decide)
  have ended := splitLines_append_feed present noReturn
    (fun char isLast => one char (List.mem_of_mem_getLast? isLast)) []
  have nothing : splitLines [] = [] := rfl
  have alone := splitLines_oneLine one []
  rwa [ended, nothing, List.append_nil] at alone

private theorem exists_of_mem_splitLinesFrom {text piece : List Char} (noReturn : '\r' ∉ text)
    {line : List Char} (one : OneLine line) (among : piece ∈ splitLinesFrom line text) :
    OneLine piece ∧ ∃ before after, line.reverse ++ text = before ++ (piece ++ after) ∧
      (∀ char ∈ before.getLast?, isLineBreak char = true) ∧
      ∀ char ∈ after.head?, isLineBreak char = true := by
  have reversed {line : List Char} (one : OneLine line) : OneLine line.reverse :=
    fun char member => one char (List.mem_reverse.mp member)
  induction text generalizing line with
  | nil =>
      rw [splitLinesFrom] at among
      split at among
      · cases among
      · rw [List.mem_singleton.mp among]
        exact ⟨reversed one, [], [], by simp, by simp, by simp⟩
  | cons char text ih =>
      have rest := List.not_mem_of_not_mem_cons noReturn
      by_cases plain : isLineBreak char = false
      · rw [splitLinesFrom_plain plain] at among
        have longer : OneLine (char :: line) := List.forall_mem_cons.mpr ⟨plain, one⟩
        obtain ⟨isOne, before, after, parts, ends⟩ := ih rest longer among
        exact ⟨isOne, before, after, by rw [← parts]; simp, ends⟩
      · have breaks : isLineBreak char = true := by simpa using plain
        have notReturn : char ≠ '\r' := fun same => noReturn (same ▸ .head _)
        rw [splitLinesFrom_break breaks notReturn] at among
        rcases List.mem_cons.mp among with rfl | later
        · refine ⟨reversed one, [], char :: text, rfl, by simp, ?_⟩
          intro first isFirst
          cases isFirst
          exact breaks
        · have nothing : OneLine [] := fun _ member => absurd member List.not_mem_nil
          obtain ⟨isOne, before, after, parts, last, first⟩ := ih rest nothing later
          refine ⟨isOne, line.reverse ++ char :: before, after, ?_, ?_, first⟩
          · rw [List.append_assoc, List.cons_append, ← parts]
            rfl
          · intro other isLast
            cases before with
            | nil =>
                rw [List.getLast?_concat] at isLast
                exact Option.mem_some.mp isLast ▸ breaks
            | cons next before =>
                rw [List.getLast?_append_of_ne_nil _ (List.cons_ne_nil _ _),
                  List.getLast?_cons_cons] at isLast
                exact last other isLast

/-- A piece of a text stands between two breaks, or at an end of the text. -/
theorem exists_of_mem_splitLines {text piece : List Char} (noReturn : '\r' ∉ text)
    (among : piece ∈ splitLines text) :
    OneLine piece ∧ ∃ before after, text = before ++ (piece ++ after) ∧
      (∀ char ∈ before.getLast?, isLineBreak char = true) ∧
      ∀ char ∈ after.head?, isLineBreak char = true :=
  exists_of_mem_splitLinesFrom noReturn (fun _ member => absurd member List.not_mem_nil) among

private theorem isDigit_not_lineBreak {char : Char} (digit : char.isDigit = true) :
    isLineBreak char = false := by
  simp only [Char.isDigit, Bool.and_eq_true, decide_eq_true_eq] at digit
  have low : 48 ≤ char.toNat := digit.1
  have high : char.toNat ≤ 57 := digit.2
  simp only [isLineBreak, Bool.or_eq_false_iff, Bool.and_eq_false_iff, decide_eq_false_iff_not,
    beq_eq_false_iff_ne]
  omega

private theorem oneLine_toDigits (n : Nat) : OneLine (Nat.toDigits 10 n) :=
  fun _ member => isDigit_not_lineBreak
    (Nat.isDigit_of_mem_toDigits (by decide) (by decide) member)

theorem oneLine_ofInt (n : Int) : OneLine (ofInt n) := by
  intro char member
  rw [ofInt, Int.toString_eq_repr, Int.repr_eq_if] at member
  split at member
  · exact oneLine_toDigits _ char (by simpa [Nat.repr] using member)
  · simp only [Nat.repr, String.toList_append, String.toList_ofList, List.mem_append] at member
    rcases member with sign | digit
    · have dash : char = '-' := by simpa using sign
      rw [dash]
      decide
    · exact oneLine_toDigits _ char digit

@[simp] theorem oneLine_nil : OneLine [] := fun _ member => nomatch member

/-- The first separator splits a text whose left part does not contain one. -/
theorem partition_append {separator : Char} {left : List Char} (absent : separator ∉ left)
    (right : List Char) : partition separator (left ++ separator :: right) = (left, right) := by
  have before : ∀ char ∈ left, (char != separator) = true := by
    intro char member
    exact bne_iff_ne.mpr fun equal => absent (equal ▸ member)
  simp [partition, List.takeWhile_append_of_pos before, List.dropWhile_append_of_pos before]

/-! ## What is stripped -/

/-- A text that neither begins nor ends with a character to skip. -/
def Trimmed (skip : Char → Bool) (text : List Char) : Prop :=
  (∀ char ∈ text.head?, skip char = false) ∧ ∀ char ∈ text.getLast?, skip char = false

section Strip

variable {skip : Char → Bool}

theorem dropWhile_eq_self {text : List Char} (first : ∀ char ∈ text.head?, skip char = false) :
    text.dropWhile skip = text := by
  cases text with
  | nil => rfl
  | cons char text =>
      rw [List.dropWhile_cons_of_neg]
      simp [first char rfl]

theorem head?_dropWhile (text : List Char) :
    ∀ char ∈ (text.dropWhile skip).head?, skip char = false := by
  induction text with
  | nil => exact fun _ member => nomatch member
  | cons char text ih =>
      rw [List.dropWhile_cons]
      split
      · exact ih
      next kept =>
        intro other isFirst
        cases Option.mem_some.mp isFirst
        simpa using kept

theorem Trimmed.stripBy_eq {text : List Char} (trimmed : Trimmed skip text) :
    stripBy skip text = text := by
  have last : ∀ char ∈ text.reverse.head?, skip char = false := by
    rw [List.head?_reverse]
    exact trimmed.2
  rw [stripBy, dropWhile_eq_self trimmed.1, dropWhile_eq_self last, List.reverse_reverse]

theorem trimmed_stripBy (text : List Char) : Trimmed skip (stripBy skip text) := by
  constructor
  · intro char isFirst
    have kept : (text.dropWhile skip).reverse.dropWhile skip <:+
        (text.dropWhile skip).reverse := List.dropWhile_suffix _
    rcases List.reverse_prefix.mpr kept with ⟨rest, split⟩
    rw [List.reverse_reverse] at split
    apply head?_dropWhile text char
    rw [← split]
    exact List.mem_head?_append_of_mem_head? isFirst
  · rw [stripBy, List.getLast?_reverse]
    exact head?_dropWhile _

@[simp] theorem stripBy_stripBy (text : List Char) :
    stripBy skip (stripBy skip text) = stripBy skip text :=
  (trimmed_stripBy text).stripBy_eq

theorem mem_of_mem_stripBy {text : List Char} {char : Char} (member : char ∈ stripBy skip text) :
    char ∈ text := by
  have inner := (List.dropWhile_sublist skip).mem (List.mem_reverse.mp member)
  exact (List.dropWhile_sublist skip).mem (List.mem_reverse.mp inner)

theorem dropWhile_append_of_stops {rest : List Char}
    (stops : ∀ char ∈ rest.head?, skip char = false) (text : List Char) :
    (text ++ rest).dropWhile skip = text.dropWhile skip ++ rest := by
  induction text with
  | nil => exact dropWhile_eq_self stops
  | cons char text ih =>
      rw [List.cons_append, List.dropWhile_cons, List.dropWhile_cons]
      split
      · exact ih
      · rfl

/-- What stands between two characters that are kept is not stripped. -/
theorem stripBy_append {first last : Char} (keepsFirst : skip first = false)
    (keepsLast : skip last = false) (left middle right : List Char) :
    stripBy skip (left ++ first :: (middle ++ last :: right)) =
      left.dropWhile skip ++
        first :: (middle ++ last :: (right.reverse.dropWhile skip).reverse) := by
  have stops {char : Char} (keeps : skip char = false) (rest : List Char) :
      ∀ other ∈ (char :: rest).head?, skip other = false := by
    intro other isFirst
    exact Option.mem_some.mp isFirst ▸ keeps
  have reversed : (left.dropWhile skip ++ first :: (middle ++ last :: right)).reverse =
      right.reverse ++ last :: (middle.reverse ++ first :: (left.dropWhile skip).reverse) := by
    simp
  rw [stripBy, dropWhile_append_of_stops (stops keepsFirst _), reversed,
    dropWhile_append_of_stops (stops keepsLast _)]
  simp

/-- A text around what is left of it. -/
theorem exists_stripBy (text : List Char) :
    ∃ left right, text = left ++ (stripBy skip text ++ right) ∧
      (∀ char ∈ left, skip char = true) ∧ ∀ char ∈ right, skip char = true := by
  refine ⟨text.takeWhile skip, ((text.dropWhile skip).reverse.takeWhile skip).reverse, ?_,
    fun _ member => List.mem_takeWhile_imp member,
    fun _ member => List.mem_takeWhile_imp (List.mem_reverse.mp member)⟩
  rw [stripBy, ← List.reverse_append, List.takeWhile_append_dropWhile, List.reverse_reverse,
    List.takeWhile_append_dropWhile]

/-- Nothing is left of a text of characters to skip. -/
theorem stripBy_eq_nil {text : List Char} (blank : ∀ char ∈ text, skip char = true) :
    stripBy skip text = [] := by
  rw [stripBy, List.dropWhile_eq_nil_iff.mpr blank]
  rfl

end Strip

/-! ## Integers -/

theorem decimalValue_of_isDigit {char : Char} (digit : char.isDigit = true) :
    decimalValue char = some (char.toNat - 48) := by
  simp only [Char.isDigit, Bool.and_eq_true, decide_eq_true_eq] at digit
  have low : 48 ≤ char.toNat := digit.1
  have high : char.toNat ≤ 57 := digit.2
  rw [decimalValue, decimalZeros, List.find?_cons_of_pos]
  · rfl
  · simp only [Bool.and_eq_true, decide_eq_true_eq]
    omega

theorem isSpace_of_isDigit {char : Char} (digit : char.isDigit = true) : isSpace char = false := by
  simp only [Char.isDigit, Bool.and_eq_true, decide_eq_true_eq] at digit
  have low : 48 ≤ char.toNat := digit.1
  have high : char.toNat ≤ 57 := digit.2
  simp only [isSpace, Bool.or_eq_false_iff, Bool.and_eq_false_iff, decide_eq_false_iff_not,
    beq_eq_false_iff_ne]
  omega

private theorem literalDigits_of_digits {text : List Char} (nonempty : text ≠ [])
    (digits : ∀ char ∈ text, char.isDigit = true) :
    literalDigits text = some (text.map fun char => char.toNat - 48) := by
  induction text with
  | nil => exact absurd rfl nonempty
  | cons char text ih =>
      have value := decimalValue_of_isDigit (digits char (.head _))
      cases text with
      | nil => rw [literalDigits, value]; rfl
      | cons next rest =>
          have later := ih (List.cons_ne_nil _ _) fun other member => digits other (.tail _ member)
          have noSeparator : next ≠ '_' := by
            rintro rfl
            exact absurd (digits '_' (.tail _ (.head _))) (by decide)
          rw [literalDigits.eq_4, value, later]
          · rfl
          · exact List.cons_ne_nil _ _
          · rintro _ ⟨⟩
            exact noSeparator rfl

/-- `str(n)`, which is refused beyond the interpreter's limit. -/
def strOfInt (n : Int) : Option (List Char) :=
  if (Nat.toDigits 10 n.natAbs).length ≤ maxStrDigits then some (ofInt n) else none

theorem eq_ofInt_of_strOfInt {n : Int} {text : List Char} (isText : strOfInt n = some text) :
    text = ofInt n := by
  rw [strOfInt] at isText
  split at isText
  · exact (Option.some.inj isText).symm
  · cases isText

theorem parseDigits_of_digits {text : List Char} (nonempty : text ≠ [])
    (digits : ∀ char ∈ text, char.isDigit = true) :
    parseDigits text =
      if text.length ≤ maxStrDigits then some (Nat.ofDigitChars 10 text 0) else none := by
  rw [parseDigits, literalDigits_of_digits nonempty digits, Option.bind_some, List.length_map,
    List.foldl_map, Nat.ofDigitChars_eq_foldl]
  rfl

private theorem parseDigits_toDigits (n : Nat) :
    parseDigits (Nat.toDigits 10 n) =
      if (Nat.toDigits 10 n).length ≤ maxStrDigits then some n else none := by
  have digits : ∀ char ∈ Nat.toDigits 10 n, char.isDigit = true := fun _ member =>
    Nat.isDigit_of_mem_toDigits (by decide) (by decide) member
  rw [parseDigits_of_digits Nat.toDigits_ne_nil digits, Nat.ofDigitChars_ten_toDigits]

theorem ofInt_eq_if (n : Int) :
    ofInt n = if 0 ≤ n then Nat.toDigits 10 n.natAbs else '-' :: Nat.toDigits 10 n.natAbs := by
  rw [ofInt, Int.toString_eq_repr, Int.repr_eq_if]
  split
  next natural =>
    rw [Nat.toList_repr, show n.toNat = n.natAbs by omega]
  next negative =>
    rw [String.toList_append, Nat.toList_repr, show (-n).toNat = n.natAbs by omega]
    rfl

theorem isDigit_of_mem_ofInt {n : Int} {char : Char} (member : char ∈ ofInt n) :
    char = '-' ∨ char.isDigit = true := by
  have digits (digit : char ∈ Nat.toDigits 10 n.natAbs) : char.isDigit = true :=
    Nat.isDigit_of_mem_toDigits (by decide) (by decide) digit
  rw [ofInt_eq_if] at member
  split at member
  · exact .inr (digits member)
  · rcases List.mem_cons.mp member with sign | digit
    · exact .inl sign
    · exact .inr (digits digit)

/-- The text of an integer has no white space. -/
theorem isSpace_of_mem_ofInt {n : Int} {char : Char} (member : char ∈ ofInt n) :
    isSpace char = false := by
  rcases isDigit_of_mem_ofInt member with rfl | digit
  · decide
  · exact isSpace_of_isDigit digit

theorem ofInt_ne_nil (n : Int) : ofInt n ≠ [] := by
  rw [ofInt_eq_if]
  split
  · exact Nat.toDigits_ne_nil
  · exact List.cons_ne_nil _ _

theorem trimmed_of_forall {skip : Char → Bool} {text : List Char}
    (kept : ∀ char ∈ text, skip char = false) : Trimmed skip text :=
  ⟨fun _ isFirst => kept _ (List.mem_of_mem_head? isFirst),
    fun _ isLast => kept _ (List.mem_of_mem_getLast? isLast)⟩

theorem trimmed_ofInt (n : Int) : Trimmed isIntSpace (ofInt n) :=
  trimmed_of_forall fun _ member => by rw [isIntSpace, isSpace_of_mem_ofInt member]; rfl

theorem toDigits_ne_cons {sign : Char} (notDigit : sign.isDigit = false) (n : Nat)
    (rest : List Char) : Nat.toDigits 10 n ≠ sign :: rest := by
  intro same
  have first : sign ∈ Nat.toDigits 10 n := same ▸ List.mem_cons_self
  have digit := Nat.isDigit_of_mem_toDigits (by decide) (by decide) first
  cases notDigit.symm.trans digit

/-- `int` of ASCII digits, up to the interpreter's limit. -/
theorem parseInt_of_digits {text : List Char} (nonempty : text ≠ [])
    (digits : ∀ char ∈ text, char.isDigit = true) :
    parseInt text =
      if text.length ≤ maxStrDigits then some (Nat.ofDigitChars 10 text 0 : Int) else none := by
  have trimmed : Trimmed isIntSpace text := trimmed_of_forall fun char among => by
    rw [isIntSpace, isSpace_of_isDigit (digits char among), Bool.false_and]
  have unsigned {sign : Char} {rest : List Char} (notDigit : sign.isDigit = false)
      (signed : text = sign :: rest) : False := by
    have digit := digits sign (signed ▸ .head _)
    rw [notDigit] at digit
    cases digit
  rw [parseInt, trimmed.stripBy_eq]
  split
  next minus => exact (unsigned (by decide) rfl).elim
  next plus => exact (unsigned (by decide) rfl).elim
  · rw [parseDigits_of_digits nonempty digits]
    split <;> rfl

/-- `int(str(n))`, up to the interpreter's limit. -/
theorem parseInt_ofInt (n : Int) :
    parseInt (ofInt n) =
      if (Nat.toDigits 10 n.natAbs).length ≤ maxStrDigits then some n else none := by
  rw [parseInt, (trimmed_ofInt n).stripBy_eq, ofInt_eq_if]
  have value := parseDigits_toDigits n.natAbs
  by_cases natural : 0 ≤ n
  · rw [if_pos natural]
    split
    next minus => exact absurd minus (toDigits_ne_cons (by decide) _ _)
    next plus => exact absurd plus (toDigits_ne_cons (by decide) _ _)
    · rw [value]
      split
      · exact congrArg some (Int.natAbs_of_nonneg natural)
      · rfl
  · have negated : -(n.natAbs : Int) = n := by omega
    rw [if_neg natural]
    simp only [value]
    split
    · exact congrArg some negated
    · rfl

private theorem toDigits_inj {n m : Nat} (same : Nat.toDigits 10 n = Nat.toDigits 10 m) :
    n = m := by
  rw [← Nat.ofDigitChars_ten_toDigits (n := n), same, Nat.ofDigitChars_ten_toDigits]

/-- Different integers have different texts. -/
theorem ofInt_injective : Function.Injective ofInt := by
  intro n m same
  rw [ofInt_eq_if, ofInt_eq_if] at same
  split at same
  next natural =>
    split at same
    · have := toDigits_inj same
      omega
    · exact absurd same (toDigits_ne_cons (by decide) _ _)
  next negative =>
    split at same
    · exact absurd same.symm (toDigits_ne_cons (by decide) _ _)
    · have := toDigits_inj (List.cons.inj same).2
      omega

theorem parseInt_strOfInt {n : Int} {text : List Char} (isText : strOfInt n = some text) :
    parseInt text = some n := by
  rw [strOfInt] at isText
  split at isText
  next short =>
    cases isText
    rw [parseInt_ofInt, if_pos short]
  · cases isText

end PresenceLogger.Library.Text
