import PresenceLogger.Library.Text

/-!
# Words of the shell

How a POSIX shell reads a simple command whose words are literal, and how `shlex.quote`
writes a word.  A character that may stand for an expansion, an operator or a pattern is
not read outside quotes.
-/

namespace PresenceLogger.Library.Shell

open Text

/-- The characters that `_find_unsafe` does not find. -/
def isPlain (char : Char) : Bool :=
  char.isAlphanum || ['_', '@', '%', '+', '=', ':', ',', '.', '/', '-'].contains char

/-- `text.replace("'", "'\"'\"'")` -/
def escapeQuotes (text : List Char) : List Char :=
  text.flatMap fun char => if char = '\'' then ['\'', '"', '\'', '"', '\''] else [char]

/-- `shlex.quote` -/
def quote (text : List Char) : List Char :=
  if text ≠ [] ∧ text.all isPlain then text else '\'' :: (escapeQuotes text ++ ['\''])

/-! ## Reading -/

inductive Quoting where
  | bare
  | single
  | double

/-- The words of a command, where the last of them has begun or not. -/
def readFrom (quoting : Quoting) (word : Option (List Char)) :
    List Char → Option (List (List Char))
  | [] =>
      match quoting with
      | .bare => some word.toList
      | .single | .double => none
  | char :: rest =>
      match quoting with
      | .bare =>
          if char = ' ' ∨ char = '\t' then (readFrom .bare none rest).map (word.toList ++ ·)
          else if char = '\'' then readFrom .single (some (word.getD [])) rest
          else if char = '"' then readFrom .double (some (word.getD [])) rest
          else if isPlain char then readFrom .bare (some (word.getD [] ++ [char])) rest
          else none
      | .single =>
          if char = '\'' then readFrom .bare word rest
          else readFrom .single (some (word.getD [] ++ [char])) rest
      | .double =>
          if char = '"' then readFrom .bare word rest
          else if ['$', '\\', '!', Char.ofNat 0x60].contains char then none
          else readFrom .double (some (word.getD [] ++ [char])) rest

/-- The words of a command. -/
def words (text : List Char) : Option (List (List Char)) := readFrom .bare none text

/-! ## What is written is read -/

theorem isPlain_cases {char : Char} (plain : isPlain char = true) :
    char ≠ ' ' ∧ char ≠ '\t' ∧ char ≠ '\'' ∧ char ≠ '"' := by
  refine ⟨?_, ?_, ?_, ?_⟩ <;>
  · rintro rfl
    exact absurd plain (by decide)

theorem readFrom_plain {text : List Char} (plain : ∀ char ∈ text, isPlain char = true)
    (word rest : List Char) :
    readFrom .bare (some word) (text ++ rest) = readFrom .bare (some (word ++ text)) rest := by
  induction text generalizing word with
  | nil => rw [List.nil_append, List.append_nil]
  | cons char text ih =>
      obtain ⟨isChar, others⟩ := List.forall_mem_cons.mp plain
      obtain ⟨notSpace, notTab, notSingle, notDouble⟩ := isPlain_cases isChar
      have here : readFrom .bare (some word) (char :: (text ++ rest)) =
          readFrom .bare (some (word ++ [char])) (text ++ rest) := by
        simp [readFrom, notSpace, notTab, notSingle, notDouble, isChar]
      rw [List.cons_append, here, ih others, List.append_assoc, List.singleton_append]

/-- A word that has not begun begins with its first character. -/
theorem readFrom_begin {text : List Char} (plain : ∀ char ∈ text, isPlain char = true)
    (present : text ≠ []) (rest : List Char) :
    readFrom .bare none (text ++ rest) = readFrom .bare (some text) rest := by
  cases text with
  | nil => exact absurd rfl present
  | cons char text =>
      obtain ⟨isChar, others⟩ := List.forall_mem_cons.mp plain
      obtain ⟨notSpace, notTab, notSingle, notDouble⟩ := isPlain_cases isChar
      have here : readFrom .bare none (char :: (text ++ rest)) =
          readFrom .bare (some [char]) (text ++ rest) := by
        simp [readFrom, notSpace, notTab, notSingle, notDouble, isChar]
      rw [List.cons_append, here, readFrom_plain others, List.singleton_append]

theorem readFrom_escaped (text word rest : List Char) :
    readFrom .single (some word) (escapeQuotes text ++ '\'' :: rest) =
      readFrom .bare (some (word ++ text)) rest := by
  induction text generalizing word with
  | nil => simp [escapeQuotes, readFrom]
  | cons char text ih =>
      rw [escapeQuotes, List.flatMap_cons, ← escapeQuotes]
      by_cases isQuote : char = '\''
      · subst isQuote
        simp [readFrom, ih, List.append_assoc]
      · simp [readFrom, isQuote, ih, List.append_assoc]

/-- Whatever a text is, quoted it is read as a word, or as the rest of one. -/
theorem readFrom_quote (text : List Char) (word : Option (List Char)) (rest : List Char) :
    readFrom .bare word (quote text ++ rest) =
      readFrom .bare (some (word.getD [] ++ text)) rest := by
  rw [quote]
  split
  next safe =>
    have plain : ∀ char ∈ text, isPlain char = true := by simpa using safe.2
    cases word with
    | none => rw [readFrom_begin plain safe.1, Option.getD_none, List.nil_append]
    | some word => rw [readFrom_plain plain, Option.getD_some]
  · rw [List.cons_append, List.append_assoc, List.singleton_append, ← readFrom_escaped]
    simp [readFrom]

theorem readFrom_space (word : Option (List Char)) (rest : List Char) :
    readFrom .bare word (' ' :: rest) = (words rest).map (word.toList ++ ·) := by
  simp [readFrom, words]

theorem words_quote (text : List Char) : words (quote text) = some [text] := by
  rw [words, ← List.append_nil (quote text), readFrom_quote]
  rfl

/-- Plain words in front are read before the others. -/
theorem words_append {front : List (List Char)}
    (plain : ∀ word ∈ front, word ≠ [] ∧ ∀ char ∈ word, isPlain char = true) (rest : List Char) :
    words (front.flatMap (· ++ [' ']) ++ rest) = (words rest).map (front ++ ·) := by
  induction front with
  | nil => simp
  | cons word front ih =>
      obtain ⟨⟨present, chars⟩, others⟩ := List.forall_mem_cons.mp plain
      rw [List.flatMap_cons, List.append_assoc, List.append_assoc, List.singleton_append, words,
        readFrom_begin chars present, readFrom_space, ih others, Option.map_map]
      rfl

end PresenceLogger.Library.Shell
