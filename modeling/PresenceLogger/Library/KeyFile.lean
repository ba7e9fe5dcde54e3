import Mathlib.Data.List.Basic

/-!
# Key files

How GLib reads a key file: lines are groups, pairs of a key and a value, comments or
errors.  The blanks before a value are dropped, and its escapes are undone when it is asked
for.
-/

namespace PresenceLogger.Library.KeyFile

/-- `g_ascii_isspace` -/
def isBlank (char : Char) : Bool :=
  char = ' ' || char = '\t' || char = '\n' || char = '\x0c' || char = '\r'

inductive Line where
  | comment
  | group (name : List Char)
  | pair (key value : List Char)
  | error
  deriving DecidableEq

/-- `[name]`, and nothing but blanks behind it. -/
def groupName : List Char → Option (List Char)
  | '[' :: rest =>
      match rest.dropWhile (· ≠ ']') with
      | ']' :: after => if after.all isBlank then some (rest.takeWhile (· ≠ ']')) else none
      | _ => none
  | _ => none

/-- A key without the blanks after it, and a value without those before it. -/
def keyValue (line : List Char) : Option (List Char × List Char) :=
  match line.dropWhile (· ≠ '=') with
  | _ :: value =>
      let key := ((line.takeWhile (· ≠ '=')).reverse.dropWhile isBlank).reverse
      if key = [] then none else some (key, value.dropWhile isBlank)
  | [] => none

/-- What a line says, without its end. -/
def readLine (text : List Char) : Line :=
  let line := text.dropWhile isBlank
  if line = [] ∨ line.head? = some '#' then .comment
  else
    match groupName line with
    | some name => .group name
    | none =>
        match keyValue line with
        | some (key, value) => .pair key value
        | none => .error

/-- The lines of a file, without a carriage return before a line feed. -/
def fileLines (text : List Char) : List (List Char) :=
  (text.splitOn '\n').map fun line => if line.getLast? = some '\r' then line.dropLast else line

/-- The pairs of the groups, in order; a pair before all groups is an error. -/
def parseLines (group : Option (List Char)) :
    List (List Char) → Option (List (List Char × List Char × List Char))
  | [] => some []
  | line :: lines =>
      match readLine line with
      | .comment => parseLines group lines
      | .group name => parseLines (some name) lines
      | .pair key value =>
          group.bind fun name => (parseLines group lines).map ((name, key, value) :: ·)
      | .error => none

/-- The escapes of a string; nothing stands for one that is not known. -/
def unescape : List Char → Option (List Char)
  | [] => some []
  | '\\' :: 's' :: rest => (unescape rest).map (' ' :: ·)
  | '\\' :: 't' :: rest => (unescape rest).map ('\t' :: ·)
  | '\\' :: 'n' :: rest => (unescape rest).map ('\n' :: ·)
  | '\\' :: 'r' :: rest => (unescape rest).map ('\r' :: ·)
  | '\\' :: '\\' :: rest => (unescape rest).map ('\\' :: ·)
  | '\\' :: _ => none
  | char :: rest => (unescape rest).map (char :: ·)

/-- `g_key_file_get_string`; the last value of a key counts. -/
def getString (text group key : List Char) : Option (List Char) := do
  let pairs ← parseLines none (fileLines text)
  let found ← (pairs.filter fun pair => pair.1 = group ∧ pair.2.1 = key).getLast?
  unescape found.2.2

/-! ## Lines that are written -/

/-- Lines with a line feed after each. -/
def unlines (lines : List (List Char)) : List Char := lines.flatMap fun line => line ++ ['\n']

/-- Lines are read back if they have no line end in them and none at their end. -/
theorem fileLines_unlines {lines : List (List Char)}
    (plain : ∀ line ∈ lines, '\n' ∉ line ∧ line.getLast? ≠ some '\r') :
    fileLines (unlines lines) = lines ++ [[]] := by
  induction lines with
  | nil => rfl
  | cons line lines ih =>
      obtain ⟨⟨noFeed, noReturn⟩, others⟩ := List.forall_mem_cons.mp plain
      have split : unlines (line :: lines) = line ++ '\n' :: unlines lines := by
        simp [unlines]
      rw [split, fileLines, List.splitOn_append_cons_self_of_not_mem noFeed, List.map_cons,
        if_neg noReturn, ← fileLines, ih others, List.cons_append]

/-! ## Escapes that are written -/

theorem unescape_plain {char : Char} (plain : char ≠ '\\') (rest : List Char) :
    unescape (char :: rest) = (unescape rest).map (char :: ·) := by
  rw [unescape]
  all_goals simp [plain]

/-- A text without backslashes stands for itself. -/
theorem unescape_append {text : List Char} (plain : '\\' ∉ text) (rest : List Char) :
    unescape (text ++ rest) = (unescape rest).map (text ++ ·) := by
  induction text with
  | nil => simp
  | cons char text ih =>
      have notSlash : char ≠ '\\' := fun same => plain (same ▸ .head _)
      rw [List.cons_append, unescape_plain notSlash, ih (List.not_mem_of_not_mem_cons plain),
        Option.map_map]
      rfl

theorem unescape_self {text : List Char} (plain : '\\' ∉ text) : unescape text = some text := by
  have all := unescape_append plain []
  rwa [List.append_nil, unescape, Option.map_some, List.append_nil] at all

/-- Each blank may be written as an escape. -/
theorem unescape_spaces (count : Nat) (rest : List Char) :
    unescape ((List.replicate count ['\\', 's']).flatten ++ rest) =
      unescape (List.replicate count ' ' ++ rest) := by
  induction count with
  | zero => rfl
  | succ count ih =>
      have space : ' ' ≠ '\\' := by decide
      have first : unescape ('\\' :: 's' :: ((List.replicate count ['\\', 's']).flatten ++ rest)) =
          (unescape ((List.replicate count ['\\', 's']).flatten ++ rest)).map (' ' :: ·) := rfl
      have second : unescape (' ' :: (List.replicate count ' ' ++ rest)) =
          (unescape (List.replicate count ' ' ++ rest)).map (' ' :: ·) :=
        unescape_plain space _
      rw [List.replicate_succ, List.replicate_succ, List.flatten_cons]
      exact first.trans ((congrArg _ ih).trans second.symm)

/-- Backslashes that are doubled are read as they were. -/
theorem unescape_doubled (text : List Char) :
    unescape (text.flatMap fun char => if char = '\\' then ['\\', '\\'] else [char]) =
      some text := by
  induction text with
  | nil => rfl
  | cons char text ih =>
      rw [List.flatMap_cons]
      split
      next same =>
        subst same
        have first (rest : List Char) : unescape (['\\', '\\'] ++ rest) =
            (unescape rest).map ('\\' :: ·) := rfl
        rw [first, ih]
        rfl
      next other => rw [List.singleton_append, unescape_plain other, ih]; rfl

end PresenceLogger.Library.KeyFile
