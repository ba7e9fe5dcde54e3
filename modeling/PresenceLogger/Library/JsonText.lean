import Mathlib.Data.List.TakeWhile
import Mathlib.Data.Char

/-!
# JSON text

Texts of objects as `json.dumps` writes and `json.loads` reads them.  Of a value that is
not a string only the extent is read.  What was written is read back, and no text that is
cut short is read at all.
-/

namespace PresenceLogger.Library.JsonText

/-! ## Strings -/

/-- The characters that have an escape of one letter. -/
def escapes : List (Char × Char) :=
  [('"', '"'), ('\\', '\\'), ('\n', 'n'), ('\r', 'r'), ('\t', 't'), ('\x0c', 'f'), ('\x08', 'b')]

/-- `ESCAPE_DCT` -/
def escapeChar (char : Char) : List Char :=
  match escapes.lookup char with
  | some letter => ['\\', letter]
  | none =>
      if char.toNat < 32 then
        ['\\', 'u', '0', '0', Nat.digitChar (char.toNat / 16), Nat.digitChar (char.toNat % 16)]
      else [char]

def quote (text : List Char) : List Char := '"' :: (text.flatMap escapeChar ++ ['"'])

/-- The character an escape of one letter stands for. -/
def ofLetter (letter : Char) : Option Char :=
  (('/', '/') :: escapes.map Prod.swap).lookup letter

def hexValue (char : Char) : Option Nat :=
  if char.isDigit then some (char.toNat - 48)
  else if 97 ≤ char.toNat ∧ char.toNat ≤ 102 then some (char.toNat - 87)
  else if 65 ≤ char.toNat ∧ char.toNat ≤ 70 then some (char.toNat - 55)
  else none

/-- Four hexadecimal digits. -/
def hex4 (a b c d : Char) : Option Nat :=
  match hexValue a, hexValue b, hexValue c, hexValue d with
  | some a, some b, some c, some d => some (((a * 16 + b) * 16 + c) * 16 + d)
  | _, _, _, _ => none

/-- `scanstring`, after the opening quote: the code points and what follows the closing
quote. -/
def scanUnits : List Char → Option (List Nat × List Char)
  | [] => none
  | '"' :: rest => some ([], rest)
  | '\\' :: 'u' :: a :: b :: c :: d :: rest =>
      match hex4 a b c d with
      | some unit => (scanUnits rest).map fun scanned => (unit :: scanned.1, scanned.2)
      | none => none
  | '\\' :: letter :: rest =>
      match ofLetter letter with
      | some char => (scanUnits rest).map fun scanned => (char.toNat :: scanned.1, scanned.2)
      | none => none
  | char :: rest =>
      if char.toNat < 32 then none
      else (scanUnits rest).map fun scanned => (char.toNat :: scanned.1, scanned.2)

/-- The characters of these code points; a lone surrogate is none. -/
def joinSurrogates : List Nat → Option (List Char)
  | [] => some []
  | [unit] => if 0xd800 ≤ unit ∧ unit ≤ 0xdfff then none else some [.ofNat unit]
  | unit :: next :: units =>
      if 0xd800 ≤ unit ∧ unit ≤ 0xdbff ∧ 0xdc00 ≤ next ∧ next ≤ 0xdfff then
        (joinSurrogates units).map
          (.ofNat (0x10000 + (unit - 0xd800) * 0x400 + (next - 0xdc00)) :: ·)
      else if 0xd800 ≤ unit ∧ unit ≤ 0xdfff then none
      else (joinSurrogates (next :: units)).map (.ofNat unit :: ·)

/-- A string with a lone surrogate is not read. -/
def scanString (text : List Char) : Option (List Char × List Char) :=
  match scanUnits text with
  | some (units, rest) => (joinSurrogates units).map fun chars => (chars, rest)
  | none => none

/-! ### What was quoted -/

theorem ofLetter_of_lookup {char letter : Char} (escaped : escapes.lookup char = some letter) :
    ofLetter letter = some char ∧ letter ≠ 'u' := by
  have inverse : ∀ pair ∈ escapes, ofLetter pair.2 = some pair.1 ∧ pair.2 ≠ 'u' := by decide
  obtain ⟨before, after, split, -⟩ := List.lookup_eq_some_iff.mp escaped
  exact inverse (char, letter) (by simp [split])

/-- The quote and the backslash have an escape. -/
theorem plain_of_lookup {char : Char} (plain : escapes.lookup char = none) :
    char ≠ '"' ∧ char ≠ '\\' := by
  constructor <;> rintro rfl <;> exact absurd plain (by decide)

theorem hex4_digitChar {code : Nat} (control : code < 32) :
    hex4 '0' '0' (Nat.digitChar (code / 16)) (Nat.digitChar (code % 16)) = some code := by
  revert code
  decide

theorem scanUnits_escapeChar (char : Char) (rest : List Char) :
    scanUnits (escapeChar char ++ rest) =
      (scanUnits rest).map fun scanned => (char.toNat :: scanned.1, scanned.2) := by
  rw [escapeChar]
  split
  next letter escaped =>
    obtain ⟨isChar, notU⟩ := ofLetter_of_lookup escaped
    rw [List.cons_append, List.cons_append, List.nil_append, scanUnits.eq_def]
    simp [isChar, notU]
  next plain =>
    obtain ⟨notQuote, notBackslash⟩ := plain_of_lookup plain
    split
    next control => simp [scanUnits, hex4_digitChar control]
    next printed =>
      rw [List.singleton_append, scanUnits.eq_def]
      simp [notBackslash, printed]

/-- What follows the closing quote does not matter. -/
theorem scanUnits_append {text rest : List Char} {units : List Nat}
    (scans : scanUnits text = some (units, rest)) (more : List Char) :
    scanUnits (text ++ more) = some (units, rest ++ more) := by
  fun_induction scanUnits text generalizing units rest with
  | case1 => cases scans
  | case2 rest =>
      cases scans
      simp [scanUnits]
  | case3 a b c d after unit isHex ih =>
      obtain ⟨⟨units, rest⟩, later, same⟩ := Option.map_eq_some_iff.mp scans
      cases same
      simp [scanUnits, isHex, ih later]
  | case4 => cases scans
  | case5 letter after _ char isChar ih =>
      obtain ⟨⟨units, rest⟩, later, same⟩ := Option.map_eq_some_iff.mp scans
      cases same
      have notU : letter ≠ 'u' := by
        rintro rfl
        have noLetter : ofLetter 'u' = none := by decide
        cases noLetter.symm.trans isChar
      rw [List.cons_append, List.cons_append, scanUnits.eq_def]
      simp [isChar, notU, ih later]
  | case6 => cases scans
  | case7 => cases scans
  | case8 char after notQuote _ notEscape printed ih =>
      obtain ⟨⟨units, rest⟩, later, same⟩ := Option.map_eq_some_iff.mp scans
      cases same
      have notBackslash : char ≠ '\\' := by
        rintro rfl
        cases after with
        | nil => cases later
        | cons letter after => exact notEscape letter after rfl rfl
      rw [List.cons_append, scanUnits.eq_def]
      simp [notBackslash, printed, ih later]

theorem scanUnits_escaped (text rest : List Char) :
    scanUnits (text.flatMap escapeChar ++ '"' :: rest) = some (text.map Char.toNat, rest) := by
  induction text with
  | nil => simp [scanUnits]
  | cons char text ih => simp [scanUnits_escapeChar, ih]

theorem not_surrogate (char : Char) : ¬(0xd800 ≤ char.toNat ∧ char.toNat ≤ 0xdfff) := by
  have valid := char.valid
  simp only [UInt32.isValidChar, Nat.isValidChar] at valid
  have same : char.toNat = char.val.toNat := rfl
  omega

theorem joinSurrogates_map (text : List Char) :
    joinSurrogates (text.map Char.toNat) = some text := by
  induction text with
  | nil => rfl
  | cons char text ih =>
      have here := not_surrogate char
      cases text with
      | nil => simp [joinSurrogates, here]
      | cons next text =>
          have notPair : ¬(0xd800 ≤ char.toNat ∧ char.toNat ≤ 0xdbff ∧ 0xdc00 ≤ next.toNat ∧
              next.toNat ≤ 0xdfff) := by
            omega
          rw [List.map_cons] at ih
          rw [List.map_cons, List.map_cons, joinSurrogates, if_neg notPair, if_neg here, ih]
          simp

theorem scanString_escaped (text rest : List Char) :
    scanString (text.flatMap escapeChar ++ '"' :: rest) = some (text, rest) := by
  simp [scanString, scanUnits_escaped, joinSurrogates_map]

theorem scanString_append {text chars rest : List Char}
    (scans : scanString text = some (chars, rest)) (more : List Char) :
    scanString (text ++ more) = some (chars, rest ++ more) := by
  unfold scanString at scans
  split at scans
  next units after found =>
    obtain ⟨joined, isJoined, same⟩ := Option.map_eq_some_iff.mp scans
    cases same
    simp [scanString, scanUnits_append found, isJoined]
  · cases scans

/-! ## Values -/

def isBlank (char : Char) : Bool :=
  char == ' ' || char == '\t' || char == '\n' || char == '\r'

def skip (text : List Char) : List Char := text.dropWhile isBlank

/-- What is kept of a value. -/
inductive Scanned where
  | text (chars : List Char)
  | other
  deriving DecidableEq, Repr

def isDelimiter (char : Char) : Bool :=
  isBlank char || char == ',' || char == ':' || char == '"' || char == '[' || char == ']' ||
    char == '{' || char == '}'

/-- `(\.\d+)?` -/
def dropFraction : List Char → List Char
  | '.' :: digit :: rest =>
      if digit.isDigit then rest.dropWhile Char.isDigit else '.' :: digit :: rest
  | text => text

/-- `([eE][-+]?\d+)?` -/
def dropExponent (text : List Char) : List Char :=
  match text with
  | [] => []
  | letter :: rest =>
      let digits := if rest.head? = some '-' ∨ rest.head? = some '+' then rest.drop 1 else rest
      if (letter = 'e' ∨ letter = 'E') ∧ digits.head?.any Char.isDigit then
        digits.dropWhile Char.isDigit
      else text

/-- `NUMBER_RE` -/
def isNumber (token : List Char) : Bool :=
  let body := if token.head? = some '-' then token.drop 1 else token
  let whole := body.takeWhile Char.isDigit
  (whole = ['0'] || whole.head?.any (· ≠ '0')) &&
    dropExponent (dropFraction (body.dropWhile Char.isDigit)) = []

def literals : List (List Char) :=
  ["null", "true", "false", "NaN", "Infinity", "-Infinity"].map String.toList

/-- A number or a literal. -/
def scanToken (text : List Char) : Option (Scanned × List Char) :=
  let token := text.takeWhile (!isDelimiter ·)
  if isNumber token || token ∈ literals then some (.other, text.dropWhile (!isDelimiter ·))
  else none

mutual

/-- `scan_once`; the fuel bounds the members, items and levels that are still to come. -/
def scanValue (fuel : Nat) (text : List Char) : Option (Scanned × List Char) :=
  match fuel, text with
  | _, '"' :: rest => (scanString rest).map fun scanned => (.text scanned.1, scanned.2)
  | fuel + 1, '{' :: rest =>
      match skip rest with
      | '}' :: rest => some (.other, rest)
      | rest => (scanMembers fuel rest).map fun scanned => (.other, scanned.2)
  | fuel + 1, '[' :: rest =>
      match skip rest with
      | ']' :: rest => some (.other, rest)
      | rest => (scanItems fuel rest).map fun rest => (.other, rest)
  | _, text => scanToken text

/-- The members of an object, up to its closing brace. -/
def scanMembers (fuel : Nat) (text : List Char) :
    Option (List (List Char × Scanned) × List Char) :=
  match fuel, text with
  | fuel + 1, '"' :: text => do
      let (key, text) ← scanString text
      match skip text with
      | ':' :: text =>
          let (value, text) ← scanValue fuel (skip text)
          match skip text with
          | '}' :: text => some ([(key, value)], text)
          | ',' :: text =>
              let (later, text) ← scanMembers fuel (skip text)
              some ((key, value) :: later, text)
          | _ => none
      | _ => none
  | _, _ => none

/-- The items of an array, up to its closing bracket. -/
def scanItems (fuel : Nat) (text : List Char) : Option (List Char) :=
  match fuel with
  | fuel + 1 => do
      let (_, text) ← scanValue fuel text
      match skip text with
      | ']' :: text => some text
      | ',' :: text => scanItems fuel (skip text)
      | _ => none
  | 0 => none

end

/-- An object after its opening brace. -/
def scanObject (fuel : Nat) (text : List Char) :
    Option (List (List Char × Scanned) × List Char) :=
  match skip text with
  | '}' :: rest => some ([], rest)
  | members => scanMembers fuel members

/-- `json.loads` of the text of an object. -/
def loadsObject (text : List Char) : Option (List (List Char × Scanned)) :=
  match skip text with
  | '{' :: rest =>
      match scanObject text.length rest with
      | some (members, rest) => if skip rest = [] then some members else none
      | none => none
  | _ => none

/-! ## Objects of strings -/

/-- A member as it is written. -/
def member (pair : List Char × List Char) : List Char :=
  quote pair.1 ++ ':' :: ' ' :: quote pair.2

/-- The members on their lines, and the closing brace. -/
def memberLines (members : List (List Char × List Char)) : List Char :=
  [',', '\n', ' ', ' '].intercalate (members.map member) ++ ['\n', '}']

/-- `json.dumps(members, ensure_ascii=False, indent=2)` -/
def dumpsObject (members : List (List Char × List Char)) : List Char :=
  if members = [] then ['{', '}'] else '{' :: '\n' :: ' ' :: ' ' :: memberLines members

theorem skip_cons {char : Char} (plain : isBlank char = false) (text : List Char) :
    skip (char :: text) = char :: text := by
  simp [skip, plain]

theorem skip_blank {char : Char} (blank : isBlank char = true) (text : List Char) :
    skip (char :: text) = skip text := by
  simp [skip, blank]

theorem scanValue_quote (fuel : Nat) (text : List Char) :
    scanValue fuel ('"' :: text) =
      (scanString text).map fun scanned => (.text scanned.1, scanned.2) := by
  cases fuel <;> rfl

theorem scanValue_escaped (fuel : Nat) (value rest : List Char) :
    scanValue fuel ('"' :: (value.flatMap escapeChar ++ '"' :: rest)) =
      some (.text value, rest) := by
  simp [scanValue_quote, scanString_escaped]

theorem scanMembers_member (fuel : Nat) (key value rest : List Char) :
    scanMembers (fuel + 1) (member (key, value) ++ rest) =
      match skip rest with
      | '}' :: text => some ([(key, .text value)], text)
      | ',' :: text =>
          (scanMembers fuel (skip text)).bind fun scanned =>
            some ((key, .text value) :: scanned.1, scanned.2)
      | _ => none := by
  have written : member (key, value) ++ rest = '"' :: (key.flatMap escapeChar ++ '"' :: ':' ::
      ' ' :: '"' :: (value.flatMap escapeChar ++ '"' :: rest)) := by
    simp [member, quote]
  have colon : isBlank ':' = false := by decide
  have quoted : isBlank '"' = false := by decide
  have blank : isBlank ' ' = true := by decide
  rw [written, scanMembers, scanString_escaped]
  simp only [Option.bind_eq_bind, Option.bind_some, skip_cons colon, skip_blank blank,
    skip_cons quoted, scanValue_escaped]

theorem memberLines_single (pair : List Char × List Char) :
    memberLines [pair] = member pair ++ ['\n', '}'] := by
  simp [memberLines]

theorem memberLines_cons_cons (pair next : List Char × List Char)
    (members : List (List Char × List Char)) :
    memberLines (pair :: next :: members) =
      member pair ++ ',' :: '\n' :: ' ' :: ' ' :: memberLines (next :: members) := by
  simp [memberLines, List.intercalate_cons_cons]

theorem exists_memberLines (pair : List Char × List Char)
    (members : List (List Char × List Char)) :
    ∃ rest, memberLines (pair :: members) = '"' :: rest := by
  cases members with
  | nil => exact ⟨_, by rw [memberLines_single, member, quote]; rfl⟩
  | cons next members => exact ⟨_, by rw [memberLines_cons_cons, member, quote]; rfl⟩

theorem skip_memberLines (pair : List Char × List Char)
    (members : List (List Char × List Char)) :
    skip (memberLines (pair :: members)) = memberLines (pair :: members) := by
  obtain ⟨rest, starts⟩ := exists_memberLines pair members
  rw [starts, skip_cons (by decide)]

theorem length_le_length_memberLines (members : List (List Char × List Char)) :
    members.length ≤ (memberLines members).length := by
  induction members with
  | nil => simp
  | cons pair members ih =>
      cases members with
      | nil => simp [memberLines_single]
      | cons next members =>
          simp only [memberLines_cons_cons, List.length_cons, List.length_append] at ih ⊢
          omega

theorem scanMembers_memberLines {fuel : Nat} {members : List (List Char × List Char)}
    (present : members ≠ []) (enough : members.length ≤ fuel) :
    scanMembers fuel (memberLines members) =
      some (members.map fun pair => (pair.1, Scanned.text pair.2), []) := by
  induction members generalizing fuel with
  | nil => exact absurd rfl present
  | cons pair members ih =>
      obtain ⟨key, value⟩ := pair
      obtain ⟨fuel, rfl⟩ : ∃ less, fuel = less + 1 := ⟨fuel - 1, by simp at enough; omega⟩
      cases members with
      | nil =>
          rw [memberLines_single, scanMembers_member]
          rfl
      | cons next members =>
          have later := @ih fuel (List.cons_ne_nil next members) (by simpa using enough)
          have comma : isBlank ',' = false := by decide
          rw [memberLines_cons_cons, scanMembers_member, skip_cons comma]
          simp [skip_blank, isBlank, skip_memberLines, later]

theorem scanObject_memberLines {fuel : Nat} (pair : List Char × List Char)
    (members : List (List Char × List Char)) (enough : (pair :: members).length ≤ fuel) :
    scanObject fuel ('\n' :: ' ' :: ' ' :: memberLines (pair :: members)) =
      some ((pair :: members).map fun pair => (pair.1, Scanned.text pair.2), []) := by
  obtain ⟨rest, starts⟩ := exists_memberLines pair members
  have scans := scanMembers_memberLines (List.cons_ne_nil pair members) enough
  rw [scanObject, skip_blank (by decide), skip_blank (by decide), skip_blank (by decide),
    skip_memberLines, ← scans, starts]
  rfl

/-- The scan of a written object ends with its text. -/
theorem exists_scanObject (members : List (List Char × List Char)) :
    ∃ body, dumpsObject members = '{' :: body ∧
      scanObject (dumpsObject members).length body =
        some (members.map fun pair => (pair.1, Scanned.text pair.2), []) := by
  cases members with
  | nil => exact ⟨['}'], by decide, by decide⟩
  | cons pair members =>
      rw [dumpsObject, if_neg (List.cons_ne_nil pair members)]
      have fits := length_le_length_memberLines (pair :: members)
      exact ⟨_, rfl, scanObject_memberLines pair members (by simp at fits ⊢; omega)⟩

/-- What was written is read back. -/
theorem loadsObject_dumpsObject (members : List (List Char × List Char)) :
    loadsObject (dumpsObject members) =
      some (members.map fun pair => (pair.1, Scanned.text pair.2)) := by
  obtain ⟨body, written, scans⟩ := exists_scanObject members
  rw [written] at scans ⊢
  rw [loadsObject, skip_cons (by decide)]
  simp only [scans]
  rfl

/-! ## Texts that are cut short -/

theorem skip_append {text rest : List Char} {char : Char} (skips : skip text = char :: rest)
    (more : List Char) : skip (text ++ more) = char :: (rest ++ more) := by
  have present : text.dropWhile isBlank = char :: rest := skips
  rw [skip, List.dropWhile_append, present]
  simp

theorem skip_append_of_ne_nil {text : List Char} (present : skip text ≠ []) (more : List Char) :
    skip (text ++ more) = skip text ++ more := by
  obtain ⟨char, rest, skips⟩ := List.exists_cons_of_ne_nil present
  rw [skip_append skips, skips, List.cons_append]

theorem scanValue_quote_append {fuel enough : Nat} {text rest : List Char} {value : Scanned}
    (scans : scanValue fuel ('"' :: text) = some (value, rest)) (more : List Char) :
    scanValue enough ('"' :: text ++ more) = some (value, rest ++ more) := by
  rw [scanValue_quote, Option.map_eq_some_iff] at scans
  obtain ⟨⟨chars, after⟩, isString, same⟩ := scans
  cases same
  simp [scanValue_quote, scanString_append isString]

theorem scanToken_delimiter {char : Char} (delimits : isDelimiter char = true)
    (text : List Char) : scanToken (char :: text) = none := by
  have empty : (isNumber [] || decide ([] ∈ literals)) = false := by decide
  simp [scanToken, delimits, empty]

theorem scanToken_append {text rest : List Char} {value : Scanned}
    (scans : scanToken text = some (value, rest)) (present : rest ≠ []) (more : List Char) :
    scanToken (text ++ more) = some (value, rest ++ more) := by
  rw [scanToken] at scans
  split at scans
  next isToken =>
    cases scans
    have shorter : (text.takeWhile (!isDelimiter ·)).length ≠ text.length := by
      have parts : (text.takeWhile (!isDelimiter ·) ++ text.dropWhile (!isDelimiter ·)).length =
          text.length := by
        rw [List.takeWhile_append_dropWhile]
      have left := List.length_pos_iff.mpr present
      rw [List.length_append] at parts
      omega
    rw [scanToken, List.takeWhile_append, if_neg shorter, if_pos isToken, List.dropWhile_append,
      if_neg (by simpa using present)]
  · cases scans

theorem scanMembers_eq_some_iff {fuel : Nat} {text rest : List Char}
    {members : List (List Char × Scanned)} :
    scanMembers (fuel + 1) text = some (members, rest) ↔
      ∃ body key afterKey afterColon value afterValue, text = '"' :: body ∧
        scanString body = some (key, afterKey) ∧ skip afterKey = ':' :: afterColon ∧
        scanValue fuel (skip afterColon) = some (value, afterValue) ∧
        (members = [(key, value)] ∧ skip afterValue = '}' :: rest ∨
          ∃ afterComma later, skip afterValue = ',' :: afterComma ∧
            scanMembers fuel (skip afterComma) = some (later, rest) ∧
            members = (key, value) :: later) := by
  constructor
  · intro scans
    obtain ⟨body, rfl⟩ : ∃ body, text = '"' :: body := by
      rw [scanMembers.eq_def] at scans
      split at scans
      · exact ⟨_, rfl⟩
      · cases scans
    rw [scanMembers] at scans
    obtain ⟨⟨key, afterKey⟩, isKey, scans⟩ := Option.bind_eq_some_iff.mp scans
    dsimp only at scans
    split at scans
    next afterColon hasColon =>
      obtain ⟨⟨value, afterValue⟩, isValue, scans⟩ := Option.bind_eq_some_iff.mp scans
      refine ⟨body, key, afterKey, afterColon, value, afterValue, rfl, isKey, hasColon, isValue, ?_⟩
      dsimp only at scans
      split at scans
      next closes =>
        cases scans
        exact .inl ⟨rfl, closes⟩
      next afterComma goesOn =>
        obtain ⟨⟨later, after⟩, isLater, scans⟩ := Option.bind_eq_some_iff.mp scans
        cases scans
        exact .inr ⟨afterComma, later, goesOn, isLater, rfl⟩
      · cases scans
    · cases scans
  · rintro ⟨body, key, afterKey, afterColon, value, afterValue, rfl, isKey, hasColon, isValue,
      ⟨rfl, closes⟩ | ⟨afterComma, later, goesOn, isLater, rfl⟩⟩
    · simp [scanMembers, isKey, hasColon, isValue, closes]
    · simp [scanMembers, isKey, hasColon, isValue, goesOn, isLater]

theorem scanItems_eq_some_iff {fuel : Nat} {text rest : List Char} :
    scanItems (fuel + 1) text = some rest ↔
      ∃ value afterValue, scanValue fuel text = some (value, afterValue) ∧
        (skip afterValue = ']' :: rest ∨
          ∃ afterComma, skip afterValue = ',' :: afterComma ∧
            scanItems fuel (skip afterComma) = some rest) := by
  constructor
  · intro scans
    rw [scanItems] at scans
    obtain ⟨⟨value, afterValue⟩, isValue, scans⟩ := Option.bind_eq_some_iff.mp scans
    refine ⟨value, afterValue, isValue, ?_⟩
    dsimp only at scans
    split at scans
    next closes =>
      cases scans
      exact .inl closes
    next afterComma goesOn => exact .inr ⟨afterComma, goesOn, scans⟩
    · cases scans
  · rintro ⟨value, afterValue, isValue, closes | ⟨afterComma, goesOn, isLater⟩⟩
    · simp [scanItems, isValue, closes]
    · simp [scanItems, isValue, goesOn, isLater]

theorem scanObject_eq_some_iff {fuel : Nat} {text rest : List Char}
    {members : List (List Char × Scanned)} :
    scanObject fuel text = some (members, rest) ↔
      skip text = '}' :: rest ∧ members = [] ∨
        scanMembers fuel (skip text) = some (members, rest) := by
  rw [scanObject]
  split
  next after closes =>
    have noMember : scanMembers fuel ('}' :: after) = none := by
      cases fuel <;> simp [scanMembers]
    simp [closes, noMember, and_comm, eq_comm]
  next notClosed =>
    have goesOn : skip text ≠ '}' :: rest := notClosed rest
    simp [goesOn]

theorem scanValue_token {char : Char} (notQuote : char ≠ '"') (notBrace : char ≠ '{')
    (notBracket : char ≠ '[') (fuel : Nat) (text : List Char) :
    scanValue fuel (char :: text) = scanToken (char :: text) := by
  rw [scanValue.eq_def]
  cases fuel <;> simp [notQuote, notBrace, notBracket]

theorem scanValue_brace {fuel : Nat} {body rest : List Char} {value : Scanned} :
    scanValue (fuel + 1) ('{' :: body) = some (value, rest) ↔
      value = .other ∧ ∃ members, scanObject fuel body = some (members, rest) := by
  rw [scanValue, scanObject]
  split
  next after closes => simp [eq_comm]
  next notClosed =>
    rw [Option.map_eq_some_iff]
    constructor
    · rintro ⟨⟨members, after⟩, isMembers, same⟩
      cases same
      exact ⟨rfl, members, isMembers⟩
    · rintro ⟨rfl, members, isMembers⟩
      exact ⟨_, isMembers, rfl⟩

theorem scanItems_bracket (fuel : Nat) (text : List Char) :
    scanItems fuel (']' :: text) = none := by
  cases fuel with
  | zero => rfl
  | succ fuel =>
      have noValue : scanValue fuel (']' :: text) = none := by
        rw [scanValue_token (by decide) (by decide) (by decide), scanToken_delimiter (by decide)]
      simp [scanItems, noValue]

theorem scanValue_bracket {fuel : Nat} {body rest : List Char} {value : Scanned} :
    scanValue (fuel + 1) ('[' :: body) = some (value, rest) ↔
      value = .other ∧ (skip body = ']' :: rest ∨ scanItems fuel (skip body) = some rest) := by
  rw [scanValue]
  split
  next after closes => simp [closes, scanItems_bracket, eq_comm]
  next notClosed =>
    have goesOn : skip body ≠ ']' :: rest := notClosed rest
    rw [Option.map_eq_some_iff, or_iff_right goesOn]
    constructor
    · rintro ⟨after, isItems, same⟩
      cases same
      exact ⟨rfl, isItems⟩
    · rintro ⟨rfl, isItems⟩
      exact ⟨rest, isItems, rfl⟩

@[simp] theorem scanValue_nil (fuel : Nat) : scanValue fuel [] = none := by
  cases fuel <;> rfl

@[simp] theorem scanMembers_nil (fuel : Nat) : scanMembers fuel [] = none := by
  cases fuel <;> rfl

@[simp] theorem scanItems_nil (fuel : Nat) : scanItems fuel [] = none := by
  cases fuel with
  | zero => rfl
  | succ fuel => simp [scanItems]

/-- What is read with this fuel is read with more fuel and more text behind it, unless the
text may end within the value. -/
structure Kept (fuel : Nat) : Prop where
  value : ∀ {text value rest}, scanValue fuel text = some (value, rest) → rest ≠ [] →
    ∀ {enough}, fuel ≤ enough → ∀ more,
      scanValue enough (text ++ more) = some (value, rest ++ more)
  members : ∀ {text members rest}, scanMembers fuel text = some (members, rest) →
    ∀ {enough}, fuel ≤ enough → ∀ more,
      scanMembers enough (text ++ more) = some (members, rest ++ more)
  items : ∀ {text rest}, scanItems fuel text = some rest →
    ∀ {enough}, fuel ≤ enough → ∀ more, scanItems enough (text ++ more) = some (rest ++ more)

namespace Kept

theorem object {fuel : Nat} (kept : Kept fuel) {text rest : List Char}
    {members : List (List Char × Scanned)}
    (scans : scanObject fuel text = some (members, rest)) {enough : Nat} (le : fuel ≤ enough)
    (more : List Char) : scanObject enough (text ++ more) = some (members, rest ++ more) := by
  rw [scanObject_eq_some_iff] at scans ⊢
  rcases scans with ⟨closes, rfl⟩ | isMembers
  · exact .inl ⟨skip_append closes more, rfl⟩
  · right
    have started : skip text ≠ [] := by
      intro ended
      simp [ended] at isMembers
    rw [skip_append_of_ne_nil started]
    exact kept.members isMembers le more

theorem value_succ {fuel : Nat} (kept : Kept fuel) {text rest : List Char} {value : Scanned}
    (scans : scanValue (fuel + 1) text = some (value, rest)) (present : rest ≠ [])
    {enough : Nat} (le : fuel ≤ enough) (more : List Char) :
    scanValue (enough + 1) (text ++ more) = some (value, rest ++ more) := by
  cases text with
  | nil => simp at scans
  | cons char text =>
      by_cases quoted : char = '"'
      · subst quoted
        exact scanValue_quote_append scans more
      by_cases brace : char = '{'
      · subst brace
        obtain ⟨rfl, members, isObject⟩ := scanValue_brace.mp scans
        exact scanValue_brace.mpr ⟨rfl, members, kept.object isObject le more⟩
      by_cases bracket : char = '['
      · subst bracket
        obtain ⟨rfl, closes | isItems⟩ := scanValue_bracket.mp scans
        · exact scanValue_bracket.mpr ⟨rfl, .inl (skip_append closes more)⟩
        · have started : skip text ≠ [] := by
            intro ended
            simp [ended] at isItems
          have later := kept.items isItems le more
          rw [← skip_append_of_ne_nil started] at later
          exact scanValue_bracket.mpr ⟨rfl, .inr later⟩
      · rw [scanValue_token quoted brace bracket] at scans
        rw [List.cons_append, scanValue_token quoted brace bracket]
        exact scanToken_append scans present more

theorem members_succ {fuel : Nat} (kept : Kept fuel) {text rest : List Char}
    {members : List (List Char × Scanned)}
    (scans : scanMembers (fuel + 1) text = some (members, rest)) {enough : Nat}
    (le : fuel ≤ enough) (more : List Char) :
    scanMembers (enough + 1) (text ++ more) = some (members, rest ++ more) := by
  obtain ⟨body, key, afterKey, afterColon, value, afterValue, rfl, isKey, hasColon, isValue,
    ends⟩ := scanMembers_eq_some_iff.mp scans
  have started : skip afterColon ≠ [] := by
    intro ended
    simp [ended] at isValue
  have notLast : afterValue ≠ [] := by
    rintro rfl
    rcases ends with ⟨-, closes⟩ | ⟨afterComma, later, goesOn, -⟩
    · cases closes
    · cases goesOn
  have stillValue := kept.value isValue notLast le more
  rw [← skip_append_of_ne_nil started] at stillValue
  refine scanMembers_eq_some_iff.mpr ⟨body ++ more, key, _, _, value, _, rfl,
    scanString_append isKey more, skip_append hasColon more, stillValue, ?_⟩
  rcases ends with ⟨rfl, closes⟩ | ⟨afterComma, later, goesOn, isLater, rfl⟩
  · exact .inl ⟨rfl, skip_append closes more⟩
  · have more_ : skip afterComma ≠ [] := by
      intro ended
      simp [ended] at isLater
    have stillLater := kept.members isLater le more
    rw [← skip_append_of_ne_nil more_] at stillLater
    exact .inr ⟨_, later, skip_append goesOn more, stillLater, rfl⟩

theorem items_succ {fuel : Nat} (kept : Kept fuel) {text rest : List Char}
    (scans : scanItems (fuel + 1) text = some rest) {enough : Nat} (le : fuel ≤ enough)
    (more : List Char) : scanItems (enough + 1) (text ++ more) = some (rest ++ more) := by
  obtain ⟨value, afterValue, isValue, ends⟩ := scanItems_eq_some_iff.mp scans
  have notLast : afterValue ≠ [] := by
    rintro rfl
    rcases ends with closes | ⟨afterComma, goesOn, -⟩
    · cases closes
    · cases goesOn
  refine scanItems_eq_some_iff.mpr ⟨value, _, kept.value isValue notLast le more, ?_⟩
  rcases ends with closes | ⟨afterComma, goesOn, isLater⟩
  · exact .inl (skip_append closes more)
  · have started : skip afterComma ≠ [] := by
      intro ended
      simp [ended] at isLater
    have stillLater := kept.items isLater le more
    rw [← skip_append_of_ne_nil started] at stillLater
    exact .inr ⟨_, skip_append goesOn more, stillLater⟩

theorem zero : Kept 0 where
  value := by
    intro text value rest scans present enough _ more
    cases text with
    | nil => simp at scans
    | cons char text =>
        by_cases quoted : char = '"'
        · subst quoted
          exact scanValue_quote_append scans more
        · have token : scanToken (char :: text) = some (value, rest) := by
            rw [← scans, scanValue.eq_def]
            simp [quoted]
          have plain (delimiter : Char) (delimits : isDelimiter delimiter = true) :
              char ≠ delimiter := by
            rintro rfl
            simp [scanToken_delimiter delimits] at token
          rw [List.cons_append, scanValue_token quoted (plain '{' (by decide))
            (plain '[' (by decide))]
          exact scanToken_append token present more
  members := by simp [scanMembers]
  items := by simp [scanItems]

theorem all (fuel : Nat) : Kept fuel := by
  induction fuel with
  | zero => exact .zero
  | succ fuel ih =>
      exact {
        value := by
          intro text value rest scans present enough le more
          obtain ⟨less, rfl⟩ := Nat.exists_eq_add_of_le' le
          exact ih.value_succ scans present (Nat.le_add_left fuel less) more
        members := by
          intro text members rest scans enough le more
          obtain ⟨less, rfl⟩ := Nat.exists_eq_add_of_le' le
          exact ih.members_succ scans (Nat.le_add_left fuel less) more
        items := by
          intro text rest scans enough le more
          obtain ⟨less, rfl⟩ := Nat.exists_eq_add_of_le' le
          exact ih.items_succ scans (Nat.le_add_left fuel less) more }

end Kept

/-- A written object that is cut short is not read. -/
theorem loadsObject_of_isPrefix {text : List Char} {members : List (List Char × List Char)}
    (cut : text <+: dumpsObject members) (shorter : text ≠ dumpsObject members) :
    loadsObject text = none := by
  obtain ⟨more, whole⟩ := cut
  have missing : more ≠ [] := by
    rintro rfl
    exact shorter (by simpa using whole)
  obtain ⟨body, written, scans⟩ := exists_scanObject members
  cases text with
  | nil => rfl
  | cons char text =>
      obtain ⟨rfl, rfl⟩ := List.cons.inj (whole.trans written)
      rw [loadsObject, skip_cons (by decide)]
      cases partly : scanObject ('{' :: text).length text with
      | none => simp only [partly]
      | some scanned =>
          have le : ('{' :: text).length ≤ (dumpsObject members).length := by
            simp [← whole]
          have further := (Kept.all _).object partly le more
          have ended : [] = scanned.2 ++ more :=
            congrArg Prod.snd (Option.some.inj (scans.symm.trans further))
          exact absurd (List.append_eq_nil_iff.mp ended.symm).2 missing

end PresenceLogger.Library.JsonText
