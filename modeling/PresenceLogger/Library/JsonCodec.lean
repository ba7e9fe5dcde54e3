import PresenceLogger.Library.Dict
import PresenceLogger.Library.JsonText
import PresenceLogger.Library.Text

/-!
# JSON documents

What `json.loads` makes of a text and what `json.dumps` writes of it with
`ensure_ascii=False`, the nesting being limited by the interpreter.  What is read is
derived by the rules of the grammar, and its objects have each key once.
-/

namespace PresenceLogger.Library.JsonCodec

open JsonText

/-! ## Values -/

/-- A `str`; nothing stands for one with lone surrogates, which has no UTF-8 form. -/
abbrev Chars := Option (List Char)

/-- A decoded value whose floats are of some type. -/
inductive Value (F : Type) where
  | null
  | bool (value : Bool)
  | int (value : Int)
  | float (value : F)
  | str (chars : Chars)
  | arr (items : List (Value F))
  | obj (fields : List (Chars × Value F))

/-- How reading a text may fail. -/
inductive Fault where
  /-- A `JSONDecodeError`. -/
  | decodeError
  /-- A `ValueError` of an integer beyond the interpreter's limit, or a
  `RecursionError`. -/
  | other
  deriving DecidableEq, Repr

/-! ## Numerals -/

/-- `(0|[1-9]\d*)` -/
def wholeDigits : List Char → List Char
  | '0' :: _ => ['0']
  | text => text.takeWhile Char.isDigit

/-- `_match_number_unicode`: the numeral, whether it is that of a float, and the rest. -/
def scanNumber (text : List Char) : Option (List Char × Bool × List Char) :=
  let body := if text.head? = some '-' then text.drop 1 else text
  let whole := wholeDigits body
  let afterWhole := body.drop whole.length
  let rest := dropExponent (dropFraction afterWhole)
  if whole = [] then none
  else some (text.take (text.length - rest.length), rest ≠ afterWhole, rest)

/-- The words that stand for floats. -/
def constants : List (List Char) := ["NaN", "Infinity", "-Infinity"].map String.toList

/-- The characters of the numerals and words of floats. -/
def floatAlphabet : List Char := "0123456789+-.eENaInfity".toList

/-- Floats with `float(text)` and the text `json.dumps` gives them, from which they are
read back. -/
class FloatText (F : Type) where
  read : List Char → F
  write : F → List Char
  isZero : F → Bool
  read_write (value : F) : read (write value) = value
  scan_write (value : F) :
    write value ∈ constants ∨ scanNumber (write value) = some (write value, true, [])
  alphabet (value : F) : ∀ char ∈ write value, char ∈ floatAlphabet

variable {F : Type} [FloatText F]

/-- The words and what they stand for. -/
def words : List (List Char × Value F) :=
  [("null".toList, .null), ("true".toList, .bool true), ("false".toList, .bool false)] ++
    constants.map fun word => (word, .float (FloatText.read word))

/-- A word or a number. -/
def scanScalar (text : List Char) : Except Fault (Value F × List Char) :=
  match words.find? fun entry => entry.1.isPrefixOf text with
  | some (word, value) => .ok (value, text.drop word.length)
  | none =>
      match scanNumber text with
      | some (numeral, true, rest) => .ok (.float (FloatText.read numeral), rest)
      | some (numeral, false, rest) =>
          match Text.parseInt numeral with
          | some value => .ok (.int value, rest)
          | none => .error .other
      | none => .error .decodeError

/-- A scalar is one of the words, or a number. -/
theorem scanScalar_cases {text rest : List Char} {data : Value F}
    (scans : scanScalar text = .ok (data, rest)) :
    (∃ entry ∈ words, entry.1 <+: text ∧ data = entry.2 ∧ rest = text.drop entry.1.length) ∨
      ∃ numeral isFloat, scanNumber text = some (numeral, isFloat, rest) ∧
        ((∃ value, data = .float value) ∨ ∃ value, data = .int value) := by
  rw [scanScalar] at scans
  split at scans
  next word value found =>
    cases scans
    have isPrefix : word.isPrefixOf text = true := by simpa using List.find?_some found
    exact .inl ⟨_, List.mem_of_find?_eq_some found,
      List.isPrefixOf_iff_prefix.mp isPrefix, rfl, rfl⟩
  · split at scans
    next isNumber =>
      cases scans
      exact .inr ⟨_, _, isNumber, .inl ⟨_, rfl⟩⟩
    next isNumber =>
      split at scans
      · cases scans
        exact .inr ⟨_, _, isNumber, .inr ⟨_, rfl⟩⟩
      · cases scans
    · cases scans

/-! ## `json.loads` -/

mutual

/-- `scan_once`. The fuel bounds the characters that are still to come, the depth the
containers that may be opened. -/
def scanValue (fuel depth : Nat) (text : List Char) : Except Fault (Value F × List Char) :=
  match fuel, text with
  | 0, _ => .error .decodeError
  | _ + 1, '"' :: text =>
      match scanUnits text with
      | some (units, rest) => .ok (.str (joinSurrogates units), rest)
      | none => .error .decodeError
  | fuel + 1, '{' :: text =>
      match depth with
      | 0 => .error .other
      | depth + 1 =>
          match skip text with
          | '}' :: rest => .ok (.obj [], rest)
          | text =>
              match scanFields fuel depth text with
              | .ok (pairs, rest) => .ok (.obj (Dict.ofPairs pairs).rows, rest)
              | .error fault => .error fault
  | fuel + 1, '[' :: text =>
      match depth with
      | 0 => .error .other
      | depth + 1 =>
          match skip text with
          | ']' :: rest => .ok (.arr [], rest)
          | text =>
              match scanItems fuel depth text with
              | .ok (items, rest) => .ok (.arr items, rest)
              | .error fault => .error fault
  | _ + 1, text => scanScalar text

/-- The members of an object, up to its closing brace. -/
def scanFields (fuel depth : Nat) (text : List Char) :
    Except Fault (List (Chars × Value F) × List Char) :=
  match fuel, text with
  | fuel + 1, '"' :: text =>
      match scanUnits text with
      | none => .error .decodeError
      | some (units, text) =>
          match skip text with
          | ':' :: text =>
              match scanValue fuel depth (skip text) with
              | .error fault => .error fault
              | .ok (value, text) =>
                  match skip text with
                  | '}' :: rest => .ok ([(joinSurrogates units, value)], rest)
                  | ',' :: text =>
                      match scanFields fuel depth (skip text) with
                      | .ok (later, rest) => .ok ((joinSurrogates units, value) :: later, rest)
                      | .error fault => .error fault
                  | _ => .error .decodeError
          | _ => .error .decodeError
  | _, _ => .error .decodeError

/-- The items of an array, up to its closing bracket. -/
def scanItems (fuel depth : Nat) (text : List Char) :
    Except Fault (List (Value F) × List Char) :=
  match fuel with
  | 0 => .error .decodeError
  | fuel + 1 =>
      match scanValue fuel depth text with
      | .error fault => .error fault
      | .ok (value, text) =>
          match skip text with
          | ']' :: rest => .ok ([value], rest)
          | ',' :: text =>
              match scanItems fuel depth (skip text) with
              | .ok (later, rest) => .ok (value :: later, rest)
              | .error fault => .error fault
          | _ => .error .decodeError

end

/-- `json.loads(text)`. A bracket takes two units of the fuel. -/
def loads (depth : Nat) (text : List Char) : Except Fault (Value F) :=
  match scanValue (2 * text.length + 2) depth (skip text) with
  | .ok (value, rest) => if skip rest = [] then .ok value else .error .decodeError
  | .error fault => .error fault

/-! ## `json.dumps` -/

/-- The texts of all that is written so. -/
def dumpsAll {α : Type} (dumpsOne : α → Option (List Char)) : List α → Option (List (List Char))
  | [] => some []
  | one :: others =>
      match dumpsOne one, dumpsAll dumpsOne others with
      | some text, some texts => some (text :: texts)
      | _, _ => none

/-- A member of an object, whose value is written so. -/
def dumpsField (dumpsValue : Value F → Option (List Char)) (field : Chars × Value F) :
    Option (List Char) :=
  match field.1, dumpsValue field.2 with
  | some key, some value => some (quote key ++ ':' :: ' ' :: value)
  | _, _ => none

/-- `json.dumps(value, ensure_ascii=False)`; nothing where the containers stand too deep
or the text has no UTF-8 form. -/
def dumps : Nat → Value F → Option (List Char)
  | _, .null => some "null".toList
  | _, .bool value => some (if value then "true" else "false").toList
  | _, .int value => Text.strOfInt value
  | _, .float value => some (FloatText.write value)
  | _, .str chars => chars.map quote
  | 0, .arr _ => none
  | 0, .obj _ => none
  | depth + 1, .arr items =>
      (dumpsAll (dumps depth) items).map fun texts =>
        '[' :: ([',', ' '].intercalate texts ++ [']'])
  | depth + 1, .obj fields =>
      (dumpsAll (dumpsField (dumps depth)) fields).map fun texts =>
        '{' :: ([',', ' '].intercalate texts ++ ['}'])

/-! ## What is read, rule by rule -/

/-- What holds of every part that is read, with the text before it and the text after it,
holds by the rules of the grammar. -/
structure Rules (value : List Char → Value F → List Char → Prop)
    (fields : List Char → List (Chars × Value F) → List Char → Prop)
    (items : List Char → List (Value F) → List Char → Prop) : Prop where
  string {text rest : List Char} {units : List Nat} :
    scanUnits text = some (units, rest) → value ('"' :: text) (.str (joinSurrogates units)) rest
  scalar {text rest : List Char} {data : Value F} :
    scanScalar text = .ok (data, rest) → value text data rest
  object {text rest : List Char} {pairs : List (Chars × Value F)} :
    pairs = [] ∧ skip text = '}' :: rest ∨ fields (skip text) pairs rest →
      value ('{' :: text) (.obj (Dict.ofPairs pairs).rows) rest
  array {text rest : List Char} {data : List (Value F)} :
    data = [] ∧ skip text = ']' :: rest ∨ items (skip text) data rest →
      value ('[' :: text) (.arr data) rest
  field {text afterKey afterColon afterValue rest : List Char} {units : List Nat}
    {data : Value F} {later : List (Chars × Value F)} :
    scanUnits text = some (units, afterKey) → skip afterKey = ':' :: afterColon →
      value (skip afterColon) data afterValue →
      (later = [] ∧ skip afterValue = '}' :: rest ∨
        ∃ afterComma, skip afterValue = ',' :: afterComma ∧ fields (skip afterComma) later rest) →
      fields ('"' :: text) ((joinSurrogates units, data) :: later) rest
  item {text afterValue rest : List Char} {data : Value F} {later : List (Value F)} :
    value text data afterValue →
      (later = [] ∧ skip afterValue = ']' :: rest ∨
        ∃ afterComma, skip afterValue = ',' :: afterComma ∧ items (skip afterComma) later rest) →
      items text (data :: later) rest

namespace Rules

variable {value : List Char → Value F → List Char → Prop}
  {fields : List Char → List (Chars × Value F) → List Char → Prop}
  {items : List Char → List (Value F) → List Char → Prop}

/-- What the rules give for everything that is read with some fuel. -/
structure Within (value : List Char → Value F → List Char → Prop)
    (fields : List Char → List (Chars × Value F) → List Char → Prop)
    (items : List Char → List (Value F) → List Char → Prop) (fuel : Nat) : Prop where
  ofValue {depth : Nat} {text rest : List Char} {data : Value F} :
    scanValue fuel depth text = .ok (data, rest) → value text data rest
  ofFields {depth : Nat} {text rest : List Char} {pairs : List (Chars × Value F)} :
    scanFields fuel depth text = .ok (pairs, rest) → fields text pairs rest
  ofItems {depth : Nat} {text rest : List Char} {data : List (Value F)} :
    scanItems fuel depth text = .ok (data, rest) → items text data rest

theorem ofValue_succ (rules : Rules value fields items) {fuel : Nat}
    (within : Within value fields items fuel) {depth : Nat} {text rest : List Char}
    {data : Value F} (scans : scanValue (fuel + 1) depth text = .ok (data, rest)) :
    value text data rest := by
  rw [scanValue.eq_def] at scans
  split at scans
  next equal => cases equal
  next body equal =>
    split at scans
    next units after isString =>
      cases scans
      exact rules.string isString
    · cases scans
  next fuel' body equal =>
    cases equal
    split at scans
    · cases scans
    · split at scans
      next after closes =>
        cases scans
        exact rules.object (.inl ⟨rfl, closes⟩)
      · split at scans
        next pairs after isFields =>
          cases scans
          exact rules.object (.inr (within.ofFields isFields))
        · cases scans
  next fuel' body equal =>
    cases equal
    split at scans
    · cases scans
    · split at scans
      next after closes =>
        cases scans
        exact rules.array (.inl ⟨rfl, closes⟩)
      · split at scans
        next data after isItems =>
          cases scans
          exact rules.array (.inr (within.ofItems isItems))
        · cases scans
  next => exact rules.scalar scans

theorem ofFields_succ (rules : Rules value fields items) {fuel : Nat}
    (within : Within value fields items fuel) {depth : Nat} {text rest : List Char}
    {pairs : List (Chars × Value F)}
    (scans : scanFields (fuel + 1) depth text = .ok (pairs, rest)) : fields text pairs rest := by
  rw [scanFields.eq_def] at scans
  split at scans
  next fuel' body equal =>
    cases equal
    split at scans
    · cases scans
    next units afterKey isKey =>
      split at scans
      next afterColon hasColon =>
        split at scans
        · cases scans
        next data afterValue isValue =>
          have ofValue := within.ofValue isValue
          split at scans
          next closes =>
            cases scans
            exact rules.field isKey hasColon ofValue (.inl ⟨rfl, closes⟩)
          next afterComma goesOn =>
            split at scans
            next later after isLater =>
              cases scans
              exact rules.field isKey hasColon ofValue
                (.inr ⟨afterComma, goesOn, within.ofFields isLater⟩)
            · cases scans
          · cases scans
      · cases scans
  · cases scans

theorem ofItems_succ (rules : Rules value fields items) {fuel : Nat}
    (within : Within value fields items fuel) {depth : Nat} {text rest : List Char}
    {data : List (Value F)} (scans : scanItems (fuel + 1) depth text = .ok (data, rest)) :
    items text data rest := by
  rw [scanItems] at scans
  split at scans
  · cases scans
  next first afterValue isValue =>
    have ofValue := within.ofValue isValue
    split at scans
    next closes =>
      cases scans
      exact rules.item ofValue (.inl ⟨rfl, closes⟩)
    next afterComma goesOn =>
      split at scans
      next later after isLater =>
        cases scans
        exact rules.item ofValue (.inr ⟨afterComma, goesOn, within.ofItems isLater⟩)
      · cases scans
    · cases scans

theorem within (rules : Rules value fields items) (fuel : Nat) :
    Within value fields items fuel := by
  induction fuel with
  | zero => exact ⟨fun scans => (by cases scans), fun scans => (by cases scans),
      fun scans => (by cases scans)⟩
  | succ fuel ih => exact ⟨rules.ofValue_succ ih, rules.ofFields_succ ih, rules.ofItems_succ ih⟩

/-- What the rules give for the value of a whole text. -/
theorem of_loads (rules : Rules value fields items) {depth : Nat} {text : List Char}
    {data : Value F} (loaded : loads depth text = .ok data) :
    ∃ rest, value (skip text) data rest ∧ skip rest = [] := by
  rw [loads] at loaded
  split at loaded
  next found after scans =>
    split at loaded
    next ended =>
      cases loaded
      exact ⟨after, (rules.within _).ofValue scans, ended⟩
    · cases loaded
  · cases loaded

end Rules

/-! ## The fuel is enough -/

theorem length_skip_le (text : List Char) : (skip text).length ≤ text.length :=
  List.length_dropWhile_le ..

theorem length_of_scanUnits {text rest : List Char} {units : List Nat}
    (scans : scanUnits text = some (units, rest)) : rest.length < text.length := by
  fun_induction scanUnits text generalizing units with
  | case1 => cases scans
  | case2 =>
      cases scans
      exact Nat.lt_succ_self _
  | case3 | case5 | case8 =>
      rename_i ih
      obtain ⟨⟨later, after⟩, isLater, same⟩ := Option.map_eq_some_iff.mp scans
      obtain ⟨-, rfl⟩ := Prod.mk.inj same
      have shorter : after.length < _ := ih isLater
      simp only [List.length_cons]
      omega
  | case4 | case6 | case7 => cases scans

theorem length_dropFraction_le (text : List Char) :
    (dropFraction text).length ≤ text.length := by
  have shorter (rest : List Char) : (rest.dropWhile Char.isDigit).length ≤ rest.length :=
    List.length_dropWhile_le ..
  fun_cases dropFraction text with
  | case1 digit rest =>
      have le := shorter rest
      simp only [List.length_cons]
      omega
  | case2 => exact le_rfl
  | case3 => exact le_rfl

theorem length_dropExponent_le (text : List Char) :
    (dropExponent text).length ≤ text.length := by
  cases text with
  | nil => exact le_rfl
  | cons letter rest =>
      have shorter (digits : List Char) :
          (digits.dropWhile Char.isDigit).length ≤ digits.length :=
        List.length_dropWhile_le ..
      have dropped : (if rest.head? = some '-' ∨ rest.head? = some '+' then rest.drop 1
          else rest).length ≤ (letter :: rest).length := by
        split
        · exact (List.drop_sublist 1 rest).length_le.trans (Nat.le_succ _)
        · exact Nat.le_succ _
      simp only [dropExponent]
      by_cases isExponent : (letter = 'e' ∨ letter = 'E') ∧
          (if rest.head? = some '-' ∨ rest.head? = some '+' then rest.drop 1
            else rest).head?.any Char.isDigit
      · rw [if_pos isExponent]
        exact (shorter _).trans dropped
      · rw [if_neg isExponent]

theorem length_of_scanNumber {text numeral rest : List Char} {isFloat : Bool}
    (scans : scanNumber text = some (numeral, isFloat, rest)) : rest.length < text.length := by
  simp only [scanNumber] at scans
  set body := if text.head? = some '-' then text.drop 1 else text
  have bodyLe : body.length ≤ text.length := by
    by_cases signed : text.head? = some '-' <;> simp [body, signed]
  split at scans
  · cases scans
  next some_ =>
    cases scans
    have whole : 0 < (wholeDigits body).length := List.length_pos_iff.mpr some_
    have nonempty : 0 < body.length := by
      cases isBody : body with
      | nil => simp [isBody, wholeDigits] at whole
      | cons _ _ => exact Nat.succ_pos _
    have fraction := length_dropFraction_le (body.drop (wholeDigits body).length)
    have exponent := length_dropExponent_le (dropFraction (body.drop (wholeDigits body).length))
    rw [List.length_drop] at fraction
    omega

theorem length_of_scanScalar {text rest : List Char} {data : Value F}
    (scans : scanScalar text = .ok (data, rest)) : rest.length < text.length := by
  have positive : ∀ entry ∈ (words : List (List Char × Value F)), 0 < entry.1.length := by
    simp only [words, constants, List.map_cons, List.map_nil, List.cons_append, List.nil_append,
      List.forall_mem_cons, List.not_mem_nil, false_imp_iff, implies_true, and_true]
    decide
  rcases scanScalar_cases scans with ⟨entry, among, isPrefix, -, rfl⟩ | ⟨_, _, isNumber, -⟩
  · have some_ := positive entry among
    have le := isPrefix.length_le
    rw [List.length_drop]
    omega
  · exact length_of_scanNumber isNumber

/-- What is read is not empty. -/
theorem shorter_rules : Rules (F := F) (fun text _ rest => rest.length < text.length)
    (fun text _ rest => rest.length < text.length)
    (fun text _ rest => rest.length < text.length) where
  string scans := Nat.lt_succ_of_lt (length_of_scanUnits scans)
  scalar := length_of_scanScalar
  object := by
    intro text rest pairs isFields
    have le := length_skip_le text
    rcases isFields with ⟨-, closes⟩ | shorter
    · rw [closes] at le
      simp only [List.length_cons] at le ⊢
      omega
    · simp only [List.length_cons]
      omega
  array := by
    intro text rest data isItems
    have le := length_skip_le text
    rcases isItems with ⟨-, closes⟩ | shorter
    · rw [closes] at le
      simp only [List.length_cons] at le ⊢
      omega
    · simp only [List.length_cons]
      omega
  field := by
    intro text afterKey afterColon afterValue rest units data later isKey hasColon shorter isLater
    have key := length_of_scanUnits isKey
    have colon := length_skip_le afterKey
    have value := length_skip_le afterColon
    have next := length_skip_le afterValue
    rw [hasColon] at colon
    rcases isLater with ⟨-, closes⟩ | ⟨afterComma, goesOn, laterShorter⟩
    · rw [closes] at next
      simp only [List.length_cons] at next colon ⊢
      omega
    · rw [goesOn] at next
      have comma := length_skip_le afterComma
      simp only [List.length_cons] at next colon ⊢
      omega
  item := by
    intro text afterValue rest data later shorter isLater
    have next := length_skip_le afterValue
    rcases isLater with ⟨-, closes⟩ | ⟨afterComma, goesOn, laterShorter⟩
    · rw [closes] at next
      simp only [List.length_cons] at next
      omega
    · rw [goesOn] at next
      have comma := length_skip_le afterComma
      simp only [List.length_cons] at next
      omega

/-- With so much fuel one unit more changes nothing. -/
structure Fueled (F : Type) [FloatText F] (fuel : Nat) : Prop where
  value {depth : Nat} {text : List Char} : 2 * text.length < fuel →
    scanValue (F := F) (fuel + 1) depth text = scanValue fuel depth text
  fields {depth : Nat} {text : List Char} : 2 * text.length < fuel →
    scanFields (F := F) (fuel + 1) depth text = scanFields fuel depth text
  items {depth : Nat} {text : List Char} : 2 * text.length + 1 < fuel →
    scanItems (F := F) (fuel + 1) depth text = scanItems fuel depth text

theorem fueled_value {fuel : Nat} (fueled : Fueled F fuel) {depth : Nat} {text : List Char}
    (enough : 2 * text.length < fuel + 1) :
    scanValue (F := F) (fuel + 2) depth text = scanValue (fuel + 1) depth text := by
  cases text with
  | nil => simp only [scanValue]
  | cons char text =>
      have le := length_skip_le text
      rw [List.length_cons] at enough
      have fields (depth : Nat) : scanFields (F := F) (fuel + 1) depth (skip text) =
          scanFields fuel depth (skip text) := fueled.fields (by omega)
      have items (depth : Nat) : scanItems (F := F) (fuel + 1) depth (skip text) =
          scanItems fuel depth (skip text) := fueled.items (by omega)
      by_cases isQuote : char = '"'
      · subst isQuote
        simp only [scanValue]
      by_cases isBrace : char = '{'
      · subst isBrace
        cases depth with
        | zero => simp only [scanValue]
        | succ depth =>
            rw [scanValue, scanValue]
            split
            · rfl
            · rw [fields]
      by_cases isBracket : char = '['
      · subst isBracket
        cases depth with
        | zero => simp only [scanValue]
        | succ depth =>
            rw [scanValue, scanValue]
            split
            · rfl
            · rw [items]
      have apart {other : Char} (differs : char ≠ other) (rest : List Char) :
          ¬char :: text = other :: rest := fun same => differs (List.cons.inj same).1
      rw [scanValue, scanValue]
      all_goals exact apart (by assumption)

theorem fueled_fields {fuel : Nat} (fueled : Fueled F fuel) {depth : Nat} {text : List Char}
    (enough : 2 * text.length < fuel + 1) :
    scanFields (F := F) (fuel + 2) depth text = scanFields (fuel + 1) depth text := by
  cases text with
  | nil => simp only [scanFields]
  | cons char text =>
      by_cases isQuote : char = '"'
      · subst isQuote
        rw [List.length_cons] at enough
        rw [scanFields, scanFields]
        split
        · rfl
        next units afterKey isKey =>
          have key := length_of_scanUnits isKey
          split
          next afterColon hasColon =>
            have colon := length_skip_le afterKey
            have before := length_skip_le afterColon
            rw [hasColon, List.length_cons] at colon
            rw [fueled.value (by omega)]
            split
            · rfl
            next data afterValue isValue =>
              have value := (shorter_rules.within _).ofValue isValue
              have next := length_skip_le afterValue
              split
              · rfl
              next afterComma goesOn =>
                have comma := length_skip_le afterComma
                rw [goesOn, List.length_cons] at next
                rw [fueled.fields (by omega)]
              · rfl
          · rfl
      · have apart (rest : List Char) : ¬char :: text = '"' :: rest :=
          fun same => isQuote (List.cons.inj same).1
        rw [scanFields, scanFields]
        all_goals exact fun _ rest _ => apart rest

theorem fueled_items {fuel : Nat} (fueled : Fueled F fuel) {depth : Nat} {text : List Char}
    (enough : 2 * text.length + 1 < fuel + 1) :
    scanItems (F := F) (fuel + 2) depth text = scanItems (fuel + 1) depth text := by
  rw [scanItems, scanItems, fueled.value (by omega)]
  split
  · rfl
  next data afterValue isValue =>
    have value : afterValue.length < text.length := (shorter_rules.within _).ofValue isValue
    have next := length_skip_le afterValue
    split
    · rfl
    next afterComma goesOn =>
      have comma := length_skip_le afterComma
      rw [goesOn, List.length_cons] at next
      rw [fueled.items (by omega)]
    · rfl

theorem fueled (fuel : Nat) : Fueled F fuel := by
  induction fuel with
  | zero => exact ⟨fun few => by omega, fun few => by omega, fun few => by omega⟩
  | succ fuel ih => exact ⟨fueled_value ih, fueled_fields ih, fueled_items ih⟩

/-- `loads` is the same with more fuel. -/
theorem loads_fuel (depth : Nat) (text : List Char) (more : Nat) :
    scanValue (F := F) (2 * text.length + 2 + more) depth (skip text) =
      scanValue (2 * text.length + 2) depth (skip text) := by
  have le := length_skip_le text
  induction more with
  | zero => rfl
  | succ more ih => rw [← Nat.add_assoc, (fueled _).value (by omega), ih]

/-! ## Objects with distinct keys -/

/-- Every object in the value has each key once. -/
inductive Value.Unique : Value F → Prop where
  | null : Unique .null
  | bool (value : Bool) : Unique (.bool value)
  | int (value : Int) : Unique (.int value)
  | float (value : F) : Unique (.float value)
  | str (chars : Chars) : Unique (.str chars)
  | arr {items : List (Value F)} : (∀ item ∈ items, Unique item) → Unique (.arr items)
  | obj {fields : List (Chars × Value F)} : (fields.map Prod.fst).Nodup →
      (∀ field ∈ fields, Unique field.2) → Unique (.obj fields)

theorem unique_of_scanScalar {text rest : List Char} {data : Value F}
    (scans : scanScalar text = .ok (data, rest)) : data.Unique := by
  have ofWord : ∀ entry ∈ (words : List (List Char × Value F)), entry.2.Unique := by
    simp only [words, constants, List.map_cons, List.map_nil, List.cons_append, List.nil_append,
      List.forall_mem_cons, List.not_mem_nil, false_imp_iff, implies_true, and_true]
    exact ⟨.null, .bool _, .bool _, .float _, .float _, .float _⟩
  rcases scanScalar_cases scans with
    ⟨entry, among, -, rfl, -⟩ | ⟨_, _, -, ⟨value, rfl⟩ | ⟨value, rfl⟩⟩
  · exact ofWord entry among
  · exact .float value
  · exact .int value

theorem unique_rules : Rules (F := F) (fun _ data _ => data.Unique)
    (fun _ pairs _ => ∀ pair ∈ pairs, pair.2.Unique)
    (fun _ items _ => ∀ item ∈ items, item.Unique) where
  string _ := .str _
  scalar := unique_of_scanScalar
  object := by
    intro text rest pairs isFields
    have unique : ∀ pair ∈ pairs, pair.2.Unique := by
      rcases isFields with ⟨rfl, -⟩ | unique
      · exact fun _ member => absurd member List.not_mem_nil
      · exact unique
    refine .obj (Dict.ofPairs pairs).nodup fun field among => ?_
    exact unique _ (Dict.mem_of_find_ofPairs (Dict.find_eq_some_iff.mpr among))
  array := by
    intro text rest data isItems
    rcases isItems with ⟨rfl, -⟩ | unique
    · exact .arr fun _ member => absurd member List.not_mem_nil
    · exact .arr unique
  field := by
    intro text afterKey afterColon afterValue rest units data later _ _ unique isLater
    rcases isLater with ⟨rfl, -⟩ | ⟨_, -, laterUnique⟩
    · simpa using unique
    · exact List.forall_mem_cons.mpr ⟨unique, laterUnique⟩
  item := by
    intro text afterValue rest data later unique isLater
    rcases isLater with ⟨rfl, -⟩ | ⟨_, -, laterUnique⟩
    · simpa using unique
    · exact List.forall_mem_cons.mpr ⟨unique, laterUnique⟩

theorem unique_of_loads {depth : Nat} {text : List Char} {data : Value F}
    (loaded : loads depth text = .ok data) : data.Unique :=
  (unique_rules.of_loads loaded).elim fun _ unique => unique.1

end PresenceLogger.Library.JsonCodec
