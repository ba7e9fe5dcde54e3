import PresenceLogger.Library.JsonCodec

/-!
# JSON documents that are read back

What `json.dumps` writes is read back by `json.loads`, value by value, whatever may follow
it in the text.
-/

namespace PresenceLogger.Library.JsonCodec

open JsonText

variable {F : Type} [FloatText F]

/-! ## Numerals with more text behind them -/

/-- What follows a value in a written text. -/
def Ends (rest : List Char) : Prop := ∀ char ∈ rest.head?, char = ',' ∨ char = ']' ∨ char = '}'

theorem Ends.stops {rest : List Char} (ends : Ends rest) {accepts : Char → Bool}
    (rejects : accepts ',' = false ∧ accepts ']' = false ∧ accepts '}' = false) :
    ∀ char ∈ rest.head?, accepts char = false := by
  intro char isFirst
  rcases ends char isFirst with rfl | rfl | rfl
  · exact rejects.1
  · exact rejects.2.1
  · exact rejects.2.2

theorem takeWhile_append_of_stops {accepts : Char → Bool} {rest : List Char}
    (stops : ∀ char ∈ rest.head?, accepts char = false) (text : List Char) :
    (text ++ rest).takeWhile accepts = text.takeWhile accepts := by
  induction text with
  | nil =>
      cases rest with
      | nil => rfl
      | cons char rest => simp [stops char rfl]
  | cons char text ih =>
      rw [List.cons_append, List.takeWhile_cons, List.takeWhile_cons, ih]

theorem not_isDigit_of_ends {rest : List Char} (ends : Ends rest) :
    ∀ char ∈ rest.head?, char.isDigit = false :=
  ends.stops ⟨by decide, by decide, by decide⟩

theorem wholeDigits_append {rest : List Char} (ends : Ends rest) (text : List Char) :
    wholeDigits (text ++ rest) = wholeDigits text := by
  have taken := takeWhile_append_of_stops (not_isDigit_of_ends ends) text
  cases text with
  | nil =>
      cases rest with
      | nil => rfl
      | cons char rest =>
          have notZero : char ≠ '0' := by
            rintro rfl
            rcases ends '0' rfl with same | same | same <;> cases same
          rw [List.nil_append] at taken ⊢
          rw [wholeDigits.eq_2 _ (by rintro _ ⟨⟩; exact notZero rfl), taken]
          rfl
  | cons char text =>
      by_cases zero : char = '0'
      · subst zero
        rfl
      · rw [List.cons_append] at taken ⊢
        rw [wholeDigits.eq_2 _ (by rintro _ ⟨⟩; exact zero rfl),
          wholeDigits.eq_2 _ (by rintro _ ⟨⟩; exact zero rfl), taken]

theorem prefix_wholeDigits (text : List Char) : wholeDigits text <+: text := by
  rw [wholeDigits.eq_def]
  split
  · exact ⟨_, rfl⟩
  · exact List.takeWhile_prefix _

theorem dropFraction_append {rest : List Char} (ends : Ends rest) (text : List Char) :
    dropFraction (text ++ rest) = dropFraction text ++ rest := by
  have stops := not_isDigit_of_ends ends
  have plain {char : Char} (notPoint : char ≠ '.') (after : List Char) :
      dropFraction (char :: after) = char :: after := by
    rw [dropFraction.eq_2]
    rintro _ _ ⟨⟩
    exact notPoint rfl
  cases text with
  | nil =>
      cases rest with
      | nil => rfl
      | cons char rest =>
          apply plain
          rintro rfl
          rcases ends '.' rfl with same | same | same <;> cases same
  | cons char text =>
      by_cases point : char = '.'
      · subst point
        cases text with
        | nil =>
            cases rest with
            | nil => rfl
            | cons digit rest => simp [dropFraction, stops digit rfl]
        | cons digit text =>
            simp only [List.cons_append, dropFraction]
            split
            · exact Text.dropWhile_append_of_stops stops text
            · rfl
      · rw [List.cons_append, plain point, plain point, List.cons_append]

theorem dropSign_append {rest : List Char} (ends : Ends rest) (text : List Char) :
    (if (text ++ rest).head? = some '-' ∨ (text ++ rest).head? = some '+' then
      (text ++ rest).drop 1 else text ++ rest) =
      (if text.head? = some '-' ∨ text.head? = some '+' then text.drop 1 else text) ++ rest := by
  cases text with
  | nil =>
      have noSign : ¬(rest.head? = some '-' ∨ rest.head? = some '+') := by
        rintro (sign | sign)
        · rcases ends '-' sign with same | same | same <;> cases same
        · rcases ends '+' sign with same | same | same <;> cases same
      simp [noSign]
  | cons char text =>
      simp only [List.cons_append, List.head?_cons, List.drop_succ_cons, List.drop_zero]
      split
      · rfl
      · rfl

theorem dropExponent_append {rest : List Char} (ends : Ends rest) (text : List Char) :
    dropExponent (text ++ rest) = dropExponent text ++ rest := by
  have stops := not_isDigit_of_ends ends
  cases text with
  | nil =>
      cases rest with
      | nil => rfl
      | cons char rest =>
          have notLetter : ¬(char = 'e' ∨ char = 'E') := by
            rintro (rfl | rfl)
            · rcases ends 'e' rfl with same | same | same <;> cases same
            · rcases ends 'E' rfl with same | same | same <;> cases same
          simp [dropExponent, notLetter]
  | cons letter text =>
      have sameFirst (digits : List Char) :
          (digits ++ rest).head?.any Char.isDigit = digits.head?.any Char.isDigit := by
        cases digits with
        | nil =>
            cases rest with
            | nil => rfl
            | cons char rest => simp [stops char rfl]
        | cons digit digits => rfl
      simp only [List.cons_append, dropExponent, dropSign_append ends, sameFirst]
      generalize (if text.head? = some '-' ∨ text.head? = some '+' then text.drop 1 else text) =
        digits
      split
      · exact Text.dropWhile_append_of_stops stops _
      · rfl

/-- A numeral is found before what may follow a value. -/
theorem scanNumber_append {numeral rest : List Char} {isFloat : Bool}
    (scans : scanNumber numeral = some (numeral, isFloat, [])) (ends : Ends rest) :
    scanNumber (numeral ++ rest) = some (numeral, isFloat, rest) := by
  have sameBody :
      (if (numeral ++ rest).head? = some '-' then (numeral ++ rest).drop 1 else numeral ++ rest) =
        (if numeral.head? = some '-' then numeral.drop 1 else numeral) ++ rest := by
    cases numeral with
    | nil => cases scans
    | cons char numeral =>
        simp only [List.cons_append, List.head?_cons, List.drop_succ_cons, List.drop_zero]
        split
        · rfl
        · rfl
  simp only [scanNumber] at scans ⊢
  rw [sameBody, wholeDigits_append ends]
  generalize (if numeral.head? = some '-' then numeral.drop 1 else numeral) = body at scans ⊢
  have le := (prefix_wholeDigits body).length_le
  split at scans
  · cases scans
  next some =>
    simp only [Option.some.injEq, Prod.mk.injEq] at scans
    obtain ⟨-, isFloat, ended⟩ := scans
    rw [if_neg some, List.drop_append_of_le_length le, dropFraction_append ends,
      dropExponent_append ends, ended]
    simp [← isFloat, ended]

theorem head?_toDigits {n : Nat} (positive : 0 < n) : (Nat.toDigits 10 n).head? ≠ some '0' := by
  induction n using Nat.strongRecOn with
  | ind n ih =>
      rw [Nat.toDigits_eq_if (by decide)]
      split
      next small =>
        have digit : ∀ digit < 10, 0 < digit → some digit.digitChar ≠ some '0' := by decide
        exact digit n small positive
      next large =>
        have shorter := ih (n / 10) (by omega) (by omega)
        rw [List.head?_append_of_ne_nil _ Nat.toDigits_ne_nil]
        exact shorter

theorem wholeDigits_toDigits (n : Nat) : wholeDigits (Nat.toDigits 10 n) = Nat.toDigits 10 n := by
  rcases Nat.eq_zero_or_pos n with rfl | positive
  · rfl
  · have first := head?_toDigits positive
    rw [wholeDigits.eq_2]
    · exact List.takeWhile_eq_self_iff.mpr fun _ member =>
        Nat.isDigit_of_mem_toDigits (by decide) (by decide) member
    · intro rest starts
      rw [starts] at first
      exact first rfl

theorem scanNumber_ofInt (n : Int) :
    scanNumber (Text.ofInt n) = some (Text.ofInt n, false, []) := by
  have scans (sign : List Char) (isSign : sign = [] ∨ sign = ['-']) :
      scanNumber (sign ++ Nat.toDigits 10 n.natAbs) =
        some (sign ++ Nat.toDigits 10 n.natAbs, false, []) := by
    have noSign : (Nat.toDigits 10 n.natAbs).head? ≠ some '-' := by
      intro first
      obtain ⟨rest, starts⟩ := List.head?_eq_some_iff.mp first
      exact Text.toDigits_ne_cons (by decide) _ rest starts
    have ended : dropExponent (dropFraction []) = [] := rfl
    rcases isSign with rfl | rfl
    · simp [scanNumber, noSign, wholeDigits_toDigits, ended, Nat.toDigits_ne_nil]
    · simp [scanNumber, wholeDigits_toDigits, ended, Nat.toDigits_ne_nil]
  rw [Text.ofInt_eq_if]
  split
  · exact scans [] (.inl rfl)
  · exact scans ['-'] (.inr rfl)

/-! ## What was written -/

/-- A text that starts as a number does is no word. -/
theorem find?_words_of_scanNumber {text : List Char} (isNumber : scanNumber text ≠ none) :
    (words : List (List Char × Value F)).find? (fun entry => entry.1.isPrefixOf text) = none := by
  have notNumber (word rest : List Char)
      (isWord : word ∈ (words : List (List Char × Value F)).map Prod.fst) :
      scanNumber (word ++ rest) = none := by
    simp only [words, constants, List.map_cons, List.map_nil, List.cons_append, List.nil_append,
      List.mem_cons, List.not_mem_nil, or_false] at isWord
    rcases isWord with rfl | rfl | rfl | rfl | rfl | rfl <;> rfl
  rw [List.find?_eq_none]
  intro entry among isPrefix
  obtain ⟨rest, split⟩ := List.isPrefixOf_iff_prefix.mp isPrefix
  exact isNumber (split ▸ notNumber entry.1 rest (List.mem_map_of_mem among))

theorem scanScalar_float {numeral rest : List Char}
    (scans : scanNumber numeral = some (numeral, true, [])) (ends : Ends rest) :
    scanScalar (numeral ++ rest) = .ok ((.float (FloatText.read numeral) : Value F), rest) := by
  have found := scanNumber_append scans ends
  rw [scanScalar, find?_words_of_scanNumber (by rw [found]; exact Option.some_ne_none _), found]

theorem scanScalar_int {value : Int} {text rest : List Char}
    (isText : Text.strOfInt value = some text) (ends : Ends rest) :
    scanScalar (text ++ rest) = .ok ((.int value : Value F), rest) := by
  have isDigits := Text.eq_ofInt_of_strOfInt isText
  have found := scanNumber_append (isDigits ▸ scanNumber_ofInt value) ends
  rw [scanScalar, find?_words_of_scanNumber (by rw [found]; exact Option.some_ne_none _), found]
  simp only [Text.parseInt_strOfInt isText]

theorem scanValue_of_scanScalar {text : List Char} {scanned : Value F × List Char}
    (scans : scanScalar text = .ok scanned) (fuel depth : Nat) :
    scanValue (fuel + 1) depth text = .ok scanned := by
  have opens (char : Char) (isOpening : char = '"' ∨ char = '{' ∨ char = '[') (rest : List Char) :
      scanScalar (char :: rest) = (.error .decodeError : Except Fault (Value F × List Char)) := by
    rcases isOpening with rfl | rfl | rfl <;> rfl
  rw [scanValue.eq_def]
  split
  next equal => cases equal
  next body _ =>
    rw [opens _ (.inl rfl)] at scans
    cases scans
  next body _ =>
    rw [opens _ (.inr (.inl rfl))] at scans
    cases scans
  next body _ =>
    rw [opens _ (.inr (.inr rfl))] at scans
    cases scans
  next equal => exact scans

theorem scanScalar_write (value : F) {rest : List Char} (ends : Ends rest) :
    scanScalar (FloatText.write value ++ rest) = .ok ((.float value : Value F), rest) := by
  rcases FloatText.scan_write value with isWord | scans
  · have read := FloatText.read_write value
    simp only [constants, List.map_cons, List.map_nil, List.mem_cons, List.not_mem_nil,
      or_false] at isWord
    rcases isWord with word | word | word <;> rw [word] at read ⊢ <;> rw [← read] <;> rfl
  · rw [scanScalar_float scans ends, FloatText.read_write]

theorem scanScalar_dumps {depth : Nat} {data : Value F} {text rest : List Char}
    (scalar : (∀ chars, data ≠ .str chars) ∧ (∀ items, data ≠ .arr items) ∧
      ∀ fields, data ≠ .obj fields)
    (dumped : dumps depth data = some text) (ends : Ends rest) :
    scanScalar (text ++ rest) = .ok (data, rest) := by
  cases data with
  | null =>
      cases depth <;> cases dumped <;> rfl
  | bool value =>
      cases depth <;> cases value <;> cases dumped <;> rfl
  | int value =>
      have isText : Text.strOfInt value = some text := by
        cases depth <;> exact dumped
      exact scanScalar_int isText ends
  | float value =>
      have isText : FloatText.write value = text := by
        cases depth <;> exact Option.some.inj dumped
      exact isText ▸ scanScalar_write value ends
  | str chars => exact absurd rfl (scalar.1 chars)
  | arr items => exact absurd rfl (scalar.2.1 items)
  | obj fields => exact absurd rfl (scalar.2.2 fields)

theorem dumpsAll_cons {α : Type} {dumpsOne : α → Option (List Char)} {one : α} {others : List α}
    {texts : List (List Char)} :
    dumpsAll dumpsOne (one :: others) = some texts ↔
      ∃ text later, dumpsOne one = some text ∧ dumpsAll dumpsOne others = some later ∧
        texts = text :: later := by
  rw [dumpsAll]
  split
  next text later isText isLater => simp [isText, isLater, eq_comm]
  next missing =>
    refine iff_of_false (fun isSome => Option.some_ne_none _ isSome.symm) ?_
    rintro ⟨text, later, isText, isLater, -⟩
    exact missing text later isText isLater

omit [FloatText F] in
theorem dumpsField_eq_some {dumpsValue : Value F → Option (List Char)}
    {field : Chars × Value F} {text : List Char} :
    dumpsField dumpsValue field = some text ↔
      ∃ key value, field.1 = some key ∧ dumpsValue field.2 = some value ∧
        text = quote key ++ ':' :: ' ' :: value := by
  rw [dumpsField]
  split
  next key value isKey isValue => simp [isKey, isValue, eq_comm]
  next missing =>
    refine iff_of_false (fun isSome => Option.some_ne_none _ isSome.symm) ?_
    rintro ⟨key, value, isKey, isValue, -⟩
    exact missing key value isKey isValue

/-- A written value starts with no blank and closes no array. -/
theorem exists_dumps_cons {depth : Nat} {data : Value F} {text : List Char}
    (dumped : dumps depth data = some text) :
    ∃ char rest, text = char :: rest ∧ isBlank char = false ∧ char ≠ ']' := by
  have ofAlphabet : ∀ char ∈ floatAlphabet, isBlank char = false ∧ char ≠ ']' := by decide
  have ofFirst {text : List Char} (some : text ≠ [])
      (inAlphabet : ∀ char ∈ text, char ∈ floatAlphabet) :
      ∃ char rest, text = char :: rest ∧ isBlank char = false ∧ char ≠ ']' := by
    obtain ⟨char, rest, rfl⟩ := List.exists_cons_of_ne_nil some
    exact ⟨char, rest, rfl, ofAlphabet char (inAlphabet char (.head _))⟩
  cases data with
  | null => cases depth <;> cases dumped <;> exact ⟨_, _, rfl, by decide⟩
  | bool value =>
      cases depth <;> cases value <;> cases dumped <;> exact ⟨_, _, rfl, by decide⟩
  | int value =>
      have isText : Text.strOfInt value = some text := by
        cases depth <;> exact dumped
      have isDigits := Text.eq_ofInt_of_strOfInt isText
      obtain ⟨char, rest, starts⟩ := List.exists_cons_of_ne_nil (Text.ofInt_ne_nil value)
      have among : char ∈ Text.ofInt value := starts ▸ .head _
      refine ⟨char, rest, isDigits.trans starts, ?_, ?_⟩
      · rcases Text.isDigit_of_mem_ofInt among with rfl | digit
        · decide
        · simp only [isBlank, Bool.or_eq_false_iff, beq_eq_false_iff_ne]
          refine ⟨⟨⟨?_, ?_⟩, ?_⟩, ?_⟩ <;> rintro rfl <;> exact absurd digit (by decide)
      · rintro rfl
        exact absurd (Text.isDigit_of_mem_ofInt among) (by decide)
  | float value =>
      have isText : FloatText.write value = text := by
        cases depth <;> exact Option.some.inj dumped
      rw [← isText]
      refine ofFirst ?_ (FloatText.alphabet value)
      intro empty
      have scans := FloatText.scan_write value
      rw [empty] at scans
      rcases scans with isWord | scans
      · exact absurd isWord (by decide)
      · cases scans
  | str chars =>
      have isText : chars.map quote = some text := by
        cases depth <;> exact dumped
      obtain ⟨chars, -, rfl⟩ := Option.map_eq_some_iff.mp isText
      exact ⟨_, _, rfl, by decide⟩
  | arr items =>
      cases depth with
      | zero => cases dumped
      | succ depth =>
          obtain ⟨texts, -, rfl⟩ := Option.map_eq_some_iff.mp dumped
          exact ⟨_, _, rfl, by decide⟩
  | obj fields =>
      cases depth with
      | zero => cases dumped
      | succ depth =>
          obtain ⟨texts, -, rfl⟩ := Option.map_eq_some_iff.mp dumped
          exact ⟨_, _, rfl, by decide⟩

/-- What is written of the value is read back, whatever may follow it. -/
def ReadsBack (depth : Nat) (data : Value F) : Prop :=
  ∀ {text : List Char}, dumps depth data = some text → ∀ {fuel : Nat}, text.length < fuel →
    ∀ {rest : List Char}, Ends rest → scanValue fuel depth (text ++ rest) = .ok (data, rest)

/-- Nothing is skipped before texts that start with no blank. -/
theorem skip_intercalate {text : List Char} {char : Char} {tail : List Char}
    (starts : text = char :: tail) (plain : isBlank char = false) (separator : List Char)
    (others : List (List Char)) (rest : List Char) :
    skip (separator.intercalate (text :: others) ++ rest) =
      separator.intercalate (text :: others) ++ rest := by
  subst starts
  cases others with
  | nil => simp [skip_cons plain]
  | cons other others => simp [List.intercalate_cons_cons, skip_cons plain]

theorem scanItems_dumps {depth : Nat} {items : List (Value F)} (present : items ≠ [])
    (readsBack : ∀ item ∈ items, ReadsBack depth item) {texts : List (List Char)}
    (dumped : dumpsAll (dumps depth) items = some texts) {fuel : Nat}
    (enough : ([',', ' '].intercalate texts).length < fuel) (rest : List Char) :
    scanItems (fuel + 1) depth ([',', ' '].intercalate texts ++ ']' :: rest) =
      .ok (items, rest) := by
  induction items generalizing texts fuel with
  | nil => exact absurd rfl present
  | cons item items ih =>
      obtain ⟨text, later, isText, isLater, rfl⟩ := dumpsAll_cons.mp dumped
      cases items with
      | nil =>
          cases isLater
          rw [List.intercalate_singleton] at enough ⊢
          have ends : Ends (']' :: rest) := by
            intro char isFirst
            cases isFirst
            exact .inr (.inl rfl)
          rw [scanItems, readsBack item (.head _) isText enough ends]
          simp [skip, isBlank]
      | cons next items =>
          obtain ⟨second, others, isSecond, isOthers, rfl⟩ := dumpsAll_cons.mp isLater
          rw [List.intercalate_cons_cons] at enough ⊢
          obtain ⟨fuel, rfl⟩ := Nat.exists_eq_add_one_of_ne_zero (Nat.ne_zero_of_lt enough)
          have ends :
              Ends (',' :: ' ' :: ([',', ' '].intercalate (second :: others) ++ ']' :: rest)) := by
            intro char isFirst
            cases isFirst
            exact .inl rfl
          simp only [List.length_append, List.length_cons, List.length_nil] at enough
          have short : text.length < fuel + 1 := by omega
          have tailShort : ([',', ' '].intercalate (second :: others)).length < fuel := by omega
          have head := readsBack item (.head _) isText short ends
          have tail :=
            ih (List.cons_ne_nil _ _) (fun other among => readsBack other (.tail _ among))
            isLater tailShort
          obtain ⟨char, after, starts, plain, -⟩ := exists_dumps_cons isSecond
          have comma : isBlank ',' = false := by decide
          have blank : isBlank ' ' = true := by decide
          rw [scanItems, List.append_assoc, List.append_assoc, List.cons_append, List.cons_append,
            List.nil_append, head]
          simp only [skip_cons comma, skip_blank blank, skip_intercalate starts plain, tail]

theorem scanFields_member {depth : Nat} {data : Value F} (readsBack : ReadsBack depth data)
    {value : List Char} (dumped : dumps depth data = some value) {fuel : Nat}
    (enough : value.length < fuel) {rest after : List Char} (ends : Ends rest) (key : List Char)
    {later : List (Chars × Value F)}
    (goesOn : later = [] ∧ skip rest = '}' :: after ∨
      ∃ text, skip rest = ',' :: text ∧ scanFields fuel depth (skip text) = .ok (later, after)) :
    scanFields (fuel + 1) depth (quote key ++ ':' :: ' ' :: value ++ rest) =
      .ok ((some key, data) :: later, after) := by
  obtain ⟨char, tail, starts, plain, -⟩ := exists_dumps_cons dumped
  have written : quote key ++ ':' :: ' ' :: value ++ rest =
      '"' :: (key.flatMap escapeChar ++ '"' :: ':' :: ' ' :: (value ++ rest)) := by
    simp [quote]
  have colon : isBlank ':' = false := by decide
  have blank : isBlank ' ' = true := by decide
  have present : skip (value ++ rest) = value ++ rest := by
    rw [starts, List.cons_append, skip_cons plain]
  rw [written, scanFields, scanUnits_escaped]
  rcases goesOn with ⟨rfl, closes⟩ | ⟨text, comma, isLater⟩
  · simp only [skip_cons colon, skip_blank blank, present, readsBack dumped enough ends,
      joinSurrogates_map, closes]
  · simp only [skip_cons colon, skip_blank blank, present, readsBack dumped enough ends,
      joinSurrogates_map, comma, isLater]

theorem scanFields_dumps {depth : Nat} {fields : List (Chars × Value F)} (present : fields ≠ [])
    (readsBack : ∀ field ∈ fields, ReadsBack depth field.2) {texts : List (List Char)}
    (dumped : dumpsAll (dumpsField (dumps depth)) fields = some texts) {fuel : Nat}
    (enough : ([',', ' '].intercalate texts).length < fuel) (rest : List Char) :
    scanFields fuel depth ([',', ' '].intercalate texts ++ '}' :: rest) =
      .ok (fields, rest) := by
  induction fields generalizing texts fuel with
  | nil => exact absurd rfl present
  | cons field fields ih =>
      obtain ⟨text, later, isText, isLater, rfl⟩ := dumpsAll_cons.mp dumped
      obtain ⟨key, value, isKey, isValue, rfl⟩ := dumpsField_eq_some.mp isText
      have sameField : (some key, field.2) = field := Prod.ext isKey.symm rfl
      obtain ⟨fuel, rfl⟩ := Nat.exists_eq_add_one_of_ne_zero (Nat.ne_zero_of_lt enough)
      cases fields with
      | nil =>
          cases isLater
          rw [List.intercalate_singleton] at enough ⊢
          simp only [List.length_append, List.length_cons] at enough
          have short : value.length < fuel := by omega
          have ends : Ends ('}' :: rest) := by
            intro char isFirst
            cases isFirst
            exact .inr (.inr rfl)
          have brace : isBlank '}' = false := by decide
          rw [scanFields_member (readsBack field (.head _)) isValue short ends key
            (.inl ⟨rfl, skip_cons brace rest⟩), sameField]
      | cons next fields =>
          obtain ⟨second, others, isSecond, isOthers, rfl⟩ := dumpsAll_cons.mp isLater
          obtain ⟨nextKey, nextValue, -, -, isQuoted⟩ := dumpsField_eq_some.mp isSecond
          rw [List.intercalate_cons_cons] at enough ⊢
          simp only [List.length_append, List.length_cons, List.length_nil] at enough
          have short : value.length < fuel := by omega
          have tailShort : ([',', ' '].intercalate (second :: others)).length < fuel := by omega
          have ends :
              Ends (',' :: ' ' :: ([',', ' '].intercalate (second :: others) ++ '}' :: rest)) := by
            intro char isFirst
            cases isFirst
            exact .inl rfl
          have tail := ih (List.cons_ne_nil _ _)
            (fun other among => readsBack other (.tail _ among)) isLater tailShort
          have starts : second = '"' :: (nextKey.flatMap escapeChar ++ ['"'] ++
              ':' :: ' ' :: nextValue) := by
            rw [isQuoted, quote, List.cons_append]
          have comma : isBlank ',' = false := by decide
          have blank : isBlank ' ' = true := by decide
          have mark : isBlank '"' = false := by decide
          have goesOn : scanFields fuel depth
              (skip (' ' :: ([',', ' '].intercalate (second :: others) ++ '}' :: rest))) =
                .ok (next :: fields, rest) := by
            rw [skip_blank blank, skip_intercalate starts mark, tail]
          rw [List.append_assoc, List.append_assoc, List.cons_append, List.cons_append,
            List.nil_append, scanFields_member (readsBack field (.head _)) isValue short ends key
              (.inr ⟨_, skip_cons comma _, goesOn⟩), sameField]

/-- A value is read back if it is as a container. -/
theorem readsBack_of_containers {depth : Nat} {data : Value F}
    (array : ∀ items, data = .arr items → ReadsBack depth data)
    (object : ∀ fields, data = .obj fields → ReadsBack depth data) : ReadsBack depth data := by
  intro text dumped fuel enough rest ends
  obtain ⟨fuel, rfl⟩ := Nat.exists_eq_add_one_of_ne_zero (Nat.ne_zero_of_lt enough)
  cases data with
  | arr items => exact array _ rfl dumped enough ends
  | obj fields => exact object _ rfl dumped enough ends
  | str chars =>
      have isText : chars.map quote = some text := by
        cases depth <;> exact dumped
      obtain ⟨chars, rfl, rfl⟩ := Option.map_eq_some_iff.mp isText
      have written : quote chars ++ rest = '"' :: (chars.flatMap escapeChar ++ '"' :: rest) := by
        simp [quote]
      rw [written, scanValue]
      simp only [scanUnits_escaped, joinSurrogates_map]
  | _ =>
      apply scanValue_of_scanScalar
      exact scanScalar_dumps (by simp) dumped ends

theorem scanValue_array {fuel depth : Nat} {text rest : List Char} {items : List (Value F)}
    (present : skip text = text) (goesOn : ∀ after, text ≠ ']' :: after)
    (scans : scanItems fuel depth text = .ok (items, rest)) :
    scanValue (fuel + 1) (depth + 1) ('[' :: text) = .ok (.arr items, rest) := by
  rw [scanValue, present]
  split
  next after => exact absurd rfl (goesOn after)
  next => rw [scans]

theorem scanValue_object {fuel depth : Nat} {text rest : List Char}
    {pairs : List (Chars × Value F)} (present : skip text = text)
    (goesOn : ∀ after, text ≠ '}' :: after)
    (scans : scanFields fuel depth text = .ok (pairs, rest)) :
    scanValue (fuel + 1) (depth + 1) ('{' :: text) =
      .ok (.obj (Dict.ofPairs pairs).rows, rest) := by
  rw [scanValue, present]
  split
  next after => exact absurd rfl (goesOn after)
  next => rw [scans]

theorem readsBack_arr {depth : Nat} {items : List (Value F)}
    (readsBack : ∀ item ∈ items, ReadsBack depth item) : ReadsBack (depth + 1) (.arr items) := by
  intro text dumped fuel enough rest ends
  obtain ⟨texts, isTexts, rfl⟩ := Option.map_eq_some_iff.mp dumped
  obtain ⟨fuel, rfl⟩ := Nat.exists_eq_add_one_of_ne_zero (Nat.ne_zero_of_lt enough)
  have written : '[' :: ([',', ' '].intercalate texts ++ [']']) ++ rest =
      '[' :: ([',', ' '].intercalate texts ++ ']' :: rest) := by
    simp
  rw [written]
  cases items with
  | nil =>
      cases isTexts
      have bracket : isBlank ']' = false := by decide
      simp [scanValue, skip_cons bracket]
  | cons item items =>
      simp only [List.length_append, List.length_cons, List.length_nil] at enough
      obtain ⟨fuel, rfl⟩ := Nat.exists_eq_add_one_of_ne_zero (by omega : fuel ≠ 0)
      have short : ([',', ' '].intercalate texts).length < fuel := by omega
      have scans := scanItems_dumps (List.cons_ne_nil _ _) readsBack isTexts short rest
      obtain ⟨first, others, isFirst, -, rfl⟩ := dumpsAll_cons.mp isTexts
      obtain ⟨char, after, starts, plain, notBracket⟩ := exists_dumps_cons isFirst
      refine scanValue_array (skip_intercalate starts plain _ _ _) ?_ scans
      intro after same
      subst starts
      have sameFirst := congrArg List.head? same
      cases others <;>
        simp [List.intercalate_cons_cons, notBracket] at sameFirst

theorem readsBack_obj {depth : Nat} {fields : List (Chars × Value F)}
    (nodup : (fields.map Prod.fst).Nodup) (readsBack : ∀ field ∈ fields, ReadsBack depth field.2) :
    ReadsBack (depth + 1) (.obj fields) := by
  intro text dumped fuel enough rest ends
  obtain ⟨texts, isTexts, rfl⟩ := Option.map_eq_some_iff.mp dumped
  obtain ⟨fuel, rfl⟩ := Nat.exists_eq_add_one_of_ne_zero (Nat.ne_zero_of_lt enough)
  have written : '{' :: ([',', ' '].intercalate texts ++ ['}']) ++ rest =
      '{' :: ([',', ' '].intercalate texts ++ '}' :: rest) := by
    simp
  rw [written]
  cases fields with
  | nil =>
      cases isTexts
      have brace : isBlank '}' = false := by decide
      simp [scanValue, skip_cons brace]
  | cons field fields =>
      simp only [List.length_append, List.length_cons, List.length_nil] at enough
      have short : ([',', ' '].intercalate texts).length < fuel := by omega
      have scans := scanFields_dumps (List.cons_ne_nil _ _) readsBack isTexts short rest
      obtain ⟨first, others, isFirst, -, rfl⟩ := dumpsAll_cons.mp isTexts
      obtain ⟨key, value, -, -, isQuoted⟩ := dumpsField_eq_some.mp isFirst
      have starts : first = '"' :: (key.flatMap escapeChar ++ ['"'] ++ ':' :: ' ' :: value) := by
        rw [isQuoted, quote, List.cons_append]
      have object := scanValue_object (skip_intercalate starts (by decide) _ _ _) ?_ scans
      · rwa [Dict.rows_ofPairs nodup] at object
      · intro after same
        subst starts
        have sameFirst := congrArg List.head? same
        cases others <;> simp [List.intercalate_cons_cons] at sameFirst

/-- What was written is read back. -/
theorem readsBack_of_unique (depth : Nat) {data : Value F} (unique : data.Unique) :
    ReadsBack depth data := by
  induction depth generalizing data with
  | zero =>
      apply readsBack_of_containers
      · intro items isArr text dumped
        rw [isArr] at dumped
        cases dumped
      · intro fields isObj text dumped
        rw [isObj] at dumped
        cases dumped
  | succ depth ih =>
      apply readsBack_of_containers
      · rintro items rfl
        cases unique with
        | arr unique => exact readsBack_arr fun item among => ih (unique item among)
      · rintro fields rfl
        cases unique with
        | obj nodup unique => exact readsBack_obj nodup fun field among => ih (unique field among)

theorem loads_dumps {depth : Nat} {data : Value F} (unique : data.Unique) {text : List Char}
    (dumped : dumps depth data = some text) : loads depth text = .ok data := by
  obtain ⟨char, rest, starts, plain, -⟩ := exists_dumps_cons dumped
  have ends : Ends [] := by
    intro char isFirst
    cases isFirst
  have enough : text.length < 2 * text.length + 2 := by omega
  have read := readsBack_of_unique depth unique dumped enough ends
  have first : skip text = text := by
    rw [starts, skip_cons plain]
  rw [List.append_nil] at read
  rw [loads, first, read]
  rfl

end PresenceLogger.Library.JsonCodec
