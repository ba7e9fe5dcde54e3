import PresenceLogger.Library.JsonRoundTrip

/-!
# JSON documents in pieces

A written text that is broken at characters within its strings.  A piece that ends within
a string is not read.  In a piece that begins within a string the quotes have changed
sides, so that what stood between the strings is read as strings: the keys of an object
consist of the characters of numbers, words and punctuation.
-/

namespace PresenceLogger.Library.JsonCodec

open JsonText

variable {F : Type} [FloatText F]

/-! ## Where the strings are -/

/-- Where a reader is, with respect to the strings. -/
inductive Mode where
  | outside
  | inside
  /-- After the backslash of an escape. -/
  | escaped
  deriving DecidableEq, Repr

def Mode.next : Mode → Char → Mode
  | .outside, char => if char = '"' then .inside else .outside
  | .inside, char => if char = '"' then .outside else if char = '\\' then .escaped else .inside
  | .escaped, _ => .inside

/-- The characters that are written outside of strings. -/
def structureAlphabet : List Char := "{}[],: \"nulltruefalse".toList ++ floatAlphabet

/-- The letters of the escapes. -/
def escapeLetters : List Char := 'u' :: escapes.map Prod.snd

def Mode.accepts (mode : Mode) (char : Char) : Bool :=
  match mode with
  | .outside => char ∈ structureAlphabet
  | .inside => 32 ≤ char.toNat
  | .escaped => char ∈ escapeLetters

/-- Where a reader of the text ends, unless it comes upon a character that is not written
there. -/
def Mode.run (mode : Mode) : List Char → Option Mode
  | [] => some mode
  | char :: text => if mode.accepts char then (mode.next char).run text else none

namespace Mode

theorem run_append (mode : Mode) (left right : List Char) :
    mode.run (left ++ right) = (mode.run left).bind fun mode => mode.run right := by
  induction left generalizing mode with
  | nil => rfl
  | cons char left ih =>
      rw [List.cons_append, run, run]
      split
      · exact ih _
      · rfl

theorem run_cons_eq_some {mode last : Mode} {char : Char} {text : List Char} :
    mode.run (char :: text) = some last ↔
      mode.accepts char = true ∧ (mode.next char).run text = some last := by
  rw [run]
  split <;> simp [*]

theorem run_append_eq_some {mode last : Mode} {left right : List Char} :
    mode.run (left ++ right) = some last ↔
      ∃ middle, mode.run left = some middle ∧ middle.run right = some last := by
  rw [run_append, Option.bind_eq_some_iff]

/-- No control character is written. -/
theorem printed_of_run {mode last : Mode} {text : List Char} (runs : mode.run text = some last) :
    ∀ char ∈ text, 32 ≤ char.toNat := by
  have structure_ : ∀ char ∈ structureAlphabet, 32 ≤ char.toNat := by decide
  have letters : ∀ char ∈ escapeLetters, 32 ≤ char.toNat := by decide
  induction text generalizing mode with
  | nil => exact fun _ member => absurd member List.not_mem_nil
  | cons char text ih =>
      obtain ⟨accepts, later⟩ := run_cons_eq_some.mp runs
      refine List.forall_mem_cons.mpr ⟨?_, ih later⟩
      cases mode with
      | outside => exact structure_ char (of_decide_eq_true accepts)
      | inside => exact of_decide_eq_true accepts
      | escaped => exact letters char (of_decide_eq_true accepts)

theorem run_outside {text : List Char}
    (plain : ∀ char ∈ text, char ∈ structureAlphabet ∧ char ≠ '"') :
    outside.run text = some outside := by
  induction text with
  | nil => rfl
  | cons char text ih =>
      have here := plain char (.head _)
      rw [run_cons_eq_some, next, if_neg here.2]
      exact ⟨decide_eq_true here.1, ih fun other member => plain other (.tail _ member)⟩

theorem run_escapeChar (char : Char) : inside.run (escapeChar char) = some inside := by
  rw [escapeChar]
  split
  next letter escaped =>
    have isLetter : letter ∈ escapeLetters := by
      obtain ⟨before, after, split, -⟩ := List.lookup_eq_some_iff.mp escaped
      exact .tail _ (List.mem_map.mpr ⟨(char, letter), by simp [split], rfl⟩)
    simp [run, next, accepts, isLetter]
  next plain =>
    obtain ⟨notQuote, notBackslash⟩ := plain_of_lookup plain
    split
    next control =>
      have hex : ∀ code < 32, inside.run
          ['\\', 'u', '0', '0', Nat.digitChar (code / 16), Nat.digitChar (code % 16)] =
            some inside := by decide
      exact hex char.toNat control
    next printed => simp [run, next, accepts, notQuote, notBackslash, Nat.not_lt.mp printed]

theorem run_quote (text : List Char) : outside.run (quote text) = some outside := by
  have body : inside.run (text.flatMap escapeChar) = some inside := by
    induction text with
    | nil => rfl
    | cons char text ih =>
        rw [List.flatMap_cons, run_append_eq_some]
        exact ⟨inside, run_escapeChar char, ih⟩
  rw [quote, run_cons_eq_some, run_append_eq_some]
  exact ⟨by decide, inside, body, by decide⟩

theorem run_intercalate {texts : List (List Char)}
    (runs : ∀ text ∈ texts, outside.run text = some outside) :
    outside.run ([',', ' '].intercalate texts) = some outside := by
  induction texts with
  | nil => rfl
  | cons text texts ih =>
      have later := ih fun other among => runs other (.tail _ among)
      by_cases last : texts = []
      · rw [last, List.intercalate_singleton]
        exact runs text (.head _)
      · have separator : outside.run [',', ' '] = some outside := by decide
        rw [List.intercalate_cons_of_ne_nil last, run_append_eq_some]
        refine ⟨outside, ?_, later⟩
        rw [run_append_eq_some]
        exact ⟨outside, runs text (.head _), separator⟩

/-- Brackets around a text that is read outside of strings. -/
theorem run_enclosed {first last : Char} (firstPlain : outside.run [first] = some outside)
    (lastPlain : outside.run [last] = some outside) {text : List Char}
    (runs : outside.run text = some outside) :
    outside.run (first :: (text ++ [last])) = some outside := by
  have opens : outside.run ([first] ++ (text ++ [last])) = some outside := by
    rw [run_append, firstPlain, Option.bind_some, run_append, runs, Option.bind_some, lastPlain]
  exact opens

theorem exists_of_mem_dumpsAll {α : Type} {dumpsOne : α → Option (List Char)} {all : List α}
    {texts : List (List Char)} (dumped : dumpsAll dumpsOne all = some texts) {text : List Char}
    (among : text ∈ texts) : ∃ one ∈ all, dumpsOne one = some text := by
  induction all generalizing texts with
  | nil =>
      cases dumped
      cases among
  | cons one others ih =>
      obtain ⟨first, later, isFirst, isLater, rfl⟩ := dumpsAll_cons.mp dumped
      rcases List.mem_cons.mp among with rfl | inLater
      · exact ⟨one, .head _, isFirst⟩
      · exact (ih isLater inLater).imp fun _ found => ⟨.tail _ found.1, found.2⟩

theorem run_digits {text : List Char} (alphabet : ∀ char ∈ text, char ∈ floatAlphabet) :
    outside.run text = some outside := by
  apply run_outside
  intro char member
  have notQuote : ∀ char ∈ floatAlphabet, char ≠ '"' := by decide
  have inAlphabet := alphabet char member
  exact ⟨List.mem_append_right _ inAlphabet, notQuote char inAlphabet⟩

theorem run_ofInt (value : Int) : outside.run (Text.ofInt value) = some outside := by
  have digits : ∀ digit < 10, Char.ofNat (48 + digit) ∈ floatAlphabet := by decide
  apply run_digits
  intro char member
  rcases Text.isDigit_of_mem_ofInt member with rfl | digit
  · decide
  · simp only [Char.isDigit, Bool.and_eq_true, decide_eq_true_eq] at digit
    have low : 48 ≤ char.toNat := digit.1
    have high : char.toNat ≤ 57 := digit.2
    have found := digits (char.toNat - 48) (by omega)
    rwa [Nat.add_sub_cancel' low, Char.ofNat_toNat] at found

/-- A written value that is no container. -/
theorem run_dumps_plain {depth : Nat} {data : Value F} {text : List Char}
    (plain : (∀ items, data ≠ .arr items) ∧ ∀ fields, data ≠ .obj fields)
    (dumped : dumps depth data = some text) : outside.run text = some outside := by
  cases data with
  | null => cases depth <;> cases dumped <;> rfl
  | bool value => cases depth <;> cases value <;> cases dumped <;> rfl
  | int value =>
      have isText : Text.strOfInt value = some text := by
        cases depth <;> exact dumped
      rw [Text.eq_ofInt_of_strOfInt isText]
      exact run_ofInt value
  | float value =>
      have isText : FloatText.write value = text := by
        cases depth <;> exact Option.some.inj dumped
      exact isText ▸ run_digits (FloatText.alphabet value)
  | str chars =>
      have isText : chars.map quote = some text := by
        cases depth <;> exact dumped
      obtain ⟨chars, -, rfl⟩ := Option.map_eq_some_iff.mp isText
      exact run_quote chars
  | arr items => exact absurd rfl (plain.1 items)
  | obj fields => exact absurd rfl (plain.2 fields)

/-- A written value is read from outside of strings to outside of them. -/
theorem run_dumps {depth : Nat} {data : Value F} {text : List Char}
    (dumped : dumps depth data = some text) : outside.run text = some outside := by
  induction depth generalizing data text with
  | zero =>
      refine run_dumps_plain ⟨?_, ?_⟩ dumped
      · rintro items rfl
        cases dumped
      · rintro fields rfl
        cases dumped
  | succ depth ih =>
      cases data with
      | arr items =>
          obtain ⟨texts, isTexts, rfl⟩ := Option.map_eq_some_iff.mp dumped
          refine run_enclosed (by decide) (by decide) (run_intercalate fun text among => ?_)
          obtain ⟨item, -, isText⟩ := exists_of_mem_dumpsAll isTexts among
          exact ih isText
      | obj fields =>
          obtain ⟨texts, isTexts, rfl⟩ := Option.map_eq_some_iff.mp dumped
          refine run_enclosed (by decide) (by decide) (run_intercalate fun text among => ?_)
          obtain ⟨field, -, isText⟩ := exists_of_mem_dumpsAll isTexts among
          obtain ⟨key, value, -, isValue, rfl⟩ := dumpsField_eq_some.mp isText
          have colon : outside.run [':', ' '] = some outside := by decide
          rw [run_append, run_quote, Option.bind_some]
          exact run_append_eq_some.mpr ⟨outside, colon, ih isValue⟩
      | _ => exact run_dumps_plain (by simp) dumped

end Mode

/-! ## A reader that keeps track of the strings -/

/-- The text goes on with the rest after characters that neither open nor escape. -/
def Passes (text rest : List Char) : Prop :=
  ∃ passed, text = passed ++ rest ∧ ∀ char ∈ passed, char ≠ '"' ∧ char ≠ '\\'

namespace Passes

theorem refl (text : List Char) : Passes text text :=
  ⟨[], rfl, fun _ member => absurd member List.not_mem_nil⟩

theorem trans {text middle rest : List Char} (first : Passes text middle)
    (second : Passes middle rest) : Passes text rest := by
  obtain ⟨left, rfl, leftPlain⟩ := first
  obtain ⟨right, rfl, rightPlain⟩ := second
  refine ⟨left ++ right, (List.append_assoc ..).symm, fun char member => ?_⟩
  exact (List.mem_append.mp member).elim (leftPlain char) (rightPlain char)

theorem cons {char : Char} (plain : char ≠ '"' ∧ char ≠ '\\') (text : List Char) :
    Passes (char :: text) text :=
  ⟨[char], rfl, fun _ member => List.mem_singleton.mp member ▸ plain⟩

theorem dropWhile {accepts : Char → Bool} (quote : accepts '"' = false)
    (backslash : accepts '\\' = false) (text : List Char) :
    Passes text (text.dropWhile accepts) := by
  refine ⟨text.takeWhile accepts, List.takeWhile_append_dropWhile.symm, fun char member => ?_⟩
  have accepted := List.mem_takeWhile_imp member
  constructor
  · rintro rfl
    cases quote.symm.trans accepted
  · rintro rfl
    cases backslash.symm.trans accepted

theorem digits (text : List Char) : Passes text (text.dropWhile Char.isDigit) :=
  dropWhile (by decide) (by decide) text

theorem fraction (text : List Char) : Passes text (dropFraction text) := by
  rw [dropFraction.eq_def]
  split
  · split
    next digit rest isDigit =>
      have notDigit : ('"').isDigit = false ∧ ('\\').isDigit = false := by decide
      have plain : digit ≠ '"' ∧ digit ≠ '\\' := by
        constructor
        · rintro rfl
          cases notDigit.1.symm.trans isDigit
        · rintro rfl
          cases notDigit.2.symm.trans isDigit
      exact (cons (by decide) _).trans ((cons plain _).trans (digits _))
    · exact refl _
  · exact refl _

theorem exponent (text : List Char) : Passes text (dropExponent text) := by
  cases text with
  | nil => exact refl _
  | cons letter rest =>
      have sign : Passes rest
          (if rest.head? = some '-' ∨ rest.head? = some '+' then rest.drop 1 else rest) := by
        split
        next isSign =>
          rcases isSign with isSign | isSign <;>
            obtain ⟨after, rfl⟩ := List.head?_eq_some_iff.mp isSign <;>
            exact cons (by decide) _
        · exact refl _
      simp only [dropExponent]
      generalize (if rest.head? = some '-' ∨ rest.head? = some '+' then rest.drop 1 else rest) =
        unsigned at sign ⊢
      split
      next isExponent =>
        have plain : letter ≠ '"' ∧ letter ≠ '\\' := by
          rcases isExponent.1 with rfl | rfl <;> decide
        exact (cons plain _).trans (sign.trans (digits _))
      · exact refl _

theorem whole (text : List Char) : Passes text (text.drop (wholeDigits text).length) := by
  rw [wholeDigits.eq_def]
  split
  · exact cons (by decide) _
  · have parts := @List.takeWhile_append_dropWhile _ Char.isDigit text
    have same := congrArg (List.drop (text.takeWhile Char.isDigit).length) parts
    rw [List.drop_left] at same
    exact same ▸ digits text

theorem number {text numeral rest : List Char} {isFloat : Bool}
    (scans : scanNumber text = some (numeral, isFloat, rest)) : Passes text rest := by
  have sign : Passes text (if text.head? = some '-' then text.drop 1 else text) := by
    split
    next isSign =>
      obtain ⟨after, rfl⟩ := List.head?_eq_some_iff.mp isSign
      exact cons (by decide) _
    · exact refl _
  simp only [scanNumber] at scans
  generalize (if text.head? = some '-' then text.drop 1 else text) = body at sign scans
  split at scans
  · cases scans
  · cases scans
    exact sign.trans ((whole _).trans ((fraction _).trans (exponent _)))

theorem scalar {text rest : List Char} {data : Value F}
    (scans : scanScalar text = .ok (data, rest)) : Passes text rest := by
  have plain : ∀ word ∈ (words : List (List Char × Value F)).map Prod.fst,
      ∀ char ∈ word, char ≠ '"' ∧ char ≠ '\\' := by
    have names : (words : List (List Char × Value F)).map Prod.fst =
      ["null", "true", "false", "NaN", "Infinity", "-Infinity"].map String.toList := rfl
    rw [names]
    decide
  rcases scanScalar_cases scans with
    ⟨entry, among, ⟨after, rfl⟩, -, rfl⟩ | ⟨numeral, isFloat, isNumber, -⟩
  · exact ⟨entry.1, by simp, plain entry.1 (List.mem_map_of_mem among)⟩
  · exact number isNumber

end Passes

/-- What holds of the text wherever a reader is outside or inside of its strings, and of
the strings it finds. -/
structure Tracks (out within : List Char → Prop) (found : List Nat → Prop) : Prop where
  plain {char : Char} {text : List Char} : char ≠ '"' → char ≠ '\\' → out (char :: text) → out text
  opens {text : List Char} : out ('"' :: text) → within text
  scans {text rest : List Char} {units : List Nat} : within text →
    scanUnits text = some (units, rest) → out rest ∧ found units

namespace Tracks

variable {out within : List Char → Prop} {found : List Nat → Prop}

theorem passes (tracks : Tracks out within found) {text rest : List Char}
    (passes : Passes text rest) (before : out text) : out rest := by
  obtain ⟨passed, rfl, plain⟩ := passes
  induction passed with
  | nil => exact before
  | cons char passed ih =>
      have here := plain char (.head _)
      exact ih (fun other member => plain other (.tail _ member))
        (tracks.plain here.1 here.2 before)

theorem skip (tracks : Tracks out within found) {text : List Char} (before : out text) :
    out (skip text) :=
  tracks.passes (.dropWhile (by decide) (by decide) text) before

/-- After blanks and one more character. -/
theorem skip_cons (tracks : Tracks out within found) {text rest : List Char} {char : Char}
    (skips : JsonText.skip text = char :: rest) (notQuote : char ≠ '"') (notBackslash : char ≠ '\\')
    (before : out text) : out rest :=
  tracks.plain notQuote notBackslash (skips ▸ tracks.skip before)

/-- The keys of an object are strings that were found. -/
def Keys (found : List Nat → Prop) (data : Value F) : Prop :=
  ∀ fields, data = .obj fields → ∀ field ∈ fields,
    ∃ units, field.1 = joinSurrogates units ∧ found units

theorem scanScalar_ne_obj {text rest : List Char} {data : Value F}
    (scans : scanScalar text = .ok (data, rest)) (fields : List (Chars × Value F)) :
    data ≠ .obj fields := by
  have ofWord : ∀ entry ∈ (words : List (List Char × Value F)), entry.2 ≠ .obj fields := by
    simp [words, constants]
  rcases scanScalar_cases scans with
    ⟨entry, among, -, rfl, -⟩ | ⟨_, _, -, ⟨value, rfl⟩ | ⟨value, rfl⟩⟩
  · exact ofWord entry among
  · simp
  · simp

theorem rules (tracks : Tracks out within found) : Rules (F := F)
    (fun text data rest => out text → out rest ∧ Keys found data)
    (fun text pairs rest => out text →
      out rest ∧ ∀ pair ∈ pairs, ∃ units, pair.1 = joinSurrogates units ∧ found units)
    (fun text _ rest => out text → out rest) where
  string := by
    intro text rest units isString before
    refine ⟨(tracks.scans (tracks.opens before) isString).1, ?_⟩
    intro fields isObj
    cases isObj
  scalar := by
    intro text rest data scans before
    refine ⟨tracks.passes (.scalar scans) before, ?_⟩
    intro fields isObj
    exact absurd isObj (scanScalar_ne_obj scans fields)
  object := by
    intro text rest pairs isFields before
    have body := tracks.plain (by decide) (by decide) before
    have parts : out rest ∧ ∀ pair ∈ pairs,
        ∃ units, pair.1 = joinSurrogates units ∧ found units := by
      rcases isFields with ⟨rfl, closes⟩ | ofFields
      · exact ⟨tracks.skip_cons closes (by decide) (by decide) body,
          fun _ member => absurd member List.not_mem_nil⟩
      · exact ofFields (tracks.skip body)
    refine ⟨parts.1, ?_⟩
    intro fields isObj field among
    cases isObj
    exact parts.2 _ (Dict.mem_of_find_ofPairs (Dict.find_eq_some_iff.mpr among))
  array := by
    intro text rest data isItems before
    have body := tracks.plain (by decide) (by decide) before
    constructor
    · rcases isItems with ⟨-, closes⟩ | ofItems
      · exact tracks.skip_cons closes (by decide) (by decide) body
      · exact ofItems (tracks.skip body)
    · intro fields isObj
      cases isObj
  field := by
    intro text afterKey afterColon afterValue rest units data later isKey hasColon ofValue goesOn
      before
    have key := tracks.scans (tracks.opens before) isKey
    have colon := tracks.skip_cons hasColon (by decide) (by decide) key.1
    have value := (ofValue (tracks.skip colon)).1
    rcases goesOn with ⟨rfl, closes⟩ | ⟨afterComma, comma, ofLater⟩
    · refine ⟨tracks.skip_cons closes (by decide) (by decide) value, ?_⟩
      exact List.forall_mem_cons.mpr
        ⟨⟨units, rfl, key.2⟩, fun _ member => absurd member List.not_mem_nil⟩
    · have others := ofLater (tracks.skip
        (tracks.skip_cons comma (by decide) (by decide) value))
      exact ⟨others.1, List.forall_mem_cons.mpr ⟨⟨units, rfl, key.2⟩, others.2⟩⟩
  item := by
    intro text afterValue rest data later ofValue goesOn before
    have value := (ofValue before).1
    rcases goesOn with ⟨-, closes⟩ | ⟨afterComma, comma, ofLater⟩
    · exact tracks.skip_cons closes (by decide) (by decide) value
    · exact ofLater (tracks.skip (tracks.skip_cons comma (by decide) (by decide) value))

/-- A text that is read as a whole ends outside of strings, with only blanks left. -/
theorem of_loads (tracks : Tracks out within found) {depth : Nat} {text : List Char}
    {data : Value F} (loaded : loads depth text = .ok data) (before : out text) :
    (∃ rest, out rest ∧ JsonText.skip rest = []) ∧ Keys found data := by
  obtain ⟨rest, read, ended⟩ := tracks.rules.of_loads loaded
  have after := read (tracks.skip before)
  exact ⟨⟨rest, after.1, ended⟩, after.2⟩

end Tracks

/-- The digits of an escape leave a reader within its string. -/
theorem run_hex4 {a b c d : Char} {unit : Nat} (isHex : hex4 a b c d = some unit)
    {text : List Char} {last : Mode}
    (runs : Mode.inside.run ('\\' :: 'u' :: a :: b :: c :: d :: text) = some last) :
    Mode.inside.run text = some last := by
  have plain {digit : Char} {value : Nat} (isDigit : hexValue digit = some value) :
      digit ≠ '"' ∧ digit ≠ '\\' := by
    constructor <;> rintro rfl <;> cases isDigit
  have stays {digit : Char} {value : Nat} (isDigit : hexValue digit = some value)
      {text : List Char} (runs : Mode.inside.run (digit :: text) = some last) :
      Mode.inside.run text = some last := by
    have notMark := plain isDigit
    rw [Mode.run_cons_eq_some, Mode.next, if_neg notMark.1, if_neg notMark.2] at runs
    exact runs.2
  have afterU := (Mode.run_cons_eq_some.mp (Mode.run_cons_eq_some.mp runs).2).2
  rw [hex4] at isHex
  split at isHex
  next isA isB isC isD => exact stays isD (stays isC (stays isB (stays isA afterU)))
  · cases isHex

/-- From within a string what stood between the strings is read as strings. -/
theorem tracks_inside : Tracks (fun text => ∃ last, Mode.inside.run text = some last)
    (fun text => ∃ last, Mode.outside.run text = some last)
    (fun units => ∃ chars : List Char, units = chars.map Char.toNat ∧
      ∀ char ∈ chars, char ∈ structureAlphabet) where
  plain := by
    rintro char text notQuote notBackslash ⟨last, runs⟩
    rw [Mode.run_cons_eq_some, Mode.next, if_neg notQuote, if_neg notBackslash] at runs
    exact ⟨last, runs.2⟩
  opens := by
    rintro text ⟨last, runs⟩
    exact ⟨last, (Mode.run_cons_eq_some.mp runs).2⟩
  scans := by
    rintro text rest units ⟨last, runs⟩ isString
    fun_induction scanUnits text generalizing rest units with
    | case1 => cases isString
    | case2 rest =>
        cases isString
        exact ⟨⟨last, (Mode.run_cons_eq_some.mp runs).2⟩, [], rfl, by simp⟩
    | case3 => exact absurd (Mode.run_cons_eq_some.mp runs).1 (by decide)
    | case4 => cases isString
    | case5 => exact absurd (Mode.run_cons_eq_some.mp runs).1 (by decide)
    | case6 => cases isString
    | case7 => cases isString
    | case8 char text notQuote _ _ _ ih =>
        obtain ⟨⟨laterUnits, after⟩, isLater, same⟩ := Option.map_eq_some_iff.mp isString
        cases same
        rw [Mode.run_cons_eq_some, Mode.next, if_neg notQuote] at runs
        obtain ⟨before, chars, rfl, alphabet⟩ := ih runs.2 isLater
        exact ⟨before, char :: chars, rfl,
          List.forall_mem_cons.mpr ⟨of_decide_eq_true runs.1, alphabet⟩⟩

/-- A text that ends within a string stays so. -/
theorem tracks_cut : Tracks
    (fun text => ∃ last, Mode.outside.run text = some last ∧ last ≠ .outside)
    (fun text => ∃ last, Mode.inside.run text = some last ∧ last ≠ .outside) fun _ => True where
  plain := by
    rintro char text notQuote - ⟨last, runs, notOutside⟩
    rw [Mode.run_cons_eq_some, Mode.next, if_neg notQuote] at runs
    exact ⟨last, runs.2, notOutside⟩
  opens := by
    rintro text ⟨last, runs, notOutside⟩
    exact ⟨last, (Mode.run_cons_eq_some.mp runs).2, notOutside⟩
  scans := by
    rintro text rest units ⟨last, runs, notOutside⟩ isString
    refine ⟨?_, trivial⟩
    fun_induction scanUnits text generalizing rest units with
    | case1 => cases isString
    | case2 rest =>
        cases isString
        exact ⟨last, (Mode.run_cons_eq_some.mp runs).2, notOutside⟩
    | case3 a b c d text unit isHex ih =>
        obtain ⟨⟨laterUnits, after⟩, isLater, same⟩ := Option.map_eq_some_iff.mp isString
        cases same
        exact ih (run_hex4 isHex runs) isLater
    | case4 => cases isString
    | case5 letter text _ char isChar ih =>
        obtain ⟨⟨laterUnits, after⟩, isLater, same⟩ := Option.map_eq_some_iff.mp isString
        cases same
        have escape := (Mode.run_cons_eq_some.mp runs).2
        exact ih (Mode.run_cons_eq_some.mp escape).2 isLater
    | case6 => cases isString
    | case7 => cases isString
    | case8 char text notQuote _ notEscape _ ih =>
        obtain ⟨⟨laterUnits, after⟩, isLater, same⟩ := Option.map_eq_some_iff.mp isString
        cases same
        have notBackslash : char ≠ '\\' := by
          rintro rfl
          cases text with
          | nil => cases isLater
          | cons letter text => exact notEscape letter text rfl rfl
        rw [Mode.run_cons_eq_some, Mode.next, if_neg notQuote, if_neg notBackslash] at runs
        exact ih runs.2 isLater

/-! ## Pieces of a written text -/

theorem Mode.run_blank {rest : List Char} (blank : skip rest = []) {last : Mode}
    (runs : outside.run rest = some last) : last = outside := by
  have blanks : ∀ char ∈ rest, isBlank char = true :=
    List.dropWhile_eq_nil_iff.mp blank
  induction rest with
  | nil => exact (Option.some.inj runs).symm
  | cons char rest ih =>
      have notQuote : char ≠ '"' := by
        rintro rfl
        exact absurd (blanks _ (.head _)) (by decide)
      rw [run_cons_eq_some, next, if_neg notQuote] at runs
      have later : skip rest = [] := List.dropWhile_eq_nil_iff.mpr fun other member =>
        blanks other (.tail _ member)
      exact ih later runs.2 fun other member => blanks other (.tail _ member)

/-- A text that ends within a string is not read. -/
theorem loads_ne_ok_of_cut {text : List Char} {last : Mode}
    (runs : Mode.outside.run text = some last) (cut : last ≠ .outside) (depth : Nat)
    (data : Value F) : loads depth text ≠ .ok data := by
  intro loaded
  obtain ⟨⟨rest, ⟨other, after, notOutside⟩, blank⟩, -⟩ :=
    tracks_cut.of_loads loaded ⟨last, runs, cut⟩
  exact notOutside (Mode.run_blank blank after)

/-- The keys of an object that is read from within a string consist of characters that
stand between strings. -/
theorem keys_of_inside {text : List Char} {last : Mode}
    (runs : Mode.inside.run text = some last) {depth : Nat} {fields : List (Chars × Value F)}
    (loaded : loads depth text = .ok (.obj fields)) :
    ∀ field ∈ fields, ∃ chars, field.1 = some chars ∧
      ∀ char ∈ chars, char ∈ structureAlphabet := by
  intro field among
  obtain ⟨units, isKey, chars, rfl, alphabet⟩ :=
    (tracks_inside.of_loads loaded ⟨last, runs⟩).2 fields rfl field among
  exact ⟨chars, isKey.trans (joinSurrogates_map chars), alphabet⟩

theorem Mode.run_spaces {mode last : Mode} (notEscaped : mode ≠ .escaped) {spaces text : List Char}
    (blank : ∀ char ∈ spaces, Text.isSpace char = true)
    (runs : mode.run (spaces ++ text) = some last) : mode.run text = some last := by
  induction spaces with
  | nil => exact runs
  | cons char spaces ih =>
      have plain : char ≠ '"' ∧ char ≠ '\\' := by
        constructor <;> rintro rfl <;> exact absurd (blank _ (.head _)) (by decide)
      have stays : mode.next char = mode := by
        cases mode with
        | outside => rw [next, if_neg plain.1]
        | inside => rw [next, if_neg plain.1, if_neg plain.2]
        | escaped => exact absurd rfl notEscaped
      rw [List.cons_append, run_cons_eq_some, stays] at runs
      exact ih (fun other member => blank other (.tail _ member)) runs.2

/-- Stripping a piece does not bring it out of a string. -/
theorem Mode.run_strip {mode last : Mode} (notEscaped : mode ≠ .escaped) {text : List Char}
    (runs : mode.run text = some last) :
    ∃ other, mode.run (Text.strip text) = some other ∧ (last ≠ .outside → other ≠ .outside) := by
  obtain ⟨left, right, parts, leftBlank, rightBlank⟩ := @Text.exists_stripBy Text.isSpace text
  rw [parts] at runs
  obtain ⟨other, middle, after⟩ := run_append_eq_some.mp (run_spaces notEscaped leftBlank runs)
  refine ⟨other, middle, fun notOutside isOutside => notOutside ?_⟩
  have rest :=
    run_spaces (isOutside ▸ Mode.noConfusion) rightBlank ((List.append_nil right).symm ▸ after)
  exact (Option.some.inj rest).symm.trans isOutside

/-- Lines are broken within strings only. -/
theorem Mode.inside_of_isLineBreak {mode : Mode} {char : Char}
    (accepts : mode.accepts char = true) (breaks : Text.isLineBreak char = true) :
    mode = .inside := by
  have structure_ : ∀ char ∈ structureAlphabet, Text.isLineBreak char = false := by decide
  have letters : ∀ char ∈ escapeLetters, Text.isLineBreak char = false := by decide
  cases mode with
  | outside => cases breaks.symm.trans (structure_ char (of_decide_eq_true accepts))
  | inside => rfl
  | escaped => cases breaks.symm.trans (letters char (of_decide_eq_true accepts))

/-- No piece of a written text that is broken is read as an object with other keys. -/
theorem keys_of_piece {depth : Nat} {data : Value F} {text : List Char}
    (dumped : dumps depth data = some text) (broken : ¬Text.OneLine text) {piece : List Char}
    (among : piece ∈ Text.splitLines text) {limit : Nat} {fields : List (Chars × Value F)}
    (loaded : loads limit (Text.strip piece) = .ok (.obj fields)) :
    ∀ field ∈ fields, ∃ chars, field.1 = some chars ∧
      ∀ char ∈ chars, char ∈ structureAlphabet := by
  have runs := Mode.run_dumps dumped
  have noReturn : '\r' ∉ text := fun member =>
    absurd (Mode.printed_of_run runs _ member) (by decide)
  obtain ⟨isOne, before, after, rfl, last, first⟩ := Text.exists_of_mem_splitLines noReturn among
  obtain ⟨start, isBefore, rest⟩ := Mode.run_append_eq_some.mp runs
  obtain ⟨stop, isPiece, isAfter⟩ := Mode.run_append_eq_some.mp rest
  rcases List.eq_nil_or_concat' before with rfl | ⟨front, break_, rfl⟩
  · cases isBefore
    cases after with
    | nil => exact absurd (by simpa using isOne) broken
    | cons break_ after =>
        have inside := Mode.inside_of_isLineBreak (Mode.run_cons_eq_some.mp isAfter).1
          (first break_ rfl)
        obtain ⟨other, stripped, cut⟩ := Mode.run_strip (by decide) isPiece
        exact absurd loaded (loads_ne_ok_of_cut stripped (cut (by rw [inside]; decide)) _ _)
  · obtain ⟨middle, -, isBreak⟩ := Mode.run_append_eq_some.mp isBefore
    have accepts := Mode.run_cons_eq_some.mp isBreak
    have breaks := last break_ (by simp)
    have isInside : start = .inside := by
      have plain : break_ ≠ '"' ∧ break_ ≠ '\\' := by
        constructor <;> rintro rfl <;> exact absurd breaks (by decide)
      have next := Option.some.inj accepts.2
      rw [Mode.inside_of_isLineBreak accepts.1 breaks, Mode.next, if_neg plain.1,
        if_neg plain.2] at next
      exact next.symm
    subst isInside
    obtain ⟨other, stripped, -⟩ := Mode.run_strip (by decide) isPiece
    exact keys_of_inside stripped loaded

end PresenceLogger.Library.JsonCodec
