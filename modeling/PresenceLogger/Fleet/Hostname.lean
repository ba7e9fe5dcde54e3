import PresenceLogger.Library.Json

/-!
# Host names of children

`hostname` checks the name a new child is to get and suggests one.  The name decides the
child's device id and its MQTT client id, so no two children may share one.
-/

namespace PresenceLogger.Fleet

open Library Library.Text

/-- `_short`; the inventory has names with and without `.local`. -/
def short (name : String) : String :=
  match name.toList.dropSuffix? ".local".toList with
  | some hostname => .ofList hostname
  | none => name

/-- `[a-z0-9]` -/
def isNameChar (char : Char) : Bool := char.isDigit || ('a' ≤ char && char ≤ 'z')

/-- `_VALID_RE` and `_SAFE_HOSTNAME_RE` -/
def isValidName (name : List Char) : Bool :=
  name.head?.any isNameChar && name.getLast?.any isNameChar &&
    name.all fun char => isNameChar char || char == '-'

/-- The reasons of `validate_hostname`. -/
inductive HostnameError where
  | missing
  | tooLong
  | malformed
  | taken (name : String)
  deriving DecidableEq, Repr

def HostnameError.message : HostnameError → String
  | .missing => "ホスト名を入力してください"
  | .tooLong => "ホスト名が長すぎます(63文字まで)"
  | .malformed =>
      "英小文字・数字・ハイフンのみが使えます。先頭と末尾はハイフン以外にしてください"
  | .taken name =>
      "'" ++ name ++ "' は既に使われています。同名だと MQTT の client_id が衝突し、" ++
        "2台が互いの接続を切断し合います"

/-- `len(data)`, with `none` for a `TypeError`. -/
def pyLen : Json → Option Nat
  | .str text => some text.length
  | .surrogates pieces => some ((pieces.map String.length).sum + (pieces.length - 1))
  | .arr items => some items.length
  | .obj fields => some (fields.map Prod.fst).dedup.length
  | .null | .bool _ | .int _ | .float _ => none

/-- `validate_hostname` of a value that need not be a text. -/
def validateHostname (name : Json) (existing : List String) :
    Except PyError (Option HostnameError) :=
  if name.truthy then
    match pyLen name with
    | none => .error .typeError
    | some count =>
        if 63 < count then .ok (some .tooLong)
        else
          match name with
          | .str text =>
              if isValidName text.toList then
                .ok (if text ∈ existing.map short then some (.taken text) else none)
              else .ok (some .malformed)
          | .surrogates _ => .ok (some .malformed)
          | _ => .error .typeError
  else .ok (some .missing)

/-! ## Suggestions -/

/-- `str.lower` on the characters whose lower case is ASCII. -/
def lowerName (text : List Char) : List Char :=
  text.map fun char => if char.toNat = 0x212a then 'k' else char.toLower

/-- `f"{n:03d}"` -/
def threeDigits (n : Nat) : String :=
  let digits := Nat.toDigits 10 n
  .ofList (List.replicate (3 - digits.length) '0' ++ digits)

/-- The hub's part of a suggested name. -/
def hubName (hub : String) : String :=
  let name := short (.ofList (lowerName (strip hub.toList)))
  if isValidName name.toList then name else "child"

def suggestHostname (existing : List String) (hub : String) : String :=
  let hub := hubName hub
  let existing := existing.filter (· ≠ "")
  let names := hub :: existing.map short
  let first := existing.length + 1
  let free := (List.range' first (10000 - first)).find? fun n =>
    let name := hub ++ "-" ++ threeDigits n
    !(name ∈ names || hub ++ "-" ++ toString n ∈ names) && name.length ≤ 63
  match free with
  | some n => hub ++ "-" ++ threeDigits n
  | none => "child-001"

example : suggestHostname ["zero2.local"] "tpc12345" = "tpc12345-002" := by decide +kernel

/-! ## What a suggestion is for -/

/-- The host name of the hub itself. -/
def ownName (hub : String) : String := short (.ofList (lowerName (strip hub.toList)))

/-- A name that a new child can take: it is valid and not an entry's or the hub's. -/
def Usable (name : String) (existing : List String) (hub : String) : Prop :=
  validateHostname (.str name) existing = .ok none ∧ name ≠ hub ∧ name ≠ ownName hub

/-- A number from the count of the entries on whose name fits and is not taken, with zeros or
without. -/
def FreeNumber (existing : List String) (hub : String) (n : Nat) : Prop :=
  (existing.filter (· ≠ "")).length < n ∧ n ≤ 9999 ∧
    hubName hub ++ "-" ++ threeDigits n ∉
      hubName hub :: (existing.filter (· ≠ "")).map short ∧
    hubName hub ++ "-" ++ toString n ∉ hubName hub :: (existing.filter (· ≠ "")).map short ∧
    (hubName hub ++ "-" ++ threeDigits n).length ≤ 63

/-! ### Valid names -/

theorem isValidName_iff {name : List Char} :
    isValidName name = true ↔
      (∃ first ∈ name.head?, isNameChar first = true) ∧
        (∃ last ∈ name.getLast?, isNameChar last = true) ∧
        ∀ char ∈ name, isNameChar char = true ∨ char = '-' := by
  simp [isValidName, and_assoc, Option.any_eq_true]

/-- Name characters may be put behind a valid name and a hyphen. -/
theorem isValidName_append {name rest : List Char} (valid : isValidName name = true)
    (present : rest ≠ []) (nameChars : ∀ char ∈ rest, isNameChar char = true) :
    isValidName (name ++ '-' :: rest) = true := by
  obtain ⟨⟨first, isFirst, nameFirst⟩, -, chars⟩ := isValidName_iff.mp valid
  refine isValidName_iff.mpr ⟨⟨first, ?_, nameFirst⟩, ⟨rest.getLast present, ?_, ?_⟩, ?_⟩
  · rw [List.head?_append, Option.mem_def.mp isFirst]
    rfl
  · have isLast := List.getLast?_eq_some_getLast present
    simp [List.getLast?_append, List.getLast?_cons, isLast]
  · exact nameChars _ (List.getLast_mem present)
  · intro char among
    rcases List.mem_append.mp among with inName | behind
    · exact chars char inName
    · rcases List.mem_cons.mp behind with hyphen | inRest
      · exact .inr hyphen
      · exact .inl (nameChars char inRest)

theorem isValidName_hubName (hub : String) : isValidName (hubName hub).toList = true := by
  rw [hubName]
  split
  next valid => exact valid
  · decide

theorem nameChar_of_mem_threeDigits {n : Nat} {char : Char}
    (among : char ∈ (threeDigits n).toList) : isNameChar char = true := by
  rw [threeDigits, String.toList_ofList, List.mem_append] at among
  rcases among with zero | digit
  · rw [(List.mem_replicate.mp zero).2]
    rfl
  · have isDigit := Nat.isDigit_of_mem_toDigits (by decide) (by decide) digit
    rw [isNameChar, isDigit, Bool.true_or]

theorem threeDigits_ne_nil (n : Nat) : (threeDigits n).toList ≠ [] := by
  rw [threeDigits, String.toList_ofList]
  exact List.append_ne_nil_of_right_ne_nil _ Nat.toDigits_ne_nil

/-- A number may be put behind a valid name. -/
theorem isValidName_numbered (hub : String) (n : Nat) :
    isValidName (hubName hub ++ "-" ++ threeDigits n).toList = true := by
  have isText : (hubName hub ++ "-" ++ threeDigits n).toList =
      (hubName hub).toList ++ '-' :: (threeDigits n).toList := by simp
  rw [isText]
  exact isValidName_append (isValidName_hubName hub) (threeDigits_ne_nil n)
    fun char among => nameChar_of_mem_threeDigits among

/-- `validate_hostname` of a text. -/
theorem validateHostname_eq_none {name : String} {existing : List String} :
    validateHostname (.str name) existing = .ok none ↔
      name.length ≤ 63 ∧ isValidName name.toList = true ∧ name ∉ existing.map short := by
  by_cases missing : name = ""
  · subst missing
    simp [validateHostname, Json.truthy, isValidName]
  · rw [validateHostname, if_pos (by simpa [Json.truthy] using missing)]
    simp only [pyLen]
    by_cases long : 63 < name.length
    · simp [long]
    · by_cases valid : isValidName name.toList = true
      · by_cases taken : name ∈ existing.map short <;>
          simp [long, valid, taken, Nat.le_of_not_lt long]
      · simp [long, valid]

/-! ### The hub's own name -/

/-- The characters of a valid name are neither white space nor upper case. -/
theorem plain_of_nameChar {char : Char} (isName : isNameChar char = true ∨ char = '-') :
    isSpace char = false ∧ (if char.toNat = 0x212a then 'k' else char.toLower) = char ∧
      char ≠ '.' := by
  have all : ∀ n < 123, isNameChar (Char.ofNat n) = true ∨ Char.ofNat n = '-' →
      isSpace (Char.ofNat n) = false ∧
        (if (Char.ofNat n).toNat = 0x212a then 'k' else (Char.ofNat n).toLower) = Char.ofNat n ∧
        Char.ofNat n ≠ '.' := by
    decide +kernel
  have small : char.toNat < 123 := by
    rcases isName with isName | rfl
    · simp only [isNameChar, Bool.or_eq_true, Char.isDigit, Bool.and_eq_true,
        decide_eq_true_eq] at isName
      rcases isName with digit | letter
      · exact Nat.lt_of_le_of_lt digit.2 (by decide)
      · exact Nat.lt_of_le_of_lt letter.2 (by decide)
    · decide
  have known := all char.toNat small
  rw [Char.ofNat_toNat] at known
  exact known isName

theorem short_of_plain {name : String} (plain : '.' ∉ name.toList) : short name = name := by
  rw [short]
  split
  next hostname found =>
    obtain ⟨suffix, isText, isLocal⟩ := List.dropSuffix?_eq_some_iff.mp found
    have dot : '.' ∈ suffix := by
      rw [eq_of_beq isLocal]
      decide
    exact absurd (isText ▸ List.mem_append_right hostname dot) plain
  · rfl

/-- A valid name is a host name as it stands. -/
theorem ownName_of_isValidName {name : String} (valid : isValidName name.toList = true) :
    ownName name = name := by
  have chars := (isValidName_iff.mp valid).2.2
  have trimmed : Trimmed isSpace name.toList :=
    ⟨fun char isFirst => (plain_of_nameChar (chars char (List.mem_of_head? isFirst))).1,
      fun char isLast => (plain_of_nameChar (chars char (List.mem_of_getLast? isLast))).1⟩
  have lower : lowerName name.toList = name.toList :=
    (List.map_congr_left fun char among => (plain_of_nameChar (chars char among)).2.1).trans
      (List.map_id _)
  have plain : '.' ∉ name.toList := fun dot => (plain_of_nameChar (chars '.' dot)).2.2 rfl
  rw [ownName, strip, trimmed.stripBy_eq, lower, String.ofList_toList]
  exact short_of_plain plain

theorem hubName_of_isValidName {hub : String} (valid : isValidName (ownName hub).toList = true) :
    hubName hub = ownName hub := by
  simp only [hubName, ownName] at valid ⊢
  rw [if_pos valid]

/-- A valid name other than the hub's part is not the hub's. -/
theorem ne_ownName {name hub : String} (valid : isValidName name.toList = true)
    (other : name ≠ hubName hub) : name ≠ hub ∧ name ≠ ownName hub := by
  have notOwn : name ≠ ownName hub := by
    intro same
    rw [same] at valid other
    exact other (hubName_of_isValidName valid).symm
  refine ⟨?_, notOwn⟩
  intro same
  rw [← same] at notOwn
  exact notOwn (ownName_of_isValidName valid).symm

/-! ### Suggestions -/

theorem mem_short_filter {name : String} {existing : List String} (present : name ≠ "")
    (among : name ∈ existing.map short) : name ∈ (existing.filter (· ≠ "")).map short := by
  obtain ⟨entry, isEntry, rfl⟩ := List.mem_map.mp among
  refine List.mem_map.mpr ⟨entry, List.mem_filter.mpr ⟨isEntry, decide_eq_true ?_⟩, rfl⟩
  rintro rfl
  exact present (by decide)

/-- A name with a free number is one that a child can take. -/
theorem usable_of_freeNumber {existing : List String} {hub : String} {n : Nat}
    (free : FreeNumber existing hub n) :
    Usable (hubName hub ++ "-" ++ threeDigits n) existing hub := by
  obtain ⟨-, -, notTaken, -, fits⟩ := free
  have valid := isValidName_numbered hub n
  rw [List.mem_cons, not_or] at notTaken
  obtain ⟨notHub, notEntry⟩ := notTaken
  refine ⟨validateHostname_eq_none.mpr ⟨fits, valid, ?_⟩, ne_ownName valid notHub⟩
  intro among
  apply notEntry (mem_short_filter _ among)
  intro empty
  rw [empty] at valid
  cases valid

/-- The first free number is taken, and without one the fixed name is. -/
theorem suggestHostname_cases (existing : List String) (hub : String) :
    (∃ n, FreeNumber existing hub n ∧
      suggestHostname existing hub = hubName hub ++ "-" ++ threeDigits n) ∨
    (∀ n, ¬FreeNumber existing hub n) ∧ suggestHostname existing hub = "child-001" := by
  rw [suggestHostname]
  dsimp only
  split
  next n found =>
    have among := List.mem_range'_1.mp (List.mem_of_find?_eq_some found)
    have free := List.find?_some found
    simp only [Bool.and_eq_true, Bool.not_eq_true', Bool.or_eq_false_iff, decide_eq_true_eq,
      decide_eq_false_iff_not] at free
    obtain ⟨⟨notTaken, notTaken'⟩, fits⟩ := free
    refine .inl ⟨n, ⟨by omega, by omega, notTaken, notTaken', fits⟩, rfl⟩
  next none =>
    refine .inr ⟨?_, rfl⟩
    rintro n ⟨above, below, notTaken, notTaken', fits⟩
    have among : n ∈ List.range' ((existing.filter (· ≠ "")).length + 1)
        (10000 - ((existing.filter (· ≠ "")).length + 1)) :=
      List.mem_range'_1.mpr (by omega)
    apply List.find?_eq_none.mp none n among
    simp only [Bool.and_eq_true, Bool.not_eq_true', Bool.or_eq_false_iff, decide_eq_true_eq,
      decide_eq_false_iff_not]
    exact ⟨⟨notTaken, notTaken'⟩, fits⟩

/-- A suggestion is a name that a child can take exactly if a number is free, or the fixed name
is neither an entry's nor the hub's. -/
theorem usable_suggestHostname_iff (existing : List String) (hub : String) :
    Usable (suggestHostname existing hub) existing hub ↔
      (∃ n, FreeNumber existing hub n) ∨
        "child-001" ∉ existing.map short ∧ ownName hub ≠ "child-001" := by
  rcases suggestHostname_cases existing hub with ⟨n, free, isName⟩ | ⟨none, isName⟩
  · rw [isName]
    exact iff_of_true (usable_of_freeNumber free) (.inl ⟨n, free⟩)
  · have valid : isValidName "child-001".toList = true := by decide
    rw [isName, Usable, validateHostname_eq_none]
    constructor
    · rintro ⟨⟨-, -, notEntry⟩, -, notHub⟩
      exact .inr ⟨notEntry, notHub.symm⟩
    · rintro (⟨n, free⟩ | ⟨notEntry, notHub⟩)
      · exact absurd free (none n)
      · refine ⟨⟨by decide, valid, notEntry⟩, ?_, notHub.symm⟩
        rintro rfl
        exact notHub (ownName_of_isValidName valid)

/-- No number fits behind a long name of the hub. -/
theorem suggestHostname_of_long {existing : List String} {hub : String}
    (long : 60 ≤ (hubName hub).length) : suggestHostname existing hub = "child-001" := by
  rcases suggestHostname_cases existing hub with ⟨n, free, -⟩ | ⟨-, isName⟩
  · have fits := free.2.2.2.2
    have digits : 3 ≤ (threeDigits n).length := by
      simp only [threeDigits, String.length_ofList, List.length_append, List.length_replicate]
      omega
    have dash : "-".length = 1 := rfl
    rw [String.length_append, String.length_append] at fits
    omega
  · exact isName

/-- A hub whose name has sixty characters suggests the name of the child it has. -/
theorem not_usable_longHub :
    let hub := "hub-of-the-eastern-factory-on-the-second-floor-of-building-7"
    ¬Usable (suggestHostname ["child-001.local"] hub) ["child-001.local"] hub := by
  intro hub usable
  have isName : suggestHostname ["child-001.local"] hub = "child-001" :=
    suggestHostname_of_long (by decide +kernel)
  rw [isName] at usable
  exact absurd usable.1 (by decide +kernel)

end PresenceLogger.Fleet
