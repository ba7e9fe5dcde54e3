import PresenceLogger.Library.FormData
import PresenceLogger.Library.KeyFile
import PresenceLogger.Library.Text

/-!
# The connection file of a child that is taken

The SSID is written as a string or as a list of bytes, by its characters; the key is
written with escapes.  NetworkManager reads a key file and tells the form of the SSID from
the text alone.
-/

namespace PresenceLogger.Fleet

open Library Library.Text

/-! ## Writing -/

/-- `re.match` of a class of characters between `^` and `$`, so many of them; the dollar
also matches before a final line feed. -/
def matchesAll (allowed : Char → Bool) (counts : Nat → Bool) (text : List Char) : Bool :=
  let body := if text.getLast? = some '\n' then text.dropLast else text
  counts body.length && body.all allowed

/-- `[\x20-\x7e]` -/
def isPrintable (char : Char) : Bool := 0x20 ≤ char.toNat && char.toNat ≤ 0x7e

/-- `[0-9A-Fa-f]` -/
def isHex (char : Char) : Bool :=
  char.isDigit || ('A' ≤ char && char ≤ 'F') || ('a' ≤ char && char ≤ 'f')

/-- `_PRINTABLE.match(text)` -/
def matchesPrintable (text : List Char) : Bool := matchesAll isPrintable (1 ≤ ·) text

/-- `psk_valid` -/
def pskValid (psk : List Char) : Bool :=
  matchesAll isHex (· = 64) psk || (8 ≤ psk.length && psk.length ≤ 63 && matchesPrintable psk)

/-- `nm_escape_psk` -/
def nmEscapePsk (psk : List Char) : List Char :=
  let v := psk.flatMap fun char => if char = '\\' then ['\\', '\\'] else [char]
  let stripped := v.dropWhile (· = ' ')
  (List.replicate (v.length - stripped.length) ['\\', 's']).flatten ++ stripped

/-- `f"{b};"` of each byte -/
def bytesForm (raw : List UInt8) : List Char :=
  raw.flatMap fun byte => Nat.toDigits 10 byte.toNat ++ [';']

/-- `nm_ssid`, with `none` for a `ValueError`. -/
def nmSsid (ssid : List Char) : Option (List Char) :=
  let raw := FormData.bytes ssid
  if ¬(1 ≤ raw.length ∧ raw.length ≤ 32) then none
  else if 0 ∈ raw then none
  else if
      matchesPrintable ssid ∧ '\\' ∉ ssid ∧ ssid.head? ≠ some ' ' ∧ ssid.getLast? ≠ some ' ' then
    some (ssid.flatMap fun char => if char = ';' then ['\\', '\\', ';'] else [char])
  else some (bytesForm raw)

/-- `str(uuid)` -/
def uuidText (uuid : BitVec 128) : List Char :=
  let hex := (List.range 32).map fun i => Nat.digitChar (uuid.toNat / 16 ^ (31 - i) % 16)
  hex.take 8 ++ '-' :: (hex.drop 8).take 4 ++ '-' :: (hex.drop 12).take 4 ++
    '-' :: (hex.drop 16).take 4 ++ '-' :: hex.drop 20

/-- The lines of the connection file. -/
def joinLines (uuid written escaped : List Char) : List (List Char) := [
  "[connection]".toList,
  "id=presence-hub-join".toList,
  "uuid=".toList ++ uuid,
  "type=wifi".toList,
  "autoconnect=true".toList,
  "autoconnect-priority=200".toList,
  "autoconnect-retries=0".toList,
  [],
  "[wifi]".toList,
  "mode=infrastructure".toList,
  "ssid=".toList ++ written,
  [],
  "[wifi-security]".toList,
  "key-mgmt=wpa-psk".toList,
  "psk=".toList ++ escaped,
  [],
  "[ipv4]".toList,
  "method=auto".toList,
  [],
  "[ipv6]".toList,
  "method=ignore".toList]

/-- `nm_join_keyfile`, with the random UUID it takes. -/
def nmJoinKeyfile (uuid : BitVec 128) (ssid psk : List Char) : Option (List Char) :=
  (nmSsid ssid).map fun written =>
    KeyFile.unlines (joinLines (uuidText uuid) written (nmEscapePsk psk))

/-! ## Reading -/

/-- `_BYTES_FORM.match(raw)` -/
def isBytesForm (raw : List Char) : Bool :=
  let body := if raw.getLast? = some '\n' then raw.dropLast else raw
  let fields := body.splitOn ';'
  fields.getLast? = some [] && fields.dropLast ≠ [] && fields.dropLast.all fun field =>
    1 ≤ field.length && field.length ≤ 3 && field.all fun char => (decimalValue char).isSome

/-- A value of `bytes(values)`, with `none` for a `ValueError`. -/
def byteOf (value : Int) : Option UInt8 :=
  if 0 ≤ value ∧ value < 256 then some (UInt8.ofNat value.toNat) else none

/-- `raw.replace("\\;", ";")` -/
def replaceSemicolons : List Char → List Char
  | '\\' :: ';' :: rest => ';' :: replaceSemicolons rest
  | char :: rest => char :: replaceSemicolons rest
  | [] => []

/-- `glib_ssid_bytes` -/
def glibSsidBytes (raw : List Char) : Option (List UInt8) :=
  if isBytesForm raw then
    (((raw.splitOn ';').filter (· ≠ [])).mapM parseInt).bind (·.mapM byteOf)
  else some (FormData.bytes (replaceSemicolons raw))

/-! ## The file is read -/

/-- What may stand in a line. -/
def Inline (text : List Char) : Prop := ∀ char ∈ text, char ≠ '\n' ∧ char ≠ '\r'

instance (text : List Char) : Decidable (Inline text) := List.decidableBAll _ text

theorem Inline.append {left right : List Char} (leftInline : Inline left)
    (rightInline : Inline right) : Inline (left ++ right) :=
  List.forall_mem_append.mpr ⟨leftInline, rightInline⟩

theorem inline_joinLines {uuid written escaped : List Char} (uuidInline : Inline uuid)
    (writtenInline : Inline written) (escapedInline : Inline escaped) :
    ∀ line ∈ joinLines uuid written escaped, Inline line := by
  have uuidLine : Inline ("uuid=".toList ++ uuid) := Inline.append (by decide) uuidInline
  have ssidLine : Inline ("ssid=".toList ++ written) := Inline.append (by decide) writtenInline
  have pskLine : Inline ("psk=".toList ++ escaped) := Inline.append (by decide) escapedInline
  simp only [joinLines, List.forall_mem_cons]
  exact ⟨by decide, by decide, uuidLine, by decide, by decide, by decide, by decide, by decide,
    by decide, by decide, ssidLine, by decide, by decide, by decide, pskLine, by decide,
    by decide, by decide, by decide, by decide, by decide, by simp⟩

/-- The pairs of the connection file. -/
def joinPairs (uuid written escaped : List Char) : List (List Char × List Char × List Char) := [
  ("connection".toList, "id".toList, "presence-hub-join".toList),
  ("connection".toList, "uuid".toList, uuid.dropWhile KeyFile.isBlank),
  ("connection".toList, "type".toList, "wifi".toList),
  ("connection".toList, "autoconnect".toList, "true".toList),
  ("connection".toList, "autoconnect-priority".toList, "200".toList),
  ("connection".toList, "autoconnect-retries".toList, "0".toList),
  ("wifi".toList, "mode".toList, "infrastructure".toList),
  ("wifi".toList, "ssid".toList, written.dropWhile KeyFile.isBlank),
  ("wifi-security".toList, "key-mgmt".toList, "wpa-psk".toList),
  ("wifi-security".toList, "psk".toList, escaped.dropWhile KeyFile.isBlank),
  ("ipv4".toList, "method".toList, "auto".toList),
  ("ipv6".toList, "method".toList, "ignore".toList)]

theorem parseLines_joinLines (uuid written escaped : List Char) :
    KeyFile.parseLines none (joinLines uuid written escaped ++ [[]]) =
      some (joinPairs uuid written escaped) := by
  rfl

/-- What is read of the connection file. -/
theorem getString_joinLines {uuid written escaped : List Char} (uuidInline : Inline uuid)
    (writtenInline : Inline written) (escapedInline : Inline escaped) :
    KeyFile.getString (KeyFile.unlines (joinLines uuid written escaped)) "wifi".toList
        "ssid".toList = KeyFile.unescape (written.dropWhile KeyFile.isBlank) ∧
      KeyFile.getString (KeyFile.unlines (joinLines uuid written escaped)) "wifi-security".toList
        "psk".toList = KeyFile.unescape (escaped.dropWhile KeyFile.isBlank) := by
  have plain : ∀ line ∈ joinLines uuid written escaped,
      '\n' ∉ line ∧ line.getLast? ≠ some '\r' := by
    intro line among
    have inLine := inline_joinLines uuidInline writtenInline escapedInline line among
    exact ⟨fun feed => (inLine _ feed).1 rfl,
      fun last => (inLine _ (List.mem_of_getLast? last)).2 rfl⟩
  have pairs := parseLines_joinLines uuid written escaped
  rw [← KeyFile.fileLines_unlines plain] at pairs
  constructor
  · rw [KeyFile.getString, pairs]
    rfl
  · rw [KeyFile.getString, pairs]
    rfl

theorem inline_uuidText (uuid : BitVec 128) : Inline (uuidText uuid) := by
  have digit : ∀ value < 16, Nat.digitChar value ≠ '\n' ∧ Nat.digitChar value ≠ '\r' := by decide
  have hex : Inline
      ((List.range 32).map fun i => Nat.digitChar (uuid.toNat / 16 ^ (31 - i) % 16)) := by
    intro char among
    obtain ⟨i, -, rfl⟩ := List.mem_map.mp among
    exact digit _ (Nat.mod_lt _ (by decide))
  have part (skip count : Nat) : Inline ((((List.range 32).map fun i =>
      Nat.digitChar (uuid.toNat / 16 ^ (31 - i) % 16)).drop skip).take count) :=
    fun char among => hex char (List.mem_of_mem_drop (List.mem_of_mem_take among))
  have dash {text : List Char} (isInline : Inline text) : Inline ('-' :: text) :=
    List.forall_mem_cons.mpr ⟨by decide, isInline⟩
  have last : Inline (((List.range 32).map fun i =>
      Nat.digitChar (uuid.toNat / 16 ^ (31 - i) % 16)).drop 20) :=
    fun char among => hex char (List.mem_of_mem_drop among)
  exact ((((part 0 8).append (dash (part 8 4))).append (dash (part 12 4))).append
    (dash (part 16 4))).append (dash last)

/-! ## Characters -/

theorem all_of_matchesAll {allowed : Char → Bool} {counts : Nat → Bool} {text : List Char}
    (oneLine : '\n' ∉ text) (isMatch : matchesAll allowed counts text = true) :
    counts text.length = true ∧ ∀ char ∈ text, allowed char = true := by
  have last : text.getLast? ≠ some '\n' := fun last => oneLine (List.mem_of_getLast? last)
  rw [matchesAll, if_neg last, Bool.and_eq_true, List.all_eq_true] at isMatch
  exact isMatch

theorem isBlank_of_isPrintable {char : Char} (printable : isPrintable char = true)
    (notSpace : char ≠ ' ') : KeyFile.isBlank char = false := by
  cases blank : KeyFile.isBlank char with
  | false => rfl
  | true =>
      simp only [KeyFile.isBlank, Bool.or_eq_true, decide_eq_true_eq] at blank
      rcases blank with (((same | same) | same) | same) | same
      · exact absurd same notSpace
      all_goals
        rw [same] at printable
        exact absurd printable (by decide)

theorem inline_of_printable {text : List Char}
    (printable : ∀ char ∈ text, isPrintable char = true) : Inline text := by
  intro char among
  have isPrint := printable char among
  constructor <;>
    · rintro rfl
      exact absurd isPrint (by decide)

/-- Nothing is dropped of a value that does not begin with a blank. -/
theorem dropWhile_isBlank {text : List Char} (printable : ∀ char ∈ text, isPrintable char = true)
    (notSpace : text.head? ≠ some ' ') : text.dropWhile KeyFile.isBlank = text := by
  cases text with
  | nil => rfl
  | cons char text =>
      have blank := isBlank_of_isPrintable (printable char (.head _))
        fun same => notSpace (congrArg some same)
      exact List.dropWhile_cons_of_neg (by simp [blank])

/-! ## The string form -/

/-- A semicolon, as it is once the escapes of the file are undone. -/
def escapeSemicolons (ssid : List Char) : List Char :=
  ssid.flatMap fun char => if char = ';' then ['\\', ';'] else [char]

theorem unescape_string {ssid : List Char} (noSlash : '\\' ∉ ssid) :
    KeyFile.unescape (ssid.flatMap fun char => if char = ';' then ['\\', '\\', ';'] else [char]) =
      some (escapeSemicolons ssid) := by
  induction ssid with
  | nil => rfl
  | cons char ssid ih =>
      have later := ih (List.not_mem_of_not_mem_cons noSlash)
      have notSlash : char ≠ '\\' := fun same => noSlash (same ▸ .head _)
      rw [List.flatMap_cons]
      split
      next same =>
        have first (rest : List Char) : KeyFile.unescape (['\\', '\\', ';'] ++ rest) =
            ((KeyFile.unescape rest).map (';' :: ·)).map ('\\' :: ·) := rfl
        rw [first, later]
        simp [escapeSemicolons, same]
      next other =>
        rw [List.singleton_append, KeyFile.unescape_plain notSlash, later]
        simp [escapeSemicolons, other]

theorem replaceSemicolons_escape {ssid : List Char} (noSlash : '\\' ∉ ssid) :
    replaceSemicolons (escapeSemicolons ssid) = ssid := by
  induction ssid with
  | nil => rfl
  | cons char ssid ih =>
      have later := ih (List.not_mem_of_not_mem_cons noSlash)
      have notSlash : char ≠ '\\' := fun same => noSlash (same ▸ .head _)
      rw [escapeSemicolons, List.flatMap_cons, ← escapeSemicolons]
      split
      next same =>
        have first (rest : List Char) : replaceSemicolons (['\\', ';'] ++ rest) =
            ';' :: replaceSemicolons rest := rfl
        rw [first, later, same]
      next other =>
        rw [List.singleton_append, replaceSemicolons, later]
        intro rest same
        exact absurd same notSlash

/-- The characters of the string form. -/
theorem mem_escapeSemicolons {ssid : List Char} {char : Char}
    (among : char ∈ escapeSemicolons ssid) : char ∈ ssid ∨ char = '\\' := by
  obtain ⟨original, inSsid, written⟩ := List.mem_flatMap.mp among
  split at written
  next same =>
    rcases List.mem_pair.mp written with isChar | isChar
    · exact .inr isChar
    · exact .inl (isChar ▸ same ▸ inSsid)
  next => exact .inl (List.mem_singleton.mp written ▸ inSsid)

/-- The first field of the string form is the whole text or ends in a backslash. -/
theorem isBytesForm_escape {ssid : List Char} (oneLine : '\n' ∉ ssid) :
    isBytesForm (escapeSemicolons ssid) = false := by
  have noFeed : '\n' ∉ escapeSemicolons ssid := fun feed =>
    (mem_escapeSemicolons feed).elim oneLine (by decide)
  have last : (escapeSemicolons ssid).getLast? ≠ some '\n' :=
    fun last => noFeed (List.mem_of_getLast? last)
  rw [isBytesForm, if_neg last]
  by_cases separated : ';' ∈ ssid
  · obtain ⟨before, after, rfl, plain⟩ := List.eq_append_cons_of_mem separated
    have unchanged : escapeSemicolons before = before := by
      have each : ∀ char ∈ before, (if char = ';' then ['\\', ';'] else [char]) = [char] := by
        intro char among
        have other : char ≠ ';' := fun same => plain (same ▸ among)
        exact if_neg other
      rw [escapeSemicolons, List.flatMap_congr each, List.flatMap_singleton']
    have written : escapeSemicolons (before ++ ';' :: after) =
        (before ++ ['\\']) ++ ';' :: escapeSemicolons after := by
      rw [escapeSemicolons, List.flatMap_append, ← escapeSemicolons, unchanged]
      simp [escapeSemicolons]
    have noSeparator : ';' ∉ before ++ ['\\'] := by simpa using plain
    have notDigit : decimalValue '\\' = none := by decide +kernel
    rw [written, List.splitOn_append_cons_self_of_not_mem noSeparator,
      List.dropLast_cons_of_ne_nil (List.splitOn_ne_nil _ _)]
    simp [notDigit]
  · have noSeparator : ';' ∉ escapeSemicolons ssid := by
      intro among
      exact (mem_escapeSemicolons among).elim separated (by decide)
    rw [List.splitOn_eq_singleton noSeparator]
    simp

/-! ## The list of bytes -/

theorem length_toDigits_byte (byte : UInt8) :
    1 ≤ (Nat.toDigits 10 byte.toNat).length ∧ (Nat.toDigits 10 byte.toNat).length ≤ 3 := by
  have small : byte.toNat < 10 ^ 3 := (UInt8.toNat_lt byte).trans (by decide)
  exact ⟨Nat.length_toDigits_pos, (Nat.length_toDigits_le_iff (by decide) (by decide)).mpr small⟩

theorem isDigit_toDigits {byte : UInt8} {char : Char}
    (among : char ∈ Nat.toDigits 10 byte.toNat) : char.isDigit = true :=
  Nat.isDigit_of_mem_toDigits (by decide) (by decide) among

theorem parseInt_toDigits (byte : UInt8) :
    parseInt (Nat.toDigits 10 byte.toNat) = some (byte.toNat : Int) := by
  have read := parseInt_ofInt (byte.toNat : Int)
  have short : (Nat.toDigits 10 byte.toNat).length ≤ maxStrDigits :=
    (length_toDigits_byte byte).2.trans (by decide)
  rwa [ofInt_eq_if, if_pos (Int.natCast_nonneg _), Int.natAbs_natCast, if_pos short] at read

theorem printable_bytesForm (raw : List UInt8) :
    ∀ char ∈ bytesForm raw, char.isDigit = true ∨ char = ';' := by
  intro char among
  obtain ⟨byte, -, inField⟩ := List.mem_flatMap.mp among
  rcases List.mem_append.mp inField with inDigits | isSeparator
  · exact .inl (isDigit_toDigits inDigits)
  · exact .inr (List.mem_singleton.mp isSeparator)

theorem splitOn_bytesForm (raw : List UInt8) :
    (bytesForm raw).splitOn ';' = raw.map (fun byte => Nat.toDigits 10 byte.toNat) ++ [[]] := by
  induction raw with
  | nil => rfl
  | cons byte raw ih =>
      have noSeparator : ';' ∉ Nat.toDigits 10 byte.toNat :=
        fun among => absurd (isDigit_toDigits among) (by decide)
      have first : bytesForm (byte :: raw) =
          Nat.toDigits 10 byte.toNat ++ ';' :: bytesForm raw := by
        simp [bytesForm]
      rw [first, List.splitOn_append_cons_self_of_not_mem noSeparator, ih, List.map_cons,
        List.cons_append]

theorem isBytesForm_bytesForm {raw : List UInt8} (nonempty : raw ≠ []) :
    isBytesForm (bytesForm raw) = true := by
  have last : (bytesForm raw).getLast? ≠ some '\n' := fun last =>
    (printable_bytesForm raw '\n' (List.mem_of_getLast? last)).elim (by decide) (by decide)
  have fields : ∀ byte ∈ raw, (Nat.toDigits 10 byte.toNat).all fun char =>
      (decimalValue char).isSome := by
    intro byte _
    rw [List.all_eq_true]
    intro char among
    rw [decimalValue_of_isDigit (isDigit_toDigits among), Option.isSome_some]
  have long := fun byte : UInt8 => (length_toDigits_byte byte).1
  have short := fun byte : UInt8 => (length_toDigits_byte byte).2
  rw [isBytesForm, if_neg last, splitOn_bytesForm, List.getLast?_concat, List.dropLast_concat]
  simp only [decide_true, Bool.true_and, Bool.and_eq_true, decide_eq_true_eq, List.all_eq_true,
    List.mem_map, forall_exists_index, and_imp, forall_apply_eq_imp_iff₂]
  exact ⟨by simpa using nonempty, fun byte among =>
    ⟨⟨long byte, short byte⟩, List.all_eq_true.mp (fields byte among)⟩⟩

theorem mapM_map_some {α β γ : Type} {body : β → Option γ} {f : α → β} {g : α → γ}
    (each : ∀ item, body (f item) = some (g item)) (items : List α) :
    (items.map f).mapM body = some (items.map g) := by
  induction items with
  | nil => rfl
  | cons item items ih => rw [List.map_cons, List.mapM_cons, each, ih]; rfl

/-- The list of bytes is read back. -/
theorem glibSsidBytes_bytesForm {raw : List UInt8} (nonempty : raw ≠ []) :
    glibSsidBytes (bytesForm raw) = some raw := by
  have kept : (raw.map (fun byte : UInt8 => Nat.toDigits 10 byte.toNat) ++ [[]]).filter (· ≠ []) =
      raw.map fun byte : UInt8 => Nat.toDigits 10 byte.toNat := by
    rw [List.filter_append, List.filter_eq_self.mpr]
    · simp
    · intro field among
      obtain ⟨byte, -, rfl⟩ := List.mem_map.mp among
      exact decide_eq_true (List.ne_nil_of_length_pos (length_toDigits_byte byte).1)
  have inRange (byte : UInt8) : byteOf byte.toNat = some byte := by
    have small := UInt8.toNat_lt byte
    rw [byteOf, if_pos ⟨Int.natCast_nonneg _, by omega⟩, Int.toNat_natCast, UInt8.ofNat_toNat]
  rw [glibSsidBytes, if_pos (isBytesForm_bytesForm nonempty), splitOn_bytesForm, kept,
    mapM_map_some parseInt_toDigits, Option.bind_some, mapM_map_some inRange, List.map_id']

/-! ## The key -/

theorem isPrintable_of_isHex {char : Char} (hex : isHex char = true) : isPrintable char = true := by
  have range {low high : Char} (between : (decide (low ≤ char) && decide (char ≤ high)) = true)
      (lowest : 0x20 ≤ low.toNat) (highest : high.toNat ≤ 0x7e) : isPrintable char = true := by
    rw [Bool.and_eq_true, decide_eq_true_eq, decide_eq_true_eq] at between
    have above : low.toNat ≤ char.toNat := between.1
    have below : char.toNat ≤ high.toNat := between.2
    simpa [isPrintable] using And.intro (lowest.trans above) (below.trans highest)
  rw [isHex, Bool.or_eq_true, Bool.or_eq_true] at hex
  rcases hex with (digit | upper) | lower
  · exact @range '0' '9' digit (by decide) (by decide)
  · exact range upper (by decide) (by decide)
  · exact range lower (by decide) (by decide)

theorem printable_of_pskValid {psk : List Char} (valid : pskValid psk = true)
    (oneLine : '\n' ∉ psk) : ∀ char ∈ psk, isPrintable char = true := by
  rw [pskValid, Bool.or_eq_true] at valid
  rcases valid with hex | text
  · intro char among
    exact isPrintable_of_isHex ((all_of_matchesAll oneLine hex).2 char among)
  · rw [Bool.and_eq_true] at text
    exact (all_of_matchesAll oneLine text.2).2

/-- The blanks that are escaped, and what is left. -/
theorem exists_nmEscapePsk (psk : List Char) : ∃ count rest,
    (psk.flatMap fun char => if char = '\\' then ['\\', '\\'] else [char]) =
        List.replicate count ' ' ++ rest ∧
      rest.head? ≠ some ' ' ∧
      nmEscapePsk psk = (List.replicate count ['\\', 's']).flatten ++ rest := by
  have blanks (text : List Char) : List.replicate (text.takeWhile (· = ' ')).length ' ' =
      text.takeWhile (· = ' ') := by
    refine (List.eq_replicate_of_mem fun char among => ?_).symm
    simpa using List.mem_takeWhile_imp among
  have lengths (text : List Char) : text.length - (text.dropWhile (· = ' ')).length =
      (text.takeWhile (· = ' ')).length := by
    have whole := congrArg List.length (@List.takeWhile_append_dropWhile _ (· = ' ') text)
    rw [List.length_append] at whole
    omega
  refine ⟨_, _, ?_, ?_, congrArg₂ (· ++ ·) (congrArg (fun count =>
    (List.replicate count ['\\', 's']).flatten) (lengths _)) rfl⟩
  · rw [blanks, List.takeWhile_append_dropWhile]
  · intro first
    have kept := @head?_dropWhile (· = ' ') _ _ first
    exact absurd kept (by decide)

/-- A value that the key file gives back as it stands in its line. -/
structure Stands (value : List Char) : Prop where
  printable : ∀ char ∈ value, isPrintable char = true
  notSpace : value.head? ≠ some ' '

theorem stands_nmEscapePsk {psk : List Char} (printable : ∀ char ∈ psk, isPrintable char = true) :
    Stands (nmEscapePsk psk) := by
  obtain ⟨count, rest, doubled, notSpace, written⟩ := exists_nmEscapePsk psk
  have inDoubled : ∀ char ∈ rest, isPrintable char = true := by
    intro char among
    have inText : char ∈ psk.flatMap fun char => if char = '\\' then ['\\', '\\'] else [char] :=
      doubled ▸ List.mem_append_right _ among
    obtain ⟨original, inPsk, isWritten⟩ := List.mem_flatMap.mp inText
    have isOriginal : char = original := by
      split at isWritten
      next same => simpa [same] using isWritten
      next => exact List.mem_singleton.mp isWritten
    exact isOriginal ▸ printable original inPsk
  rw [written]
  constructor
  · intro char among
    rcases List.mem_append.mp among with inBlanks | inRest
    · obtain ⟨pair, inPairs, inPair⟩ := List.mem_flatten.mp inBlanks
      rw [List.eq_of_mem_replicate inPairs] at inPair
      have each : ∀ char ∈ ['\\', 's'], isPrintable char = true := by decide
      exact each char inPair
    · exact inDoubled char inRest
  · cases count with
    | zero => exact notSpace
    | succ count => simp [List.replicate_succ]

theorem unescape_nmEscapePsk (psk : List Char) :
    KeyFile.unescape (nmEscapePsk psk) = some psk := by
  obtain ⟨count, rest, doubled, -, written⟩ := exists_nmEscapePsk psk
  rw [written, KeyFile.unescape_spaces, ← doubled, KeyFile.unescape_doubled]

/-! ## The network -/

/-- The SSID that is written stands in its line, and the reader finds the bytes of the SSID. -/
theorem stands_nmSsid {ssid : List Char} (oneLine : '\n' ∉ ssid) (noNul : 0 ∉ FormData.bytes ssid)
    (lower : 1 ≤ (FormData.bytes ssid).length) (upper : (FormData.bytes ssid).length ≤ 32) :
    ∃ written, nmSsid ssid = some written ∧ Stands written ∧
      (KeyFile.unescape written).bind glibSsidBytes = some (FormData.bytes ssid) := by
  rw [nmSsid, if_neg (not_not_intro ⟨lower, upper⟩), if_neg noNul]
  split
  next plain =>
    obtain ⟨isPrint, noSlash, notFirst, -⟩ := plain
    have printable := (all_of_matchesAll oneLine isPrint).2
    refine ⟨_, rfl, ⟨?_, ?_⟩, ?_⟩
    · intro char among
      obtain ⟨original, inSsid, isWritten⟩ := List.mem_flatMap.mp among
      split at isWritten
      next =>
        have each : ∀ char ∈ ['\\', '\\', ';'], isPrintable char = true := by decide
        exact each char isWritten
      next => exact List.mem_singleton.mp isWritten ▸ printable original inSsid
    · cases ssid with
      | nil => simp
      | cons first ssid =>
          rw [List.flatMap_cons]
          split
          · simp
          · exact notFirst
    · rw [unescape_string noSlash, Option.bind_some, glibSsidBytes,
        if_neg (by simp [isBytesForm_escape oneLine]), replaceSemicolons_escape noSlash]
  next =>
    have nonempty : FormData.bytes ssid ≠ [] := List.ne_nil_of_length_pos lower
    have noSlash : '\\' ∉ bytesForm (FormData.bytes ssid) := fun among =>
      (printable_bytesForm _ _ among).elim (by decide) (by decide)
    refine ⟨_, rfl, ⟨?_, ?_⟩, ?_⟩
    · intro char among
      rcases printable_bytesForm _ _ among with digit | rfl
      · exact isPrintable_of_isHex (by rw [isHex, digit]; rfl)
      · decide
    · intro first
      exact (printable_bytesForm _ _ (List.mem_of_head? first)).elim (by decide) (by decide)
    · rw [KeyFile.unescape_self noSlash, Option.bind_some, glibSsidBytes_bytesForm nonempty]

/-- Whatever network and key a child is given, NetworkManager reads them back. -/
theorem getString_nmJoinKeyfile (uuid : BitVec 128) {ssid psk : List Char}
    (oneLine : '\n' ∉ ssid) (noNul : 0 ∉ FormData.bytes ssid)
    (lower : 1 ≤ (FormData.bytes ssid).length) (upper : (FormData.bytes ssid).length ≤ 32)
    (valid : pskValid psk = true) (pskOneLine : '\n' ∉ psk) :
    ∃ file, nmJoinKeyfile uuid ssid psk = some file ∧
      (KeyFile.getString file "wifi".toList "ssid".toList).bind glibSsidBytes =
        some (FormData.bytes ssid) ∧
      KeyFile.getString file "wifi-security".toList "psk".toList = some psk := by
  obtain ⟨written, isWritten, writtenStands, network⟩ := stands_nmSsid oneLine noNul lower upper
  have pskStands := stands_nmEscapePsk (printable_of_pskValid valid pskOneLine)
  have inFile := getString_joinLines (inline_uuidText uuid)
    (inline_of_printable writtenStands.printable) (inline_of_printable pskStands.printable)
  rw [dropWhile_isBlank writtenStands.printable writtenStands.notSpace,
    dropWhile_isBlank pskStands.printable pskStands.notSpace] at inFile
  refine ⟨_, by rw [nmJoinKeyfile, isWritten, Option.map_some], ?_, ?_⟩
  · rw [inFile.1, network]
  · rw [inFile.2, unescape_nmEscapePsk]

/-- An SSID that looks like a list of bytes, and a key of blanks and backslashes. -/
theorem getString_nmJoinKeyfile_bytes : ∃ file,
    nmJoinKeyfile 7 "49;50;".toList "  \\s \\\\;".toList = some file ∧
      (KeyFile.getString file "wifi".toList "ssid".toList).bind glibSsidBytes =
        some [52, 57, 59, 53, 48, 59] ∧
      KeyFile.getString file "wifi-security".toList "psk".toList = some "  \\s \\\\;".toList :=
  getString_nmJoinKeyfile 7 (by decide) (by decide +kernel) (by decide +kernel)
    (by decide +kernel) (by decide +kernel) (by decide)

end PresenceLogger.Fleet
