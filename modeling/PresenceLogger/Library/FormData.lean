import PresenceLogger.Library.Java
import PresenceLogger.Library.Utf8

/-!
# Form data

`urllib.parse.urlencode` writes form data, and `java.net.URLDecoder` reads it.
-/

namespace PresenceLogger.Library.FormData

open Library.Text

/-! ## Writing -/

/-- The bytes of a text. -/
def bytes (text : List Char) : List UInt8 := text.flatMap String.utf8EncodeChar

theorem toByteArray_bytes (text : List Char) : (bytes text).toByteArray = Utf8.encode text :=
  (Utf8.encode_eq text).symm

/-- `_ALWAYS_SAFE` -/
def isAlwaysSafe (char : Char) : Bool :=
  char.isAlphanum || char = '_' || char = '.' || char = '-' || char = '~'

/-- A digit of `%02X`. -/
def hexChar (n : Nat) : Char := (Nat.digitChar n).toUpper

def quoteByte (byte : UInt8) : List Char :=
  if byte = 32 then ['+']
  else if isAlwaysSafe (Char.ofNat byte.toNat) then [Char.ofNat byte.toNat]
  else ['%', hexChar (byte.toNat / 16), hexChar (byte.toNat % 16)]

/-- `quote_plus` -/
def quotePlus (text : List Char) : List Char := (bytes text).flatMap quoteByte

/-- `urlencode` -/
def urlencode (fields : List (List Char × List Char)) : List Char :=
  ['&'].intercalate (fields.map fun field => quotePlus field.1 ++ '=' :: quotePlus field.2)

/-! ## Reading -/

/-- `Character.digit(char, 16)`, which takes the letters in their fullwidth forms too. -/
def hexDigit (char : Char) : Option Nat :=
  let code := char.toNat
  if 0x41 ≤ code ∧ code ≤ 0x46 then some (code - 0x37)
  else if 0x61 ≤ code ∧ code ≤ 0x66 then some (code - 0x57)
  else if 0xff21 ≤ code ∧ code ≤ 0xff26 then some (code - 0xff17)
  else if 0xff41 ≤ code ∧ code ≤ 0xff46 then some (code - 0xff37)
  else Java.digit char

/-- `Integer.parseInt` of the two characters after a `%`, which must not be negative. -/
def hexByte : Char → Char → Option Nat
  | '+', low => hexDigit low
  | '-', low => (hexDigit low).filter fun value => value = 0
  | high, low => do
      let high ← hexDigit high
      let low ← hexDigit low
      return 16 * high + low

section Decode

variable (malformed : List UInt8 → List Char)

/-- `new String(run, UTF_8)`, where `malformed` stands for what it makes of bytes that are
not UTF-8. -/
def decodeBytes (run : List UInt8) : List Char := (Utf8.decode run.toByteArray).getD (malformed run)

/-- `URLDecoder.decode` after a run of escapes with these bytes, with `none` for an
`IllegalArgumentException`. -/
def urlDecodeFrom (run : List UInt8) : List Char → Option (List Char)
  | [] => some (decodeBytes malformed run)
  | '%' :: high :: low :: rest =>
      (hexByte high low).bind fun value => urlDecodeFrom (run ++ [UInt8.ofNat value]) rest
  | '%' :: _ => none
  | char :: rest =>
      (urlDecodeFrom [] rest).map fun text =>
        decodeBytes malformed run ++ (if char = '+' then ' ' else char) :: text

def urlDecode (text : List Char) : Option (List Char) := urlDecodeFrom malformed [] text

/-! ## Reading what was written -/

@[simp] theorem decodeBytes_bytes (text : List Char) :
    decodeBytes malformed (bytes text) = text := by
  rw [decodeBytes, toByteArray_bytes, Utf8.decode_encode, Option.getD_some]

theorem hexDigit_hexChar : ∀ n < 16, hexDigit (hexChar n) = some n := by decide +kernel

theorem hexChar_ne_sign : ∀ n < 16, hexChar n ≠ '+' ∧ hexChar n ≠ '-' := by decide

theorem hexByte_hexChar (byte : UInt8) :
    hexByte (hexChar (byte.toNat / 16)) (hexChar (byte.toNat % 16)) = some byte.toNat := by
  have bound := byte.toNat_lt
  have high : byte.toNat / 16 < 16 := by omega
  have low : byte.toNat % 16 < 16 := by omega
  have unsigned := hexChar_ne_sign _ high
  rw [hexByte.eq_3 _ _ unsigned.1 unsigned.2, hexDigit_hexChar _ high, hexDigit_hexChar _ low]
  exact congrArg some (Nat.div_add_mod _ 16)

/-- An escape adds its byte to the run. -/
theorem urlDecodeFrom_escape {byte : UInt8} (notSpace : byte ≠ 32)
    (quoted : isAlwaysSafe (Char.ofNat byte.toNat) = false) (run : List UInt8)
    (rest : List Char) :
    urlDecodeFrom malformed run (quoteByte byte ++ rest) =
      urlDecodeFrom malformed (run ++ [byte]) rest := by
  rw [quoteByte, if_neg notSpace, if_neg (by simp [quoted])]
  simp only [List.cons_append, List.nil_append]
  rw [urlDecodeFrom, hexByte_hexChar, Option.bind_some, UInt8.ofNat_toNat]

theorem urlDecodeFrom_escapes {escaped : List UInt8}
    (each : ∀ byte ∈ escaped, byte ≠ 32 ∧ isAlwaysSafe (Char.ofNat byte.toNat) = false)
    (run : List UInt8) (rest : List Char) :
    urlDecodeFrom malformed run (escaped.flatMap quoteByte ++ rest) =
      urlDecodeFrom malformed (run ++ escaped) rest := by
  induction escaped generalizing run with
  | nil => rw [List.flatMap_nil, List.nil_append, List.append_nil]
  | cons byte escaped ih =>
      have first := each byte (.head _)
      rw [List.flatMap_cons, List.append_assoc, urlDecodeFrom_escape malformed first.1 first.2,
        ih fun other member => each other (.tail _ member), List.append_assoc]
      rfl

theorem urlDecodeFrom_plain {char : Char} (notEscape : char ≠ '%') (run : List UInt8)
    (rest : List Char) :
    urlDecodeFrom malformed run (char :: rest) =
      (urlDecodeFrom malformed [] rest).map fun text =>
        decodeBytes malformed run ++ (if char = '+' then ' ' else char) :: text := by
  rw [urlDecodeFrom.eq_def]
  split
  next equal => cases equal
  next equal =>
    cases equal
    exact absurd rfl notEscape
  next equal =>
    cases equal
    exact absurd rfl notEscape
  next equal =>
    cases equal
    rfl

theorem bytes_cons (char : Char) (text : List Char) :
    bytes (char :: text) = String.utf8EncodeChar char ++ bytes text := List.flatMap_cons

/-- A character of one byte. -/
theorem utf8EncodeChar_of_lt {char : Char} (ascii : char.toNat < 128) :
    String.utf8EncodeChar char = [UInt8.ofNat char.toNat] := by
  rw [String.utf8EncodeChar, if_pos (show char.val.toNat ≤ 127 from Nat.le_of_lt_succ ascii)]
  rfl

theorem lt_of_isAlwaysSafe {char : Char} (safe : isAlwaysSafe char = true) :
    char.toNat < 128 := by
  simp only [isAlwaysSafe, Bool.or_eq_true, decide_eq_true_eq] at safe
  rcases safe with ((((alphanum | rfl) | rfl) | rfl) | rfl)
  · rcases Bool.or_eq_true_iff.mp alphanum with letter | digit
    · rcases Bool.or_eq_true_iff.mp letter with upper | lower
      · have bound : char.toNat ≤ 90 := (of_decide_eq_true upper).2
        omega
      · have bound : char.toNat ≤ 122 := of_decide_eq_true (Bool.and_eq_true_iff.mp lower).2
        omega
    · have bound : char.toNat ≤ 57 := of_decide_eq_true (Bool.and_eq_true_iff.mp digit).2
      omega
  all_goals decide

/-- The bytes of a longer character lie beyond ASCII. -/
theorem le_of_mem_utf8EncodeChar {char : Char} (notAscii : 128 ≤ char.toNat) {byte : UInt8}
    (member : byte ∈ String.utf8EncodeChar char) : 128 ≤ byte.toNat := by
  have notOne : ¬char.val.toNat ≤ 127 := Nat.not_le.mpr notAscii
  have beyond (n : Nat) (low : 128 ≤ n) (high : n < 256) : 128 ≤ (UInt8.ofNat n).toNat := by
    rw [UInt8.toNat_ofNat', Nat.mod_eq_of_lt high]
    exact low
  simp only [String.utf8EncodeChar, if_neg notOne] at member
  split at member
  · simp only [List.mem_cons, List.not_mem_nil, or_false] at member
    rcases member with rfl | rfl
    all_goals exact beyond _ (by omega) (by omega)
  · split at member
    · simp only [List.mem_cons, List.not_mem_nil, or_false] at member
      rcases member with rfl | rfl | rfl
      all_goals exact beyond _ (by omega) (by omega)
    · simp only [List.mem_cons, List.not_mem_nil, or_false] at member
      rcases member with rfl | rfl | rfl | rfl
      all_goals exact beyond _ (by omega) (by omega)

theorem toNat_charOfByte (byte : UInt8) : (Char.ofNat byte.toNat).toNat = byte.toNat := by
  have bound := byte.toNat_lt
  have valid : byte.toNat.isValidChar := .inl (by omega)
  rw [Char.ofNat, dif_pos valid]
  rfl

/-- The bytes of a longer character are escaped. -/
theorem quoted_of_mem {char : Char} (notAscii : 128 ≤ char.toNat) {byte : UInt8}
    (member : byte ∈ String.utf8EncodeChar char) :
    byte ≠ 32 ∧ isAlwaysSafe (Char.ofNat byte.toNat) = false := by
  have high := le_of_mem_utf8EncodeChar notAscii member
  constructor
  · rintro rfl
    exact absurd high (by decide)
  · by_contra safe
    rw [Bool.not_eq_false] at safe
    have low := lt_of_isAlwaysSafe safe
    rw [toNat_charOfByte] at low
    omega

theorem not_sign_of_isAlwaysSafe {char : Char} (safe : isAlwaysSafe char = true) :
    char ≠ '%' ∧ char ≠ '+' ∧ char ≠ '&' ∧ char ≠ '=' := by
  refine ⟨?_, ?_, ?_, ?_⟩
  all_goals
    rintro rfl
    exact absurd safe (by decide)

/-- What is decoded after a run of escapes is the text of the run and what was written. -/
theorem urlDecodeFrom_quotePlus (before text : List Char) :
    urlDecodeFrom malformed (bytes before) (quotePlus text) = some (before ++ text) := by
  induction text generalizing before with
  | nil =>
      rw [quotePlus, show bytes [] = [] from rfl, List.flatMap_nil, urlDecodeFrom,
        decodeBytes_bytes, List.append_nil]
  | cons char text ih =>
      have written : quotePlus (char :: text) =
          (String.utf8EncodeChar char).flatMap quoteByte ++ quotePlus text := by
        rw [quotePlus, bytes_cons, List.flatMap_append, quotePlus]
      have run : bytes before ++ String.utf8EncodeChar char = bytes (before ++ [char]) := by
        simp [bytes]
      have fresh := ih []
      rw [written]
      by_cases ascii : char.toNat < 128
      · have same : Char.ofNat (UInt8.ofNat char.toNat).toNat = char := by
          rw [UInt8.toNat_ofNat', Nat.mod_eq_of_lt (by omega), Char.ofNat_toNat]
        rw [utf8EncodeChar_of_lt ascii, List.flatMap_singleton]
        by_cases space : UInt8.ofNat char.toNat = 32
        · have isSpace : char = ' ' := by
            rw [← same, space]
            rfl
          rw [quoteByte, if_pos space, List.singleton_append, urlDecodeFrom_plain _ (by decide),
            show ([] : List UInt8) = bytes [] from rfl, fresh, isSpace]
          simp
        · by_cases safe : isAlwaysSafe char = true
          · have sign := not_sign_of_isAlwaysSafe safe
            rw [quoteByte, if_neg space, same, if_pos safe, List.singleton_append,
              urlDecodeFrom_plain _ sign.1, show ([] : List UInt8) = bytes [] from rfl, fresh]
            simp [sign.2.1]
          · have quoted : isAlwaysSafe (Char.ofNat (UInt8.ofNat char.toNat).toNat) = false := by
              rw [same]
              simpa using safe
            rw [urlDecodeFrom_escape malformed space quoted, ← utf8EncodeChar_of_lt ascii, run,
              ih, List.append_assoc]
            rfl
      · have each : ∀ byte ∈ String.utf8EncodeChar char,
            byte ≠ 32 ∧ isAlwaysSafe (Char.ofNat byte.toNat) = false :=
          fun _ member => quoted_of_mem (Nat.not_lt.mp ascii) member
        rw [urlDecodeFrom_escapes malformed each, run, ih, List.append_assoc]
        rfl

/-- What is quoted is read back. -/
theorem urlDecode_quotePlus (text : List Char) :
    urlDecode malformed (quotePlus text) = some text :=
  urlDecodeFrom_quotePlus malformed [] text

end Decode

/-- Nothing that is quoted separates fields. -/
theorem not_separator_of_mem_quotePlus {text : List Char} {char : Char}
    (member : char ∈ quotePlus text) : char ≠ '&' ∧ char ≠ '=' := by
  rcases List.mem_flatMap.mp member with ⟨byte, -, isChar⟩
  rw [quoteByte] at isChar
  split at isChar
  · rw [List.mem_singleton.mp isChar]
    decide
  · split at isChar
    next safe =>
      rw [List.mem_singleton.mp isChar]
      exact (not_sign_of_isAlwaysSafe safe).2.2
    · have digits : ∀ n < 16, hexChar n ≠ '&' ∧ hexChar n ≠ '=' := by decide
      have bound := byte.toNat_lt
      simp only [List.mem_cons, List.not_mem_nil, or_false] at isChar
      rcases isChar with rfl | rfl | rfl
      · decide
      · exact digits _ (by omega)
      · exact digits _ (by omega)

/-- The fields lie between the separators. -/
theorem splitOn_urlencode {fields : List (List Char × List Char)} (nonempty : fields ≠ []) :
    (urlencode fields).splitOn '&' =
      fields.map fun field => quotePlus field.1 ++ '=' :: quotePlus field.2 := by
  apply List.splitOn_intercalate
  · intro pair among
    rcases List.mem_map.mp among with ⟨field, -, rfl⟩
    intro separator
    rcases List.mem_append.mp separator with inKey | inValue
    · exact (not_separator_of_mem_quotePlus inKey).1 rfl
    · rcases List.mem_cons.mp inValue with equals | inValue
      · cases equals
      · exact (not_separator_of_mem_quotePlus inValue).1 rfl
  · simpa using nonempty

end PresenceLogger.Library.FormData
