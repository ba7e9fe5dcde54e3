import Mathlib.Data.List.Basic

/-!
# UTF-8

Strict decoding of bytes, as Python's and Java's codecs do it on well formed input.
What is read of a file that only grows is a prefix of what is read of it later.
-/

namespace PresenceLogger.Library.Utf8

/-- `bytes.decode("utf-8")`, with `none` for a `UnicodeDecodeError`. -/
def decode (bytes : ByteArray) : Option (List Char) := bytes.utf8Decode?.map Array.toList

/-- `text.encode("utf-8")` -/
def encode (text : List Char) : ByteArray := (String.ofList text).toByteArray

theorem encode_eq (text : List Char) : encode text = text.utf8Encode :=
  String.toByteArray_ofList

@[simp] theorem decode_encode (text : List Char) : decode (encode text) = some text := by
  rw [decode, encode_eq, List.utf8Decode?_utf8Encode]
  rfl

theorem encode_of_decode {bytes : ByteArray} {text : List Char}
    (decoded : decode bytes = some text) : encode text = bytes := by
  rcases Option.map_eq_some_iff.mp decoded with ⟨chars, isChars, rfl⟩
  have isSome : bytes.utf8Decode?.isSome := Option.isSome_of_eq_some isChars
  have same : bytes.utf8Decode?.get isSome = chars := Option.get_of_eq_some isSome isChars
  rw [encode_eq, ← same]
  exact ByteArray.utf8Encode_get_utf8Decode?

/-- Bytes that are appended leave the text before them alone. -/
theorem prefix_of_decode_append {bytes more : ByteArray} {before after : List Char}
    (decodedBefore : decode bytes = some before)
    (decodedAfter : decode (bytes ++ more) = some after) : before <+: after := by
  apply List.isPrefix_of_utf8Encode_append_eq_utf8Encode more
  rw [← encode_eq, ← encode_eq, encode_of_decode decodedBefore, encode_of_decode decodedAfter]

/-- A text that comes after bytes is decoded apart from them. -/
theorem decode_append_encode (bytes : ByteArray) (text : List Char) :
    decode (bytes ++ encode text) = (decode bytes).map (· ++ text) := by
  cases decoded : decode bytes with
  | some before =>
      have whole : bytes ++ encode text = encode (before ++ text) := by
        rw [← encode_of_decode decoded, encode_eq, encode_eq, encode_eq, List.utf8Encode_append]
      rw [whole, decode_encode, Option.map_some]
  | none =>
      cases all : decode (bytes ++ encode text) with
      | none => rfl
      | some chars =>
          have isWhole : (String.ofList chars).toByteArray = bytes ++ encode text :=
            encode_of_decode all
          have size : (String.ofList chars).utf8ByteSize = bytes.size + (encode text).size := by
            rw [← String.size_toByteArray, isWhole, ByteArray.size_append]
          -- the text after the bytes is a text of its own, so a character begins there
          have starts : (⟨bytes.size⟩ : String.Pos.Raw).IsValid (String.ofList chars) := by
            rw [String.Pos.Raw.isValid_iff_isValidUTF8_extract_utf8ByteSize]
            have within : bytes.size ≤ (String.ofList chars).utf8ByteSize :=
              size ▸ Nat.le_add_right _ _
            refine ⟨String.Pos.Raw.le_iff.mpr within, ?_⟩
            rw [isWhole, ByteArray.extract_append_eq_right rfl size]
            exact (String.ofList text).isValidUTF8
          have valid := starts.isValidUTF8_extract_zero
          rw [isWhole, ByteArray.extract_append_eq_left rfl] at valid
          have isSome : (decode bytes).isSome := by
            rw [decode, Option.isSome_map]
            exact ByteArray.isSome_utf8Decode?_iff.mpr valid
          rw [decoded] at isSome
          cases isSome

end PresenceLogger.Library.Utf8
