import Mathlib.Data.Nat.Bitwise
import Mathlib.Tactic.Ring
import PresenceLogger.Library.Text

/-!
# IPv4 networks

The address a dotted text stands for, the networks an address is in, when two of them share
an address, and how a shell compares networks by masks of its integers of 64 bits.
-/

namespace PresenceLogger.Library.Ipv4

/-! ## Addresses -/

/-- The number that ASCII digits write. -/
def decimal (part : List Char) : Nat := Nat.ofDigitChars 10 part 0

/-- A decimal number of at most 255, which zeros may be written before. -/
def IsOctet (part : List Char) : Prop :=
  part ≠ [] ∧ (∀ char ∈ part, char.isDigit = true) ∧ decimal part ≤ 255

instance (part : List Char) : Decidable (IsOctet part) := inferInstanceAs (Decidable (_ ∧ _))

/-- Four octets between dots. -/
def IsAddress (text : List Char) : Prop :=
  (text.splitOn '.').length = 4 ∧ ∀ part ∈ text.splitOn '.', IsOctet part

instance (text : List Char) : Decidable (IsAddress text) := inferInstanceAs (Decidable (_ ∧ _))

/-- The number of an address. -/
def value (text : List Char) : Nat :=
  (text.splitOn '.').foldl (fun n part => 256 * n + decimal part) 0

theorem exists_octets {text : List Char} (isAddress : IsAddress text) :
    ∃ a b c d, text.splitOn '.' = [a, b, c, d] ∧
      decimal a < 2 ^ 8 ∧ decimal b < 2 ^ 8 ∧ decimal c < 2 ^ 8 ∧ decimal d < 2 ^ 8 ∧
      value text = decimal a * 2 ^ 24 + decimal b * 2 ^ 16 + decimal c * 2 ^ 8 + decimal d := by
  obtain ⟨four, octets⟩ := isAddress
  obtain ⟨a, b, c, d, parts⟩ := List.length_eq_four.mp four
  rw [parts] at octets
  simp only [List.forall_mem_cons] at octets
  obtain ⟨isA, isB, isC, isD, -⟩ := octets
  have small {part : List Char} (octet : IsOctet part) : decimal part < 2 ^ 8 :=
    Nat.lt_succ_of_le octet.2.2
  refine ⟨a, b, c, d, parts, small isA, small isB, small isC, small isD, ?_⟩
  rw [value, parts]
  simp only [List.foldl_cons, List.foldl_nil]
  omega

theorem value_lt {text : List Char} (isAddress : IsAddress text) : value text < 2 ^ 32 := by
  obtain ⟨a, b, c, d, -, smallA, smallB, smallC, smallD, isValue⟩ := exists_octets isAddress
  rw [isValue]
  omega

/-! ## Texts with a prefix -/

/-- `${text%/*}` -/
def beforeSlash (text : List Char) : List Char :=
  if '/' ∈ text then ((text.reverse.dropWhile (· ≠ '/')).drop 1).reverse else text

/-- `${text#*/}` -/
def afterSlash (text : List Char) : List Char :=
  if '/' ∈ text then (text.dropWhile (· ≠ '/')).drop 1 else text

theorem slash_append {address bits : List Char} (addressPlain : '/' ∉ address)
    (bitsPlain : '/' ∉ bits) :
    beforeSlash (address ++ '/' :: bits) = address ∧
      afterSlash (address ++ '/' :: bits) = bits := by
  have among : '/' ∈ address ++ '/' :: bits := by simp
  have skipped {text : List Char} (plain : '/' ∉ text) :
      ∀ char ∈ text, decide (char ≠ '/') = true :=
        fun char inText => decide_eq_true fun same => plain (same ▸ inText)
  have reversed : (address ++ '/' :: bits).reverse = bits.reverse ++ '/' :: address.reverse := by
    simp
  have plainReverse : '/' ∉ bits.reverse := by simpa using bitsPlain
  rw [beforeSlash, afterSlash, if_pos among, if_pos among, reversed,
    List.dropWhile_append_of_pos (skipped plainReverse),
    List.dropWhile_append_of_pos (skipped addressPlain)]
  simp

/-! ## Networks -/

/-- The network of an address with a prefix of so many bits. -/
def InNetwork (address bits other : Nat) : Prop :=
  other < 2 ^ 32 ∧ other / 2 ^ (32 - bits) = address / 2 ^ (32 - bits)

/-- Two networks share an address. -/
def Intersect (left leftBits right rightBits : Nat) : Prop :=
  ∃ other, InNetwork left leftBits other ∧ InNetwork right rightBits other

/-- Addresses of one network are of one wider network. -/
theorem div_eq_of_div_eq {left right low high : Nat} (wider : low ≤ high)
    (same : left / 2 ^ low = right / 2 ^ low) : left / 2 ^ high = right / 2 ^ high := by
  rw [← Nat.add_sub_cancel' wider, pow_add, ← Nat.div_div_eq_div_mul, same,
    Nat.div_div_eq_div_mul]

/-- Networks share an address exactly if the wider one holds both addresses. -/
theorem intersect_iff {left right leftBits rightBits : Nat} (leftSmall : left < 2 ^ 32)
    (rightSmall : right < 2 ^ 32) :
    Intersect left leftBits right rightBits ↔
      left / 2 ^ (32 - min leftBits rightBits) = right / 2 ^ (32 - min leftBits rightBits) := by
  constructor
  · rintro ⟨other, ⟨-, inLeft⟩, -, inRight⟩
    have widerLeft := Nat.sub_le_sub_left (min_le_left leftBits rightBits) 32
    have widerRight := Nat.sub_le_sub_left (min_le_right leftBits rightBits) 32
    exact (div_eq_of_div_eq widerLeft inLeft).symm.trans (div_eq_of_div_eq widerRight inRight)
  · intro same
    rcases le_total leftBits rightBits with leftWider | rightWider
    · rw [min_eq_left leftWider] at same
      exact ⟨right, ⟨rightSmall, same.symm⟩, rightSmall, rfl⟩
    · rw [min_eq_right rightWider] at same
      exact ⟨left, ⟨leftSmall, rfl⟩, leftSmall, same⟩

/-! ## Masks -/

/-- An integer of a shell. -/
abbrev Word := BitVec 64

/-- `l == 0 ? 0 : (0xFFFFFFFF << (32 - l)) & 0xFFFFFFFF` -/
def mask (bits : Word) : Word :=
  if bits = 0 then 0 else ((0xFFFFFFFF : Word) <<< (32 - bits)) &&& 0xFFFFFFFF

theorem toNat_mask {bits : Nat} (small : bits ≤ 32) :
    (mask (BitVec.ofNat 64 bits)).toNat = (2 ^ bits - 1) <<< (32 - bits) := by
  have all : ∀ bits < 33, (mask (BitVec.ofNat 64 bits)).toNat = (2 ^ bits - 1) <<< (32 - bits) := by
    decide +kernel
  exact all bits (Nat.lt_succ_of_le small)

/-- A mask takes the bits it is shifted to. -/
theorem and_shiftLeft (value low bits : Nat) :
    value &&& low <<< bits = ((value >>> bits) &&& low) <<< bits := by
  apply Nat.eq_of_testBit_eq
  intro i
  by_cases within : bits ≤ i
  · simp [Nat.testBit_shiftLeft, Nat.testBit_shiftRight, within]
  · simp [Nat.testBit_shiftLeft, within]

/-- A mask keeps the bits of the network. -/
theorem and_mask {address bits : Nat} (isAddress : address < 2 ^ 32) (small : bits ≤ 32) :
    address &&& (2 ^ bits - 1) <<< (32 - bits) =
      address / 2 ^ (32 - bits) * 2 ^ (32 - bits) := by
  have high : address / 2 ^ (32 - bits) < 2 ^ bits := by
    rw [Nat.div_lt_iff_lt_mul (Nat.two_pow_pos _), ← pow_add, Nat.add_sub_cancel' small]
    exact isAddress
  rw [and_shiftLeft, Nat.and_two_pow_sub_one_eq_mod, Nat.shiftRight_eq_div_pow,
    Nat.mod_eq_of_lt high, Nat.shiftLeft_eq]

/-- Two addresses under a mask are equal exactly if they are of one network. -/
theorem and_mask_eq_iff {left right bits : Nat} (leftSmall : left < 2 ^ 32)
    (rightSmall : right < 2 ^ 32) (small : bits ≤ 32) :
    BitVec.ofNat 64 left &&& mask (BitVec.ofNat 64 bits) =
        BitVec.ofNat 64 right &&& mask (BitVec.ofNat 64 bits) ↔
      left / 2 ^ (32 - bits) = right / 2 ^ (32 - bits) := by
  have masked {address : Nat} (isAddress : address < 2 ^ 32) :
      (BitVec.ofNat 64 address &&& mask (BitVec.ofNat 64 bits)).toNat =
        address / 2 ^ (32 - bits) * 2 ^ (32 - bits) := by
    have fits : address < 2 ^ 64 := isAddress.trans (by decide)
    rw [BitVec.toNat_and, toNat_mask small, BitVec.toNat_ofNat, Nat.mod_eq_of_lt fits,
      and_mask isAddress small]
  rw [← BitVec.toNat_inj, masked leftSmall, masked rightSmall,
    Nat.mul_left_inj (Nat.two_pow_pos _).ne']

/-! ## Octets in a word -/

theorem ofNat_shiftLeft {octet : Nat} (small : octet < 2 ^ 8) (bits : Nat) :
    BitVec.ofNat 64 octet <<< bits = BitVec.ofNat 64 (octet * 2 ^ bits) := by
  have fits : octet < 2 ^ 64 := small.trans (by decide)
  apply BitVec.eq_of_toNat_eq
  rw [BitVec.toNat_shiftLeft, BitVec.toNat_ofNat, BitVec.toNat_ofNat, Nat.mod_eq_of_lt fits,
    Nat.shiftLeft_eq]

/-- Bits below those of a multiple are put to them as they are added. -/
theorem ofNat_or {high low bits : Nat} (below : low < 2 ^ bits) :
    BitVec.ofNat 64 (high * 2 ^ bits) ||| BitVec.ofNat 64 low =
      BitVec.ofNat 64 (high * 2 ^ bits + low) := by
  rw [Nat.mul_comm, Nat.two_pow_add_eq_or_of_lt below, BitVec.ofNat_or]

section Octets

variable {a b c d : Nat} (smallA : a < 2 ^ 8) (smallB : b < 2 ^ 8) (smallC : c < 2 ^ 8)

include smallA smallB smallC

/-- Octets that are shifted and added are the number of the address. -/
theorem add_octets :
    (BitVec.ofNat 64 a <<< 24) + (BitVec.ofNat 64 b <<< 16) + (BitVec.ofNat 64 c <<< 8) +
        BitVec.ofNat 64 d =
      BitVec.ofNat 64 (a * 2 ^ 24 + b * 2 ^ 16 + c * 2 ^ 8 + d) := by
  rw [ofNat_shiftLeft smallA, ofNat_shiftLeft smallB, ofNat_shiftLeft smallC,
    ← BitVec.ofNat_add, ← BitVec.ofNat_add, ← BitVec.ofNat_add]

/-- So are octets that are put together bit by bit. -/
theorem or_octets (smallD : d < 2 ^ 8) :
    (BitVec.ofNat 64 a <<< 24) ||| (BitVec.ofNat 64 b <<< 16) ||| (BitVec.ofNat 64 c <<< 8) |||
        BitVec.ofNat 64 d =
      BitVec.ofNat 64 (a * 2 ^ 24 + b * 2 ^ 16 + c * 2 ^ 8 + d) := by
  have lowB : b * 2 ^ 16 < 2 ^ 8 * 2 ^ 16 := Nat.mul_lt_mul_of_pos_right smallB (by decide)
  have lowC : c * 2 ^ 8 < 2 ^ 8 * 2 ^ 8 := Nat.mul_lt_mul_of_pos_right smallC (by decide)
  have ab := @ofNat_or a (b * 2 ^ 16) 24 lowB
  have abc := @ofNat_or (a * 2 ^ 8 + b) (c * 2 ^ 8) 16 lowC
  have abcd := @ofNat_or (a * 2 ^ 16 + b * 2 ^ 8 + c) d 8 smallD
  have first : a * 2 ^ 24 + b * 2 ^ 16 = (a * 2 ^ 8 + b) * 2 ^ 16 := by ring
  have second : (a * 2 ^ 8 + b) * 2 ^ 16 + c * 2 ^ 8 = (a * 2 ^ 16 + b * 2 ^ 8 + c) * 2 ^ 8 := by
    ring
  rw [ofNat_shiftLeft smallA, ofNat_shiftLeft smallB, ofNat_shiftLeft smallC, ab, first, abc,
    second, abcd]

end Octets

end PresenceLogger.Library.Ipv4
