import Mathlib.Data.Rat.Floor
import Mathlib.Data.Int.Log
import Mathlib.Tactic.NormNum

/-!
# Python numbers

Integers are unbounded; a float is the rational it stands for.  Rounding to
doubles is applied where a result depends on it (`trueDiv`); a power is taken
exactly and raises where the exact value exceeds the largest double.
-/

namespace PresenceLogger.Library

/-- The built-in exceptions the modelled code raises or catches. -/
inductive PyError where
  | attributeError
  | integrityError
  | interfaceError
  | keyError
  | overflowError
  | recursionError
  | typeError
  | unicodeError
  | valueError
  deriving DecidableEq, Repr

/-- A computation that succeeds has succeeded at its first step. -/
theorem ok_of_bind {α β : Type} {first : Except PyError α} {next : α → Except PyError β}
    {result : β} (succeeds : (first >>= next) = .ok result) :
    ∃ value, first = .ok value ∧ next value = .ok result := by
  cases first with
  | error error => cases succeeds
  | ok value => exact ⟨value, rfl, succeeds⟩

/-- The results of a loop that succeeds are those of its turns. -/
theorem exists_of_mem_mapM {α β : Type} {body : α → Except PyError β} {items : List α}
    {results : List β} (succeeds : items.mapM body = .ok results) {result : β}
    (member : result ∈ results) : ∃ item ∈ items, body item = .ok result := by
  induction items generalizing results with
  | nil =>
      cases succeeds
      exact absurd member List.not_mem_nil
  | cons item items ih =>
      rw [List.mapM_cons] at succeeds
      rcases ok_of_bind succeeds with ⟨first, isFirst, succeeds⟩
      rcases ok_of_bind succeeds with ⟨later, isLater, succeeds⟩
      cases succeeds
      rcases List.mem_cons.mp member with rfl | inLater
      · exact ⟨item, .head _, isFirst⟩
      · rcases ih isLater inLater with ⟨other, among, isResult⟩
        exact ⟨other, .tail _ among, isResult⟩

/-- Nearest integer, ties to even: `round(q)`. -/
def roundHalfEven (q : ℚ) : Int :=
  let below := ⌊q⌋
  let excess := q - below
  if excess < 1 / 2 then below
  else if 1 / 2 < excess then below + 1
  else if below % 2 = 0 then below
  else below + 1

@[simp] theorem roundHalfEven_intCast (n : Int) : roundHalfEven (n : ℚ) = n := by
  simp [roundHalfEven]

theorem floor_le_roundHalfEven (q : ℚ) : ⌊q⌋ ≤ roundHalfEven q := by
  simp only [roundHalfEven]
  split_ifs <;> omega

theorem roundHalfEven_le_floor_add_one (q : ℚ) : roundHalfEven q ≤ ⌊q⌋ + 1 := by
  simp only [roundHalfEven]
  split_ifs <;> omega

/-- Rounding keeps the order. -/
theorem roundHalfEven_mono {p q : ℚ} (le : p ≤ q) : roundHalfEven p ≤ roundHalfEven q := by
  rcases (Int.floor_le_floor le).lt_or_eq with less | same
  · calc roundHalfEven p ≤ ⌊p⌋ + 1 := roundHalfEven_le_floor_add_one p
      _ ≤ ⌊q⌋ := less
      _ ≤ roundHalfEven q := floor_le_roundHalfEven q
  · have excess : p - ⌊q⌋ ≤ q - ⌊q⌋ := sub_le_sub_right le _
    simp only [roundHalfEven, same]
    split_ifs <;> first | omega | (exfalso; linarith)

/-- The double nearest to `q`, ties to even, for `q` within the double range. -/
def nearestDouble (q : ℚ) : ℚ :=
  if q = 0 then 0
  else
    let unit : ℚ := 2 ^ (max (Int.log 2 |q|) (-1022) - 52)
    roundHalfEven (q / unit) * unit

/-- `a / b` of two integers with `b ≠ 0`: the double nearest to the quotient. -/
def trueDiv (a b : Int) : ℚ := nearestDouble ((a : ℚ) / b)

/-- An integer below the precision of a double is one. -/
theorem nearestDouble_intCast {n : Int} (small : |n| < 2 ^ 53) :
    nearestDouble (n : ℚ) = n := by
  by_cases zero : n = 0
  · simp [nearestDouble, zero]
  have positive : (0 : ℚ) < |(n : ℚ)| := by simpa using zero
  have below : Int.log 2 |(n : ℚ)| < 53 := by
    apply (Int.lt_zpow_iff_log_lt (by norm_num) positive).mp
    exact_mod_cast small
  obtain ⟨k, exponent⟩ : ∃ k : ℕ, max (Int.log 2 |(n : ℚ)|) (-1022) - 52 = -(k : ℤ) :=
    ⟨(52 - max (Int.log 2 |(n : ℚ)|) (-1022)).toNat, by omega⟩
  have scaled : (n : ℚ) / 2 ^ (-(k : ℤ)) = ((n * 2 ^ k : Int) : ℚ) := by
    simp
  rw [nearestDouble, if_neg (by exact_mod_cast zero)]
  simp only [exponent, scaled, roundHalfEven_intCast]
  simp

/-- Rounding to a double does not pass an integer below the precision of one. -/
theorem nearestDouble_le {q : ℚ} {n : ℕ} (small : n < 2 ^ 53) (le : q ≤ n) :
    nearestDouble q ≤ n := by
  rw [nearestDouble]
  split
  · exact Nat.cast_nonneg n
  have unitPos : ∀ e : ℤ, (0 : ℚ) < 2 ^ e := fun e => zpow_pos two_pos e
  rcases le_or_gt q 0 with negative | positive
  · have rounded : roundHalfEven (q / 2 ^ (max (Int.log 2 |q|) (-1022) - 52)) ≤ 0 := by
      have below := div_nonpos_of_nonpos_of_nonneg negative
        (unitPos (max (Int.log 2 |q|) (-1022) - 52)).le
      calc _ ≤ roundHalfEven ((0 : Int) : ℚ) := roundHalfEven_mono (by exact_mod_cast below)
        _ = 0 := roundHalfEven_intCast 0
    exact (mul_nonpos_of_nonpos_of_nonneg (by exact_mod_cast rounded) (unitPos _).le).trans
      (Nat.cast_nonneg n)
  · have below : Int.log 2 |q| < 53 := by
      apply (Int.lt_zpow_iff_log_lt (by norm_num) (abs_pos.mpr positive.ne')).mp
      rw [abs_of_pos positive]
      exact le.trans_lt (by exact_mod_cast small)
    obtain ⟨k, exponent⟩ : ∃ k : ℕ, max (Int.log 2 |q|) (-1022) - 52 = -(k : ℤ) :=
      ⟨(52 - max (Int.log 2 |q|) (-1022)).toNat, by omega⟩
    have scaled : (n : ℚ) / 2 ^ (-(k : ℤ)) = ((n * 2 ^ k : Int) : ℚ) := by
      simp
    have rounded : roundHalfEven (q / 2 ^ (-(k : ℤ))) ≤ (n * 2 ^ k : Int) := by
      rw [← roundHalfEven_intCast (n * 2 ^ k), ← scaled]
      exact roundHalfEven_mono (div_le_div_of_nonneg_right le (unitPos _).le)
    dsimp only
    rw [exponent]
    calc (roundHalfEven (q / 2 ^ (-(k : ℤ))) : ℚ) * 2 ^ (-(k : ℤ))
        ≤ ((n * 2 ^ k : Int) : ℚ) * 2 ^ (-(k : ℤ)) :=
          mul_le_mul_of_nonneg_right (by exact_mod_cast rounded) (unitPos _).le
      _ = n := by simp

/-- Dividing a multiple is exact below the precision of a double. -/
theorem trueDiv_mul {quotient divisor : Int} (nonzero : divisor ≠ 0)
    (small : |quotient| < 2 ^ 53) : trueDiv (divisor * quotient) divisor = quotient := by
  have cancel : ((divisor * quotient : Int) : ℚ) / divisor = quotient := by
    push_cast
    exact mul_div_cancel_left₀ _ (by exact_mod_cast nonzero)
  rw [trueDiv, cancel, nearestDouble_intCast small]

/-- `sys.float_info.max` -/
def maxDouble : ℚ := (2 ^ 53 - 1) * 2 ^ 971

/-- A value of type `int` or `float`. -/
inductive Number where
  | int (n : Int)
  | float (q : ℚ)
  deriving DecidableEq, Repr

namespace Number

/-- The rational a number stands for. -/
def value : Number → ℚ
  | .int n => n
  | .float q => q

/-- `float(n)` as arithmetic applies it to an `int` operand. -/
def toFloat : Number → Except PyError ℚ
  | .int n => if |(n : ℚ)| ≤ maxDouble then .ok n else .error .overflowError
  | .float q => .ok q

/-- `base ** exponent` for an exponent that is not negative. -/
def pow (base : Number) (exponent : Nat) : Except PyError Number :=
  match base with
  | .int n => .ok (.int (n ^ exponent))
  | .float q =>
      if |q ^ exponent| ≤ maxDouble then .ok (.float (q ^ exponent))
      else .error .overflowError

/-- `left * right`; the product of two integers is an integer. -/
def mul : Number → Number → Except PyError Number
  | .int m, .int n => .ok (.int (m * n))
  | left, right => do
      let p ← left.toFloat
      let q ← right.toFloat
      return .float (p * q)

/-- `min(left, right)`: the left argument unless the right one is smaller. -/
def min (left right : Number) : Number :=
  if right.value < left.value then right else left

end Number

end PresenceLogger.Library
