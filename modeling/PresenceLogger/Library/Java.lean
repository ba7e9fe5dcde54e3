import PresenceLogger.Library.Text
import Mathlib.Algebra.GroupWithZero.Nat
import Mathlib.Algebra.Ring.Int.Defs

/-!
# Java integers and texts

The values of an `int`, how `Integer.parseInt` reads them, and the length of a text.
-/

namespace PresenceLogger.Library.Java

open Library.Text

/-- The values of an `int`. -/
def IsInt (n : Int) : Prop := -(2 ^ 31) ≤ n ∧ n < 2 ^ 31

instance (n : Int) : Decidable (IsInt n) := inferInstanceAs (Decidable (_ ∧ _))

/-- `Character.digit(char, 10)`, which takes one UTF-16 code unit. -/
def digit (char : Char) : Option Nat :=
  if char.toNat < 0x10000 then decimalValue char else none

/-- One or more digits. -/
def parseDigits (text : List Char) : Option Nat :=
  if text = [] then none
  else (text.mapM digit).map fun digits => digits.foldl (fun n digit => 10 * n + digit) 0

/-- A number with or without a sign. -/
def parseSigned : List Char → Option Int
  | '-' :: digits => (parseDigits digits).map fun n : Nat => -(n : Int)
  | '+' :: digits => (parseDigits digits).map fun n : Nat => (n : Int)
  | digits => (parseDigits digits).map fun n : Nat => (n : Int)

/-- `Integer.parseInt`, with `none` for a `NumberFormatException`. -/
def parseInt (text : List Char) : Option Int := (parseSigned text).filter fun n => IsInt n

theorem digit_of_isDigit {char : Char} (isDigit : char.isDigit = true) :
    digit char = some (char.toNat - 48) := by
  rw [digit, if_pos, decimalValue_of_isDigit isDigit]
  simp only [Char.isDigit, Bool.and_eq_true, decide_eq_true_eq] at isDigit
  have high : char.toNat ≤ 57 := isDigit.2
  omega

theorem parseDigits_toDigits (n : Nat) : parseDigits (Nat.toDigits 10 n) = some n := by
  have digits : (Nat.toDigits 10 n).mapM digit =
      some ((Nat.toDigits 10 n).map fun char => char.toNat - 48) := by
    have each : ∀ char ∈ Nat.toDigits 10 n, char.isDigit = true := fun _ member =>
      Nat.isDigit_of_mem_toDigits (by decide) (by decide) member
    generalize Nat.toDigits 10 n = text at each
    induction text with
    | nil => rfl
    | cons char text ih =>
        rw [List.mapM_cons, digit_of_isDigit (each char (.head _)),
          ih fun other member => each other (.tail _ member)]
        rfl
  have value := Nat.ofDigitChars_ten_toDigits (n := n)
  rw [Nat.ofDigitChars_eq_foldl] at value
  rw [parseDigits, if_neg Nat.toDigits_ne_nil, digits, Option.map_some, List.foldl_map]
  exact congrArg some value

/-- What is printed is read again, if it is an `int`. -/
theorem parseInt_ofInt (n : Int) : parseInt (ofInt n) = if IsInt n then some n else none := by
  have digits := parseDigits_toDigits n.natAbs
  have signed : parseSigned (ofInt n) = some n := by
    rw [ofInt_eq_if]
    by_cases natural : 0 ≤ n
    · rw [if_pos natural, parseSigned.eq_def]
      split
      next minus => exact absurd minus (toDigits_ne_cons (by decide) _ _)
      next plus => exact absurd plus (toDigits_ne_cons (by decide) _ _)
      · rw [digits, Option.map_some, Int.natAbs_of_nonneg natural]
    · have negated : -(n.natAbs : Int) = n := by omega
      rw [if_neg natural, parseSigned, digits, Option.map_some, negated]
  rw [parseInt, signed, Option.filter_some]
  by_cases isInt : IsInt n
  · rw [if_pos isInt, if_pos (decide_eq_true isInt)]
  · rw [if_neg isInt, if_neg (by simpa using isInt)]

/-- An `int` is short enough for the interpreter's limit on digits. -/
theorem parseInt_ofInt_of_isInt {n : Int} (isInt : IsInt n) : Text.parseInt (ofInt n) = some n := by
  rw [Text.parseInt_ofInt, if_pos]
  have short : (Nat.toDigits 10 n.natAbs).length ≤ 10 := by
    rw [Nat.length_toDigits_le_iff (by decide) (by decide)]
    rw [IsInt] at isInt
    omega
  exact short.trans (by decide)

/-- `String.length`, in UTF-16 code units. -/
def length (text : List Char) : Nat :=
  (text.map fun char => if char.toNat < 0x10000 then 1 else 2).sum

end PresenceLogger.Library.Java
