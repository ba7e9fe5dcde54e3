import Mathlib.Data.List.Lex
import PresenceLogger.Library.Calendar

/-!
# The order of ISO texts

The text of a `datetime` in UTC compares as the time does: every field has a fixed width,
and a fraction that is left out compares as zero does, because `+` comes before `.`.
-/

namespace PresenceLogger.Library.Instant

/-! ## Lists that compare by a common width -/

section Lex

variable {α : Type*} [LT α] {left right : List α}

theorem append_lt_of_lt (lt : left < right) (sameLength : left.length = right.length)
    (more rest : List α) : left ++ more < right ++ rest := by
  induction lt with
  | nil => cases sameLength
  | rel first => exact .rel first
  | cons _ ih => exact .cons (ih (by simpa using sameLength))

theorem append_lt_append (common : List α) (lt : left < right) :
    common ++ left < common ++ right :=
  List.Lex.append_left _ lt common

theorem cons_lt_cons {first second : α}
    (lt : first < second ∨ first = second ∧ left < right) : first :: left < second :: right := by
  rcases lt with first | ⟨rfl, rest⟩
  · exact .rel first
  · exact .cons rest

end Lex

/-! ## Padded numbers -/

/-- The digits of `f"{n:0{width}d}"` for a number of at most that many digits. -/
def digits : Nat → Nat → List Char
  | 0, _ => []
  | width + 1, n => digits width (n / 10) ++ [(n % 10).digitChar]

@[simp] theorem length_digits (width n : Nat) : (digits width n).length = width := by
  induction width generalizing n with
  | zero => rfl
  | succ width ih => simp [digits, ih]

theorem digits_zero (width : Nat) : digits width 0 = List.replicate width '0' := by
  induction width with
  | zero => rfl
  | succ width ih => simp [digits, ih, List.replicate_succ', Nat.digitChar]

/-- A number written out is its digits behind zeros. -/
theorem digits_eq {width n : Nat} (positive : 0 < width) (small : n < 10 ^ width) :
    digits width n =
      List.replicate (width - (Nat.toDigits 10 n).length) '0' ++ Nat.toDigits 10 n := by
  induction width generalizing n with
  | zero => cases positive
  | succ width ih =>
      by_cases single : n < 10
      · rw [Nat.toDigits_of_lt_base single, digits, Nat.div_eq_of_lt single,
          Nat.mod_eq_of_lt single, digits_zero]
        simp
      · have wide : 0 < width := by
          rcases Nat.eq_zero_or_pos width with rfl | wide
          · omega
          · exact wide
        have smaller : n / 10 < 10 ^ width := by
          rw [Nat.pow_succ] at small
          omega
        have whole : Nat.toDigits 10 n = Nat.toDigits 10 (n / 10) ++ [(n % 10).digitChar] :=
          Nat.toDigits_of_base_le (by decide) (by omega)
        rw [digits, ih wide smaller, whole]
        simp

theorem toList_padded {width n : Nat} (positive : 0 < width) (small : n < 10 ^ width) :
    (padded width (n : Int)).toList = digits width n := by
  have text : toString (n : Int) = n.repr := rfl
  rw [digits_eq positive small, padded, text, ← String.length_toList]
  simp [Nat.toList_repr]

theorem digitChar_lt {m n : Nat} (lt : m < n) (small : n < 10) : m.digitChar < n.digitChar := by
  have all : ∀ n < 10, ∀ m < n, Nat.digitChar m < Nat.digitChar n := by decide
  exact all n small m lt

/-- Digits of one width compare as their numbers. -/
theorem digits_lt {width m n : Nat} (lt : m < n) (small : n < 10 ^ width) :
    digits width m < digits width n := by
  induction width generalizing m n with
  | zero => omega
  | succ width ih =>
      rw [digits, digits]
      rw [Nat.pow_succ] at small
      rcases Nat.lt_or_eq_of_le (Nat.div_le_div_right (c := 10) lt.le) with less | same
      · exact append_lt_of_lt (ih less (by omega)) (by simp) _ _
      · rw [same]
        have lastLess : m % 10 < n % 10 := by omega
        exact append_lt_append _ (.rel (digitChar_lt lastLess (Nat.mod_lt _ (by decide))))

/-! ## The calendar -/

/-- Leap years of the Gregorian calendar. -/
def isLeap (year : Int) : Bool := year % 4 = 0 ∧ (year % 100 ≠ 0 ∨ year % 400 = 0)

/-- The days before a year. -/
def yearStart (year : Int) : Int :=
  (year - 1) * 365 + (year - 1) / 4 - (year - 1) / 100 + (year - 1) / 400

def yearLength (year : Int) : Int := if isLeap year then 366 else 365

/-- Month and day of the day that is `dayOfYear` after January first. -/
def monthDay (leap : Bool) (dayOfYear : Int) : Int × Int :=
  let guess := (dayOfYear + 50) / 32
  let before (month : Int) : Int :=
    daysBeforeMonth.getD (month - 1).toNat 0 + (if 2 < month ∧ leap then 1 else 0)
  if dayOfYear < before guess then
    let month := guess - 1
    let length := daysInMonth.getD (month - 1).toNat 0 + (if month = 2 ∧ leap then 1 else 0)
    (month, dayOfYear - (before guess - length) + 1)
  else (guess, dayOfYear - before guess + 1)

theorem yearStart_succ (year : Int) : yearStart (year + 1) = yearStart year + yearLength year := by
  simp only [yearStart, yearLength, isLeap, decide_eq_true_eq]
  split <;> omega

theorem yearStart_mono {year later : Int} (le : year ≤ later) :
    yearStart year ≤ yearStart later := by
  simp only [yearStart]
  omega

/-- Every day is a day of its year. -/
theorem exists_dayOfYear (days : Int) : ∃ year dayOfYear, days = yearStart year + dayOfYear ∧
    0 ≤ dayOfYear ∧ dayOfYear < yearLength year ∧
      yearMonthDay days = (year, monthDay (isLeap year) dayOfYear) := by
  have days400 : days = 146097 * (days / 146097) + days % 146097 := by omega
  have days100 : days % 146097 = 36524 * (days % 146097 / 36524) + days % 146097 % 36524 := by
    omega
  have days4 : days % 146097 % 36524 = 1461 * (days % 146097 % 36524 / 1461) +
      days % 146097 % 36524 % 1461 := by
    omega
  have days1 : days % 146097 % 36524 % 1461 = 365 * (days % 146097 % 36524 % 1461 / 365) +
      days % 146097 % 36524 % 1461 % 365 := by
    omega
  have bound400 : 0 ≤ days % 146097 ∧ days % 146097 < 146097 := by omega
  have bound100 : 0 ≤ days % 146097 % 36524 ∧ days % 146097 % 36524 < 36524 := by omega
  have bound4 : 0 ≤ days % 146097 % 36524 % 1461 ∧ days % 146097 % 36524 % 1461 < 1461 := by omega
  have bound1 : 0 ≤ days % 146097 % 36524 % 1461 % 365 ∧
      days % 146097 % 36524 % 1461 % 365 < 365 := by
    omega
  simp only [yearMonthDay]
  generalize days % 146097 % 36524 % 1461 % 365 = dayOfYear at *
  generalize days % 146097 % 36524 % 1461 / 365 = n1 at *
  generalize days % 146097 % 36524 % 1461 = in4 at *
  generalize days % 146097 % 36524 / 1461 = n4 at *
  generalize days % 146097 % 36524 = in100 at *
  generalize days % 146097 / 36524 = n100 at *
  generalize days % 146097 = in400 at *
  generalize days / 146097 = n400 at *
  split
  next last =>
    -- The last day of four or of four hundred years.
    refine ⟨n400 * 400 + 1 + n100 * 100 + n4 * 4 + n1 - 1, 365, ?_, by decide, ?_, ?_⟩
    · rcases last with fourth | fourth
      · have by4 : (n400 * 400 + 1 + n100 * 100 + n4 * 4 + n1 - 1 - 1) / 4 =
            n400 * 100 + n100 * 25 + n4 := by
          omega
        have by100 : (n400 * 400 + 1 + n100 * 100 + n4 * 4 + n1 - 1 - 1) / 100 =
            n400 * 4 + n100 := by
          omega
        rw [yearStart, by4, by100]
        omega
      · simp only [yearStart]
        omega
    · have leap : isLeap (n400 * 400 + 1 + n100 * 100 + n4 * 4 + n1 - 1) = true := by
        simp only [isLeap, decide_eq_true_eq]
        omega
      simp [yearLength, leap]
    · have leap : isLeap (n400 * 400 + 1 + n100 * 100 + n4 * 4 + n1 - 1) = true := by
        simp only [isLeap, decide_eq_true_eq]
        omega
      rw [leap]
      rfl
  next inside =>
    have leap : isLeap (n400 * 400 + 1 + n100 * 100 + n4 * 4 + n1) =
        decide (n1 = 3 ∧ (n4 ≠ 24 ∨ n100 = 3)) := by
      simp only [isLeap, decide_eq_decide]
      omega
    refine ⟨n400 * 400 + 1 + n100 * 100 + n4 * 4 + n1, dayOfYear, ?_, bound1.1, ?_, ?_⟩
    · have by4 : (n400 * 400 + 1 + n100 * 100 + n4 * 4 + n1 - 1) / 4 =
          n400 * 100 + n100 * 25 + n4 := by
        omega
      have by100 : (n400 * 400 + 1 + n100 * 100 + n4 * 4 + n1 - 1) / 100 = n400 * 4 + n100 := by
        omega
      rw [yearStart, by4, by100]
      omega
    · rw [yearLength]
      split <;> omega
    · rw [leap, monthDay]
      exact (apply_ite (Prod.mk _) _ _ _).symm

/-- Months and days go on day by day. -/
theorem monthDay_succ : ∀ leap : Bool, ∀ day : Nat, day < 365 →
    (monthDay leap day).1 * 32 + (monthDay leap day).2 <
      (monthDay leap (day + 1 : Nat)).1 * 32 + (monthDay leap (day + 1 : Nat)).2 := by
  decide +kernel

theorem monthDay_bounds : ∀ leap : Bool, ∀ day : Nat, day < (if leap then 366 else 365) →
    1 ≤ (monthDay leap day).1 ∧ (monthDay leap day).1 ≤ 12 ∧ 1 ≤ (monthDay leap day).2 ∧
      (monthDay leap day).2 ≤ 31 := by
  decide +kernel

theorem monthDay_lt {leap : Bool} {day later : Nat} (lt : day < later) (inYear : later < 366) :
    (monthDay leap day).1 * 32 + (monthDay leap day).2 <
      (monthDay leap later).1 * 32 + (monthDay leap later).2 := by
  induction lt with
  | refl => exact monthDay_succ leap day (by omega)
  | @step later _ ih => exact (ih (by omega)).trans (monthDay_succ leap later (by omega))

/-- Month and day of a day of a year. -/
theorem monthDay_bounds_year {year day : Int} (first : 0 ≤ day) (last : day < yearLength year) :
    1 ≤ (monthDay (isLeap year) day).1 ∧ (monthDay (isLeap year) day).1 ≤ 12 ∧
      1 ≤ (monthDay (isLeap year) day).2 ∧ (monthDay (isLeap year) day).2 ≤ 31 := by
  obtain ⟨n, rfl⟩ := Int.eq_ofNat_of_zero_le first
  refine monthDay_bounds (isLeap year) n ?_
  rw [yearLength] at last
  split at last <;> simp_all

/-- A later day has a later year, or the same year and a later month, or the same month and
a later day. -/
theorem yearMonthDay_lt {days later : Int} (lt : days < later) :
    (yearMonthDay days).1 < (yearMonthDay later).1 ∨
      (yearMonthDay days).1 = (yearMonthDay later).1 ∧
        ((yearMonthDay days).2.1 < (yearMonthDay later).2.1 ∨
          (yearMonthDay days).2.1 = (yearMonthDay later).2.1 ∧
            (yearMonthDay days).2.2 < (yearMonthDay later).2.2) := by
  obtain ⟨year, day, isDays, first, last, isDate⟩ := exists_dayOfYear days
  obtain ⟨laterYear, laterDay, isLater, laterFirst, laterLast, isLaterDate⟩ :=
    exists_dayOfYear later
  rw [isDate, isLaterDate]
  rcases lt_trichotomy year laterYear with earlier | same | reversed
  · exact .inl earlier
  · subst same
    have bounds := monthDay_bounds_year first last
    have laterBounds := monthDay_bounds_year laterFirst laterLast
    obtain ⟨n, rfl⟩ := Int.eq_ofNat_of_zero_le first
    obtain ⟨m, rfl⟩ := Int.eq_ofNat_of_zero_le laterFirst
    have inYear : m < 366 := by
      rw [yearLength] at laterLast
      split at laterLast <;> omega
    have codes := @monthDay_lt (isLeap year) n m (by omega) inYear
    right
    refine ⟨rfl, ?_⟩
    simp only
    omega
  · have next := yearStart_mono (show laterYear + 1 ≤ year by omega)
    rw [yearStart_succ] at next
    omega

/-- The bounds of a date from the year 1 to the year 9999. -/
theorem yearMonthDay_bounds {days : Int} (first : 0 ≤ days) (last : days < maxOrdinal) :
    (1 ≤ (yearMonthDay days).1 ∧ (yearMonthDay days).1 ≤ 9999) ∧
      1 ≤ (yearMonthDay days).2.1 ∧ (yearMonthDay days).2.1 ≤ 12 ∧
        1 ≤ (yearMonthDay days).2.2 ∧ (yearMonthDay days).2.2 ≤ 31 := by
  obtain ⟨year, day, isDays, dayFirst, dayLast, isDate⟩ := exists_dayOfYear days
  have start : yearStart 1 = 0 := by decide
  have finish : yearStart 10000 = maxOrdinal := by decide
  rw [isDate]
  refine ⟨⟨?_, ?_⟩, monthDay_bounds_year dayFirst dayLast⟩
  · by_contra early
    have next := yearStart_mono (show year + 1 ≤ 1 by simp only at early; omega)
    rw [yearStart_succ] at next
    omega
  · by_contra late
    have next := yearStart_mono (show 10000 ≤ year by simp only at late; omega)
    omega

/-! ## The order of the texts -/

/-- Fields of two digits, each behind its separator. -/
def twos : List Char → List Nat → List Char
  | separator :: separators, n :: numbers => separator :: (digits 2 n ++ twos separators numbers)
  | _, _ => []

theorem length_twos {separators : List Char} {numbers : List Nat}
    (same : separators.length = numbers.length) :
    (twos separators numbers).length = 3 * numbers.length := by
  induction separators generalizing numbers with
  | nil =>
      cases numbers with
      | nil => rfl
      | cons n numbers => cases same
  | cons separator separators ih =>
      cases numbers with
      | nil => cases same
      | cons n numbers =>
          have rest : (twos separators numbers).length = 3 * numbers.length :=
            ih (by simpa using same)
          simp only [twos, List.length_cons, List.length_append, length_digits, rest]
          omega

theorem twos_lt {separators : List Char} {numbers more : List Nat} (lt : numbers < more)
    (same : separators.length = numbers.length) (sameMore : separators.length = more.length)
    (small : ∀ n ∈ more, n < 100) : twos separators numbers < twos separators more := by
  induction lt generalizing separators with
  | nil =>
      rw [same] at sameMore
      cases sameMore
  | rel first =>
      cases separators with
      | nil => cases same
      | cons separator separators =>
          exact .cons (append_lt_of_lt (digits_lt first (small _ (.head _))) (by simp) _ _)
  | cons _ ih =>
      cases separators with
      | nil => cases same
      | cons separator separators =>
          refine .cons (append_lt_append _ (ih (by simpa using same) (by simpa using sameMore) ?_))
          exact fun n member => small n (.tail _ member)

/-- The numbers of a time of a datetime, down to the seconds. -/
def numbers (instant : Instant) : List Nat :=
  let value := instant.fields 0
  [value.month.toNat, value.day.toNat, value.hour.toNat, value.minute.toNat, value.second.toNat]

/-- The instant is one of a `datetime`, of the years 1 to 9999. -/
def IsDatetime (instant : Instant) : Prop :=
  0 ≤ instant.micros ∧ instant.micros < maxOrdinal * microsPerDay

/-- The text of the seconds. -/
def stamp (instant : Instant) : List Char :=
  digits 4 (instant.fields 0).year.toNat ++ twos ['-', '-', 'T', ':', ':'] instant.numbers

/-- What follows the seconds. -/
def fraction (instant : Instant) : List Char :=
  (if (instant.fields 0).microsecond = 0 then []
    else '.' :: digits 6 (instant.fields 0).microsecond.toNat) ++ "+00:00".toList

theorem toList_padded_of_nonneg {width : Nat} {n : Int} (positive : 0 < width) (nonneg : 0 ≤ n)
    (small : n < 10 ^ width) : (padded width n).toList = digits width n.toNat := by
  obtain ⟨n, rfl⟩ := Int.eq_ofNat_of_zero_le nonneg
  exact toList_padded positive (by exact_mod_cast small)

/-- The fields of a datetime, with their bounds. -/
structure Bounded (value : Fields) : Prop where
  year : 0 ≤ value.year ∧ value.year < 10 ^ 4
  month : 0 ≤ value.month ∧ value.month < 10 ^ 2
  day : 0 ≤ value.day ∧ value.day < 10 ^ 2
  hour : 0 ≤ value.hour ∧ value.hour < 10 ^ 2
  minute : 0 ≤ value.minute ∧ value.minute < 10 ^ 2
  second : 0 ≤ value.second ∧ value.second < 10 ^ 2
  microsecond : 0 ≤ value.microsecond ∧ value.microsecond < 10 ^ 6

theorem IsDatetime.bounded {instant : Instant} (datetime : instant.IsDatetime) :
    Bounded (instant.fields 0) := by
  obtain ⟨first, last⟩ := datetime
  simp only [maxOrdinal, microsPerDay, microsPerSecond] at last
  have date := @yearMonthDay_bounds ((instant.micros + 0) / microsPerDay)
    (by simp only [microsPerDay, microsPerSecond]; omega)
    (by simp only [maxOrdinal, microsPerDay, microsPerSecond]; omega)
  constructor <;> simp only [fields] <;>
    simp only [microsPerDay, microsPerSecond] at date ⊢ <;> omega

theorem toList_isoformat {instant : Instant} (datetime : instant.IsDatetime) :
    instant.isoformat.toList = instant.stamp ++ instant.fraction := by
  have bounded := datetime.bounded
  have seconds : (isoSeconds (instant.fields 0)).toList = instant.stamp := by
    simp only [isoSeconds, String.toList_append,
      toList_padded_of_nonneg (by decide) bounded.year.1 bounded.year.2,
      toList_padded_of_nonneg (by decide) bounded.month.1 bounded.month.2,
      toList_padded_of_nonneg (by decide) bounded.day.1 bounded.day.2,
      toList_padded_of_nonneg (by decide) bounded.hour.1 bounded.hour.2,
      toList_padded_of_nonneg (by decide) bounded.minute.1 bounded.minute.2,
      toList_padded_of_nonneg (by decide) bounded.second.1 bounded.second.2]
    simp [stamp, twos, numbers]
  have part : (if (instant.fields 0).microsecond = 0 then ""
      else "." ++ padded 6 (instant.fields 0).microsecond).toList =
        if (instant.fields 0).microsecond = 0 then []
        else '.' :: digits 6 (instant.fields 0).microsecond.toNat := by
    rw [apply_ite String.toList, String.toList_append,
      toList_padded_of_nonneg (by decide) bounded.microsecond.1 bounded.microsecond.2]
    rfl
  simp only [isoformat, fraction, String.toList_append, seconds, part, List.append_assoc]

@[simp] theorem length_stamp (instant : Instant) : instant.stamp.length = 19 := by
  simp [stamp, length_twos, numbers]

/-- The seconds since the first datetime. -/
def wholeSeconds (instant : Instant) : Int := instant.micros / microsPerSecond

/-- The stamp is a function of the whole seconds. -/
theorem stamp_eq {instant other : Instant} (same : instant.wholeSeconds = other.wholeSeconds) :
    instant.stamp = other.stamp := by
  have days : (instant.micros + 0) / microsPerDay = (other.micros + 0) / microsPerDay := by
    simp only [wholeSeconds, microsPerDay, microsPerSecond] at same ⊢
    omega
  have seconds : (instant.micros + 0) % microsPerDay / microsPerSecond =
      (other.micros + 0) % microsPerDay / microsPerSecond := by
    simp only [wholeSeconds, microsPerDay, microsPerSecond] at same ⊢
    omega
  simp only [stamp, numbers, fields, days, seconds]

/-- Later seconds have a later year, or the same year and later numbers. -/
theorem fields_lt {instant later : Instant} (datetime : instant.IsDatetime)
    (laterDatetime : later.IsDatetime) (lt : instant.wholeSeconds < later.wholeSeconds) :
    (instant.fields 0).year < (later.fields 0).year ∨
      (instant.fields 0).year = (later.fields 0).year ∧ instant.numbers < later.numbers := by
  have bounded := datetime.bounded
  have laterBounded := laterDatetime.bounded
  have month := bounded.month
  have day := bounded.day
  have laterMonth := laterBounded.month
  have laterDay := laterBounded.day
  by_cases sameDay : (instant.micros + 0) / microsPerDay = (later.micros + 0) / microsPerDay
  · right
    have time : (instant.micros + 0) % microsPerDay / microsPerSecond <
        (later.micros + 0) % microsPerDay / microsPerSecond := by
      simp only [wholeSeconds, microsPerDay, microsPerSecond] at lt sameDay ⊢
      omega
    have start : 0 ≤ (instant.micros + 0) % microsPerDay / microsPerSecond := by
      simp only [microsPerDay, microsPerSecond]
      omega
    simp only [numbers, fields, sameDay]
    refine ⟨trivial, .cons (.cons ?_)⟩
    generalize (instant.micros + 0) % microsPerDay / microsPerSecond = seconds at time start
    generalize (later.micros + 0) % microsPerDay / microsPerSecond = laterSeconds at time
    apply cons_lt_cons
    by_cases hours : seconds / 3600 = laterSeconds / 3600
    · right
      refine ⟨by rw [hours], cons_lt_cons ?_⟩
      by_cases minutes : seconds / 60 % 60 = laterSeconds / 60 % 60
      · right
        refine ⟨by rw [minutes], .rel ?_⟩
        omega
      · left
        omega
    · left
      omega
  · have earlier : (instant.micros + 0) / microsPerDay < (later.micros + 0) / microsPerDay := by
      simp only [wholeSeconds, microsPerDay, microsPerSecond] at lt sameDay ⊢
      omega
    rcases yearMonthDay_lt earlier with years | ⟨sameYear, months | ⟨sameMonth, days⟩⟩
    · exact .inl years
    · refine .inr ⟨sameYear, .rel ?_⟩
      simp only [fields] at month laterMonth ⊢
      omega
    · refine .inr ⟨sameYear, cons_lt_cons (.inr ⟨?_, .rel ?_⟩)⟩
      · simp only [fields]
        rw [sameMonth]
      · simp only [fields] at day laterDay ⊢
        omega

/-- Later seconds have a later stamp. -/
theorem stamp_lt {instant later : Instant} (datetime : instant.IsDatetime)
    (laterDatetime : later.IsDatetime) (lt : instant.wholeSeconds < later.wholeSeconds) :
    instant.stamp < later.stamp := by
  have bounded := datetime.bounded
  have laterBounded := laterDatetime.bounded
  have small : ∀ n ∈ later.numbers, n < 100 := by
    have month := laterBounded.month.2
    have day := laterBounded.day.2
    have hour := laterBounded.hour.2
    have minute := laterBounded.minute.2
    have second := laterBounded.second.2
    simp [numbers]
    omega
  rw [stamp, stamp]
  rcases fields_lt datetime laterDatetime lt with years | ⟨sameYear, others⟩
  · have start := bounded.year.1
    have bound := laterBounded.year
    exact append_lt_of_lt (digits_lt (by omega) (by omega)) (by simp) _ _
  · rw [sameYear]
    exact append_lt_append _ (twos_lt others rfl rfl small)

/-- Later fractions of one second compare as their texts. -/
theorem fraction_lt {instant later : Instant} (datetime : instant.IsDatetime)
    (laterDatetime : later.IsDatetime)
    (lt : (instant.fields 0).microsecond < (later.fields 0).microsecond) :
    instant.fraction < later.fraction := by
  have bounded := datetime.bounded.microsecond
  have laterBounded := laterDatetime.bounded.microsecond
  have some : (later.fields 0).microsecond ≠ 0 := by omega
  rw [fraction, fraction, if_neg some]
  split
  · exact .rel (by decide)
  · refine .cons (append_lt_of_lt (digits_lt ?_ ?_) (by simp) _ _)
    · omega
    · omega

theorem isoformat_lt {instant later : Instant} (datetime : instant.IsDatetime)
    (laterDatetime : later.IsDatetime) (lt : instant < later) :
    instant.isoformat < later.isoformat := by
  have micros : instant.micros < later.micros := lt
  change instant.isoformat.toList < later.isoformat.toList
  rw [toList_isoformat datetime, toList_isoformat laterDatetime]
  by_cases seconds : instant.wholeSeconds = later.wholeSeconds
  · rw [stamp_eq seconds]
    apply append_lt_append
    apply fraction_lt datetime laterDatetime
    simp only [wholeSeconds, fields, microsPerDay, microsPerSecond] at seconds ⊢
    omega
  · apply append_lt_of_lt _ (by simp)
    apply stamp_lt datetime laterDatetime
    simp only [wholeSeconds, microsPerSecond] at seconds ⊢
    omega

/-- The text of one datetime is at most that of another exactly when the time is. -/
theorem isoformat_le_iff {instant other : Instant} (datetime : instant.IsDatetime)
    (otherDatetime : other.IsDatetime) : instant.isoformat ≤ other.isoformat ↔ instant ≤ other := by
  constructor
  · intro texts
    by_contra later
    have reversed : other < instant := Int.not_le.mp later
    exact texts (isoformat_lt otherDatetime datetime reversed)
  · intro times
    rcases Int.lt_or_eq_of_le times with earlier | same
    · exact String.not_lt.mp (String.lt_asymm (isoformat_lt datetime otherDatetime earlier))
    · have equal : instant = other := by
        cases instant
        cases other
        simpa using same
      exact equal ▸ String.le_refl _

end PresenceLogger.Library.Instant
