import Mathlib.Algebra.Order.Archimedean.Basic
import PresenceLogger.Bridge.RecordSender
import PresenceLogger.Bridge.Sender
import PresenceLogger.Detector.Main

/-!
# Retry delays over any outage

`next_retry_at` takes the power before it applies the cap.  With integers the delay is
capped, monotone and total; with a float among the initial delay and the multiplier the
power, or its conversion to a float, overflows for some retry count.
-/

namespace PresenceLogger.EndToEnd

open Library Bridge Detector

/-- `isinstance(number, int)` -/
def IsInt (number : Number) : Prop := ∃ n, number = .int n

/-- A policy within the bounds a deployment may choose. -/
structure Sensible (policy : BackoffPolicy) : Prop where
  initial : 1 ≤ policy.initial.value
  multiplier : 1 < policy.multiplier.value
  initial_le_cap : policy.initial.value ≤ policy.cap.value
  cap : policy.cap.value ≤ 86400

/-- The microseconds of `timedelta(seconds=...)`. -/
def micros (seconds : ℚ) : Int := roundHalfEven (seconds * Instant.microsPerSecond)

/-- `now` and `now + timedelta(seconds=cap)` are datetimes. -/
structure Admits (policy : BackoffPolicy) (now : Instant) : Prop where
  first : 0 ≤ now.micros
  last : now.micros + micros policy.cap.value < Instant.maxOrdinal * Instant.microsPerDay

/-- The delays of a policy, in seconds. -/
structure Delays (policy : BackoffPolicy) (delay : Int → ℚ) : Prop where
  returns : ∀ now attempt, Admits policy now → 1 ≤ attempt →
    nextRetryAt now attempt policy = .ok (now.shift (micros (delay attempt)))
  positive : ∀ attempt, 1 ≤ attempt → 0 < delay attempt
  capped : ∀ attempt, 1 ≤ attempt → delay attempt ≤ policy.cap.value
  monotone : ∀ attempt later, 1 ≤ attempt → attempt ≤ later → delay attempt ≤ delay later
  reachesCap : ∃ start, 1 ≤ start ∧ ∀ attempt, start ≤ attempt → delay attempt = policy.cap.value

/-- The delays are those of a capped backoff, and no retry count makes a caller raise. -/
structure Retries (policy : BackoffPolicy) : Prop where
  delays : ∃ delay, Delays policy delay
  sender : ∀ (deps : SenderDeps) profileName mkDate now event result error,
    deps.backoffPolicy = policy → Admits policy now → 0 ≤ event.retryCount →
    .raise error ∉ deps.settle profileName mkDate now event result
  recordSender : ∀ (deps : RecordSenderDeps) profileName now rec result error,
    deps.backoffPolicy = policy → Admits policy now → 0 ≤ rec.retryCount →
    .raise error ∉ deps.settle profileName now rec result
  detector : ∀ (context : RuntimeContext) buffer now row rows later publish error,
    context.retryPolicy = policy → Admits policy now.wall → 0 ≤ row.retryCount →
    .raised error ∉ (context.resume buffer (.updateRetry now row rows later) publish).emits

/-! ## Delays that are there -/

theorem micros_mono {left right : ℚ} (le : left ≤ right) : micros left ≤ micros right :=
  roundHalfEven_mono (mul_le_mul_of_nonneg_right le (by norm_num [Instant.microsPerSecond]))

theorem micros_nonneg {seconds : ℚ} (nonneg : 0 ≤ seconds) : 0 ≤ micros seconds := by
  have zero : micros 0 = 0 := by
    rw [micros, zero_mul]
    exact_mod_cast roundHalfEven_intCast 0
  exact zero ▸ micros_mono nonneg

theorem micros_day : micros 86400 = Instant.microsPerDay := by
  rw [micros, Instant.microsPerDay]
  exact_mod_cast roundHalfEven_intCast (86400 * Instant.microsPerSecond)

theorem value_min (left right : Number) :
    (left.min right).value = min left.value right.value := by
  rw [Number.min]
  split
  next less => rw [min_eq_right less.le]
  next other => rw [min_eq_left (not_lt.mp other)]

/-- A delay that the policy computes is added to the time. -/
theorem nextRetryAt_of_delay {policy : BackoffPolicy} (sensible : Sensible policy) {now : Instant}
    (admits : Admits policy now) {attempt : Int} (counts : 1 ≤ attempt) {seconds : Number}
    (computed : policy.delay attempt = .ok seconds) (nonneg : 0 ≤ seconds.value)
    (capped : seconds.value ≤ policy.cap.value) :
    nextRetryAt now attempt policy = .ok (now.shift (micros seconds.value)) := by
  have low := micros_nonneg nonneg
  have high : micros seconds.value ≤ micros policy.cap.value := micros_mono capped
  have day : micros seconds.value ≤ Instant.microsPerDay :=
    micros_day ▸ micros_mono (capped.trans sensible.cap)
  have delta : timedeltaSeconds seconds = .ok (micros seconds.value) := by
    rw [timedeltaSeconds, ← micros, if_pos]
    rw [Instant.microsPerDay, Instant.microsPerSecond] at day ⊢
    rw [abs_le]
    omega
  have bounds := admits.last
  have start := admits.first
  rw [nextRetryAt, if_neg (by omega), computed]
  change (do let delta ← timedeltaSeconds seconds; now.add delta) = _
  rw [delta]
  change now.add (micros seconds.value) = _
  rw [Instant.add, if_pos]
  simp only [Instant.shift]
  omega

/-! ## Integers -/

section Integers

variable {initial multiplier : Int} {cap : Number}

/-- The policy of integers; the cap may be a float. -/
def intPolicy (initial multiplier : Int) (cap : Number) : BackoffPolicy :=
  ⟨.int initial, .int multiplier, cap⟩

/-- The exact delay of a policy of integers. -/
def intDelay (initial multiplier : Int) (cap : Number) (attempt : Int) : ℚ :=
  min ((initial * multiplier ^ (attempt - 1).toNat : Int) : ℚ) cap.value

theorem exists_delay_int (attempt : Int) :
    ∃ seconds, (intPolicy initial multiplier cap).delay attempt = .ok seconds ∧
      seconds.value = intDelay initial multiplier cap attempt :=
  ⟨_, rfl, value_min _ _⟩

/-- The delay without the cap grows with the attempts. -/
theorem raw_mono (positive : 1 ≤ initial) (grows : 1 < multiplier) {attempt later : Int}
    (le : attempt ≤ later) :
    initial * multiplier ^ (attempt - 1).toNat ≤ initial * multiplier ^ (later - 1).toNat := by
  have exponents : (attempt - 1).toNat ≤ (later - 1).toNat := by omega
  exact mul_le_mul_of_nonneg_left (pow_le_pow_right₀ grows.le exponents) (by omega)

theorem one_le_raw (positive : 1 ≤ initial) (grows : 1 < multiplier) (attempt : Int) :
    1 ≤ initial * multiplier ^ (attempt - 1).toNat :=
  one_le_mul_of_one_le_of_one_le positive (one_le_pow₀ grows.le)

theorem delays_int (sensible : Sensible (intPolicy initial multiplier cap)) :
    Delays (intPolicy initial multiplier cap) (intDelay initial multiplier cap) := by
  have growsRational : (1 : ℚ) < multiplier := sensible.multiplier
  have positiveRational : (1 : ℚ) ≤ initial := sensible.initial
  have positive : 1 ≤ initial := by exact_mod_cast positiveRational
  have grows : 1 < multiplier := by exact_mod_cast growsRational
  have capPositive : 0 < cap.value :=
    lt_of_lt_of_le one_pos (sensible.initial.trans sensible.initial_le_cap)
  have delayPositive (attempt : Int) : 0 < intDelay initial multiplier cap attempt := by
    have raw := one_le_raw positive grows attempt
    exact lt_min (by exact_mod_cast raw) capPositive
  constructor
  · intro now attempt admits counts
    obtain ⟨seconds, computed, value⟩ :=
      @exists_delay_int initial multiplier cap attempt
    rw [← value]
    apply nextRetryAt_of_delay sensible admits counts computed
    · exact value ▸ (delayPositive attempt).le
    · exact value ▸ min_le_right _ _
  · exact fun attempt _ => delayPositive attempt
  · exact fun attempt _ => min_le_right _ _
  · intro attempt later _ le
    exact min_le_min_right _ (by exact_mod_cast raw_mono positive grows le)
  · obtain ⟨exponent, large⟩ := pow_unbounded_of_one_lt cap.value growsRational
    refine ⟨exponent + 1, by omega, fun attempt past => min_eq_right (large.le.trans ?_)⟩
    have exponents : exponent ≤ (attempt - 1).toNat := by omega
    calc (multiplier : ℚ) ^ exponent ≤ multiplier ^ (attempt - 1).toNat :=
          pow_le_pow_right₀ growsRational.le exponents
      _ ≤ initial * multiplier ^ (attempt - 1).toNat :=
          le_mul_of_one_le_left (pow_nonneg (by linarith) _) positiveRational
      _ = ((initial * multiplier ^ (attempt - 1).toNat : Int) : ℚ) := by push_cast; rfl

end Integers

/-! ## Floats -/

/-- A power of a float overflows from some attempt on. -/
theorem exists_delay_float_multiplier {policy : BackoffPolicy} {q : ℚ}
    (isFloat : policy.multiplier = .float q) (grows : 1 < q) :
    ∃ attempt, 1 ≤ attempt ∧ policy.delay attempt = .error .overflowError := by
  obtain ⟨exponent, large⟩ := pow_unbounded_of_one_lt maxDouble grows
  refine ⟨exponent + 1, by omega, ?_⟩
  have overflows : ¬ |q ^ exponent| ≤ maxDouble := by
    rw [abs_of_pos (pow_pos (one_pos.trans grows) _)]
    exact not_le.mpr large
  have raises : policy.multiplier.pow ((exponent : Int) + 1 - 1).toNat =
      .error .overflowError := by
    rw [isFloat, Int.add_sub_cancel, Int.toNat_natCast, Number.pow, if_neg overflows]
  rw [BackoffPolicy.delay, raises]
  rfl

/-- A power of an integer has no float from some attempt on. -/
theorem exists_delay_float_initial {policy : BackoffPolicy} {p : ℚ} {multiplier : Int}
    (isFloat : policy.initial = .float p) (isInt : policy.multiplier = .int multiplier)
    (grows : 1 < multiplier) :
    ∃ attempt, 1 ≤ attempt ∧ policy.delay attempt = .error .overflowError := by
  have growsRational : (1 : ℚ) < multiplier := by exact_mod_cast grows
  obtain ⟨exponent, large⟩ := pow_unbounded_of_one_lt maxDouble growsRational
  refine ⟨exponent + 1, by omega, ?_⟩
  have overflows : ¬ |((multiplier ^ exponent : Int) : ℚ)| ≤ maxDouble := by
    rw [Int.cast_pow, abs_of_pos (pow_pos (one_pos.trans growsRational) _)]
    exact not_le.mpr large
  have power : policy.multiplier.pow ((exponent : Int) + 1 - 1).toNat =
      .ok (.int (multiplier ^ exponent)) := by
    simp [isInt, Number.pow]
  rw [BackoffPolicy.delay, power, isFloat]
  change (do let raw ← Number.mul (.float p) (.int (multiplier ^ exponent))
             return raw.min policy.cap) = _
  have raises : Number.mul (.float p) (.int (multiplier ^ exponent)) = .error .overflowError := by
    change (do
      let q ← Number.toFloat (.int (multiplier ^ exponent)); return Number.float (p * q)) = _
    rw [Number.toFloat, if_neg overflows]
    rfl
  rw [raises]
  rfl

/-- Without two integers some attempt has no delay. -/
theorem exists_delay_error {policy : BackoffPolicy} (sensible : Sensible policy)
    (float : ¬ (IsInt policy.initial ∧ IsInt policy.multiplier)) :
    ∃ attempt, 1 ≤ attempt ∧ policy.delay attempt = .error .overflowError := by
  have grows := sensible.multiplier
  cases isMultiplier : policy.multiplier with
  | float q =>
      rw [isMultiplier] at grows
      exact exists_delay_float_multiplier isMultiplier grows
  | int multiplier =>
      cases isInitial : policy.initial with
      | int initial => exact absurd ⟨⟨initial, isInitial⟩, ⟨multiplier, isMultiplier⟩⟩ float
      | float p =>
          rw [isMultiplier] at grows
          have growsRational : (1 : ℚ) < multiplier := grows
          exact exists_delay_float_initial isInitial isMultiplier (by exact_mod_cast growsRational)

/-! ## The callers -/

theorem retries_of_delays {policy : BackoffPolicy} {delay : Int → ℚ}
    (delays : Delays policy delay) : Retries policy where
  delays := ⟨delay, delays⟩
  sender := by
    rintro deps profileName mkDate now event result error rfl admits counts member
    have next := delays.returns now (event.retryCount + 1) admits (by omega)
    unfold SenderDeps.settle at member
    rw [next] at member
    split at member <;> simp at member
  recordSender := by
    rintro deps profileName now rec result error rfl admits counts member
    have next := delays.returns now (rec.retryCount + 1) admits (by omega)
    unfold RecordSenderDeps.settle at member
    rw [next] at member
    split at member <;> simp at member
  detector := by
    rintro context buffer now row rows later publish error rfl admits counts member
    have next := delays.returns now.wall (row.retryCount + 1) admits (by omega)
    unfold RuntimeContext.resume at member
    simp [next] at member

/-- A policy delays every retry as it should exactly when its initial delay and its
multiplier are integers. -/
theorem retries_iff_int {policy : BackoffPolicy} (sensible : Sensible policy) :
    Retries policy ↔ IsInt policy.initial ∧ IsInt policy.multiplier := by
  constructor
  · rintro ⟨⟨delay, delays⟩, -, -, -⟩
    by_contra float
    obtain ⟨attempt, counts, overflows⟩ := exists_delay_error sensible float
    have admits : Admits policy ⟨0⟩ := by
      refine ⟨le_rfl, ?_⟩
      calc 0 + micros policy.cap.value ≤ Instant.microsPerDay := by
            rw [zero_add, ← micros_day]
            exact micros_mono sensible.cap
        _ < Instant.maxOrdinal * Instant.microsPerDay := by decide
    have returns := delays.returns ⟨0⟩ attempt admits counts
    rw [nextRetryAt, if_neg (by omega), overflows] at returns
    cases returns
  · rintro ⟨⟨initial, isInitial⟩, ⟨multiplier, isMultiplier⟩⟩
    have isPolicy : policy = intPolicy initial multiplier policy.cap := by
      cases policy
      simp_all [intPolicy]
    rw [isPolicy] at sensible ⊢
    exact retries_of_delays (delays_int sensible)

theorem sensible_site : Sensible ⟨.int 5, .int 3, .int 600⟩ := by
  constructor <;> norm_num [Number.value]

theorem retries_iff_int_site :
    Retries ⟨.int 5, .int 3, .int 600⟩ ↔ IsInt (.int 5) ∧ IsInt (.int 3) :=
  retries_iff_int sensible_site

/-- The default policy of the senders. -/
def defaultPolicy : BackoffPolicy := ⟨.float 5, .float 3, .float 600⟩

theorem maxDouble_lt_pow : maxDouble < 3 ^ 647 := by
  have most : (2 : ℚ) ^ 19 ≤ 3 ^ 12 := by norm_num
  have rest : (2 : ℚ) ^ 17 ≤ 3 ^ 11 := by norm_num
  calc maxDouble < 2 ^ 53 * 2 ^ 971 :=
        mul_lt_mul_of_pos_right (by norm_num) (pow_pos two_pos _)
    _ = (2 ^ 19) ^ 53 * 2 ^ 17 := by rw [← pow_add, ← pow_mul, ← pow_add]
    _ ≤ (3 ^ 12) ^ 53 * 3 ^ 11 :=
        mul_le_mul (pow_le_pow_left₀ (by positivity) most 53) rest (by positivity) (by positivity)
    _ = 3 ^ 647 := by rw [← pow_mul, ← pow_add]

/-- The default policy raises at the 648th attempt, which an outage of about four and a half
days reaches. -/
theorem defaultPolicy_overflows :
    Sensible defaultPolicy ∧
      nextRetryAt ⟨0⟩ 648 defaultPolicy = .error .overflowError ∧
      ¬ Retries defaultPolicy := by
  have sensible : Sensible defaultPolicy := by
    constructor <;> norm_num [defaultPolicy, Number.value]
  have overflows : ¬ |(3 : ℚ) ^ 647| ≤ maxDouble := by
    rw [abs_of_pos (pow_pos (by norm_num) _)]
    exact not_le.mpr maxDouble_lt_pow
  have delay : defaultPolicy.delay 648 = .error .overflowError := by
    change (do let factor ← Number.pow (.float 3) 647
               let raw ← Number.mul (.float 5) factor
               return raw.min (.float 600)) = _
    rw [Number.pow, if_neg overflows]
    rfl
  have raises : nextRetryAt ⟨0⟩ 648 defaultPolicy = .error .overflowError := by
    rw [nextRetryAt, if_neg (by omega), delay]
    rfl
  refine ⟨sensible, raises, fun retries => ?_⟩
  obtain ⟨⟨n, isInt⟩, -⟩ := (retries_iff_int sensible).mp retries
  cases isInt

end PresenceLogger.EndToEnd
