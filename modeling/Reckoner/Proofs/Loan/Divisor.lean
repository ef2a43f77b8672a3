import Reckoner.Loan.Schedule
import Reckoner.Proofs.Binary64.Values

/-!
# When the annuity formula divides by zero

The annuity formula divides by the growth of a debt less one. A monthly rate other than zero is no
guarantee that the growth is not one: it is added to one first, and a rate that is at most half the
distance from one to the next float is lost in that sum. Every greater rate is kept, and the growth
of a single month is then more than one.

How a power is computed is not known here but for the powers of one, so that a growth of more than
one in a month is more than one in all months is not claimed: the divisor is zero just if the power
is computed as one.
-/

namespace Reckoner

namespace Loan

open Binary64 (HasValue IsRounding IsMagnitude infinity nan signed)

/-- Half of the distance from one to the next float. -/
def halfGap : Float := Binary64.nearest false 1 (Nat.pow 2 53)

theorem hasValue_zero : HasValue (Nat.cast 0) 0 :=
  ⟨false, 0, -1074, by decide, by simp [signed]⟩

theorem hasValue_one : HasValue (Nat.cast 1) 1 :=
  ⟨false, 2 ^ 52, -52, by decide, by norm_num [signed]⟩

theorem hasValue_halfGap : HasValue halfGap (1 / 2 ^ 53) :=
  ⟨false, 2 ^ 52, -105, by decide, by norm_num [signed]⟩

/-- What a yearly rate in percent is divided by. -/
theorem hasValue_monthsInYear_mul :
    HasValue (Nat.cast Conditions.monthsInYear * Nat.cast 100) 1200 :=
  ⟨false, 1200 * 2 ^ 42, -42, by decide, by norm_num [signed]⟩

variable {float : Float} {value : ℚ}

/-! ## Tests for zero -/

theorem beq_zero_iff (float : Float) :
    Arithmetic.beq float (Nat.cast 0) = true ↔ HasValue float 0 := by
  rcases Binary64.hasValue_or_infinity_or_nan float with ⟨value, hasValue⟩ | ⟨negative, rfl⟩ | rfl
  · have isZero_iff : Arithmetic.beq float (Nat.cast 0) = true ↔ value = 0 := by
      simp only [Arithmetic.beq, Arithmetic.le, Bool.and_eq_true, decide_eq_true_iff,
        hasValue.le_iff hasValue_zero, hasValue_zero.le_iff hasValue]
      exact le_antisymm_iff.symm
    rw [isZero_iff]
    constructor
    · rintro rfl
      exact hasValue
    · exact hasValue.unique
  · have notZero : Arithmetic.beq (infinity negative) (Nat.cast 0) = false := by
      cases negative <;> decide
    rw [notZero]
    exact iff_of_false Bool.false_ne_true fun hasValue => hasValue.ne_infinity negative rfl
  · have notZero : Arithmetic.beq nan (Nat.cast 0) = false := by decide
    rw [notZero]
    exact iff_of_false Bool.false_ne_true fun hasValue => hasValue.ne_nan rfl

/-- A growth less one is zero only if the growth is one. -/
theorem beq_sub_one_iff (float : Float) :
    Arithmetic.beq (float - Nat.cast 1) (Nat.cast 0) = true ↔ float = Nat.cast 1 := by
  rcases Binary64.hasValue_or_infinity_or_nan float with ⟨value, hasValue⟩ | ⟨negative, rfl⟩ | rfl
  · rw [beq_zero_iff, hasValue.sub_zero_iff hasValue_one]
    constructor
    · rintro rfl
      exact hasValue.eq_of_ne_zero hasValue_one one_ne_zero
    · rintro rfl
      exact hasValue.unique hasValue_one
  · have notZero : Arithmetic.beq (infinity negative - Nat.cast 1) (Nat.cast 0) = false := by
      cases negative <;> decide
    rw [notZero]
    exact iff_of_false Bool.false_ne_true fun isOne => hasValue_one.ne_infinity negative isOne.symm
  · have notZero : Arithmetic.beq (nan - Nat.cast 1) (Nat.cast 0) = false := by decide
    rw [notZero]
    exact iff_of_false Bool.false_ne_true fun isOne => hasValue_one.ne_nan isOne.symm

/-! ## The growth of a month -/

/-- A rate of at most half the distance from one to the next float is lost; a tie goes to one, whose
significand is even. -/
theorem one_add_eq_one (hasValue : HasValue float value) (nonneg : 0 ≤ value)
    (small : value ≤ 1 / 2 ^ 53) : (Nat.cast 1 : Float) + float = Nat.cast 1 := by
  have rounds : IsRounding (1 + value) (2 ^ 52) (-52) := by
    have units : (1 + value) / 2 ^ (-52 : ℤ) = 2 ^ 52 + value * 2 ^ 52 := by
      rw [zpow_neg, div_inv_eq_mul]
      ring
    refine ⟨by decide, ?_, .inl ?_, ⟨?_, fun _ => by decide⟩⟩
    all_goals rw [units]
    · linarith
    · linarith
    · rw [Nat.cast_pow, Nat.cast_ofNat, add_sub_cancel_left, abs_of_nonneg (by positivity)]
      linarith
  rcases hasValue_one.add hasValue with ⟨negative, significand, grid, sign, found, isRounded⟩
  rw [abs_of_nonneg (by linarith)] at sign found
  rcases rounds.unique found with ⟨rfl, rfl⟩
  cases negative with
  | false =>
      rw [isRounded]
      exact Binary64.eq_of_toNat_toBits (by decide)
  | true =>
      simp only [signed, if_true] at sign
      linarith

/-- A greater rate is kept, since the next float is nearer to the sum than one is. -/
theorem one_lt_one_add (hasValue : HasValue float value) (large : 1 / 2 ^ 53 < value) :
    Arithmetic.lt (Nat.cast 1) ((Nat.cast 1 : Float) + float) = true := by
  have isRounded := hasValue_one.add hasValue
  have nonneg : 0 ≤ 1 + value := by linarith
  rcases isRounded.nonneg_cases nonneg with isInfinite | ⟨found, hasFound, found_nonneg⟩
  · rw [isInfinite]
    decide
  · have next : IsMagnitude (2 ^ 52 + 1) (-52) :=
      ⟨by decide, by decide, by decide, .inl (by decide)⟩
    have isNext : ((2 ^ 52 + 1 : ℕ) : ℚ) * 2 ^ (-52 : ℤ) = 1 + 1 / 2 ^ 52 := by norm_num
    have near := isRounded.abs_sub_le hasFound next
    rw [abs_of_nonneg nonneg, abs_of_nonneg found_nonneg, isNext, add_sub_add_left_eq_sub] at near
    have nearer : |value - 1 / 2 ^ 52| < value := abs_lt.mpr ⟨by linarith, by linarith⟩
    have one_lt : 1 < found := by
      have above := (le_abs_self _).trans near
      linarith
    simpa [Arithmetic.lt, hasValue_one.lt_iff hasFound] using one_lt

theorem power_one (exponent : ℕ) :
    Arithmetic.power (Nat.cast 1 : Float) exponent = Nat.cast 1 := by
  have isOne : ((Nat.cast 1 : Float) == 1.0) = true := by decide
  simp only [Arithmetic.power, isOne, if_true]
  exact Binary64.eq_of_toNat_toBits (by decide)

namespace Conditions

variable {conditions : Conditions Float}

theorem rate_cases (accepted : conditions.violation? = none) :
    conditions.rate = infinity false ∨ ∃ value, HasValue conditions.rate value ∧ 0 ≤ value := by
  simp only [violation?] at accepted
  split at accepted
  · contradiction
  split at accepted
  · contradiction
  next isRate =>
  simp only [Bool.or_eq_true, not_or, Bool.not_eq_true] at isRate
  rcases isRate with ⟨isNumber, notNegative⟩
  rcases Binary64.hasValue_or_infinity_or_nan conditions.rate with
    ⟨value, hasValue⟩ | ⟨negative, isInfinite⟩ | isNaN
  · right
    refine ⟨value, hasValue, ?_⟩
    simpa [Arithmetic.lt, hasValue.lt_iff hasValue_zero] using notNegative
  · left
    cases negative with
    | false => exact isInfinite
    | true =>
      rw [isInfinite] at notNegative
      exact absurd notNegative (by decide)
  · rw [isNaN] at isNumber
    exact absurd isNumber (by decide)

theorem monthlyRate_cases (accepted : conditions.violation? = none) :
    conditions.monthlyRate = infinity false ∨
      ∃ value, HasValue conditions.monthlyRate value ∧ 0 ≤ value := by
  rw [monthlyRate]
  rcases rate_cases accepted with isInfinite | ⟨rate, hasRate, nonneg⟩
  · left
    rw [isInfinite]
    exact Binary64.eq_of_toNat_toBits (by decide)
  · exact (hasRate.div hasValue_monthsInYear_mul (by norm_num)).nonneg_cases (by positivity)

/-- If the monthly rate is lost in its sum with one, the annuity formula divides by zero. Otherwise
a debt grows in a month, and the divisor is zero just if its growth in all months is computed as
one. -/
theorem annuityDivisor_zero_cases (accepted : conditions.violation? = none) :
    (Arithmetic.le conditions.monthlyRate halfGap = true →
      Nat.cast 1 + conditions.monthlyRate = Nat.cast 1 ∧
      Arithmetic.beq (annuityDivisor conditions.monthlyRate conditions.months) (Nat.cast 0) =
        true) ∧
    (Arithmetic.le conditions.monthlyRate halfGap = false →
      Arithmetic.lt (Nat.cast 1) (Nat.cast 1 + conditions.monthlyRate) = true ∧
      (Arithmetic.beq (annuityDivisor conditions.monthlyRate conditions.months) (Nat.cast 0) =
          true ↔
        Arithmetic.power (Nat.cast 1 + conditions.monthlyRate) conditions.months =
          Nat.cast 1)) := by
  rcases monthlyRate_cases accepted with isInfinite | ⟨value, hasValue, nonneg⟩
  · have isLarge : Arithmetic.le (infinity false) halfGap = false := by decide
    rw [isInfinite]
    refine ⟨fun small => absurd small (by rw [isLarge]; exact Bool.false_ne_true),
      fun _ => ⟨?_, ?_⟩⟩
    · decide
    · exact beq_sub_one_iff _
  · have le_iff : Arithmetic.le conditions.monthlyRate halfGap = true ↔ value ≤ 1 / 2 ^ 53 := by
      simp only [Arithmetic.le, decide_eq_true_iff, hasValue.le_iff hasValue_halfGap]
    constructor
    · intro small
      have lost := one_add_eq_one hasValue nonneg (le_iff.mp small)
      refine ⟨lost, (beq_sub_one_iff _).mpr ?_⟩
      rw [growth, lost, power_one]
    · intro large
      have isLarge : 1 / 2 ^ 53 < value := by
        rw [← not_le, ← le_iff, large]
        exact Bool.false_ne_true
      exact ⟨one_lt_one_add hasValue isLarge, beq_sub_one_iff _⟩

/-- A monthly rate of just half the distance is lost, that of twelve percent a year is not. -/
theorem annuityDivisor_zero_cases_of_half_gap :
    ∃ lost kept : Conditions Float,
      (Arithmetic.beq lost.monthlyRate halfGap = true ∧
        Arithmetic.beq (annuityDivisor lost.monthlyRate lost.months) (Nat.cast 0) = true) ∧
      Arithmetic.lt (Nat.cast 1) (Nat.cast 1 + kept.monthlyRate) = true ∧
        (Arithmetic.beq (annuityDivisor kept.monthlyRate kept.months) (Nat.cast 0) = true ↔
          Arithmetic.power (Nat.cast 1 + kept.monthlyRate) kept.months = Nat.cast 1) := by
  refine ⟨{ sum := Nat.cast 1000, rate := Binary64.nearest false 1200 (Nat.pow 2 53), term := 12 },
    { sum := Nat.cast 1000, rate := Nat.cast 12, term := 12 }, ⟨by decide, ?_⟩, ?_⟩
  · exact ((annuityDivisor_zero_cases (by decide)).1 (by decide)).2
  · exact (annuityDivisor_zero_cases (by decide)).2 (by decide)

/-- A yearly rate of a hundred-quintillionth of a percent is accepted and gives a monthly rate other
than zero, yet the annuity formula divides by zero. -/
theorem annuityDivisor_zero_of_tiny_rate :
    ∃ conditions : Conditions Float, conditions.amortization = .annuity ∧
      conditions.violation? = none ∧ conditions.sum.isFinite = true ∧
      conditions.rate.isFinite = true ∧
      Arithmetic.beq conditions.monthlyRate (Nat.cast 0) = false ∧
      Arithmetic.beq (annuityDivisor conditions.monthlyRate conditions.months) (Nat.cast 0) =
        true := by
  refine ⟨{ sum := Nat.cast 1000, rate := Binary64.nearest false 1 (Nat.pow 10 20), term := 12 },
    rfl, by decide, by decide, by decide, by decide, (beq_sub_one_iff _).mpr ?_⟩
  have lost : (Nat.cast 1 : Float) + Conditions.monthlyRate
      { sum := Nat.cast 1000, rate := Binary64.nearest false 1 (Nat.pow 10 20), term := 12 } =
      Nat.cast 1 := Binary64.eq_of_toNat_toBits (by decide)
  rw [growth, lost, power_one]

end Conditions

end Loan

end Reckoner
