import Mathlib.Algebra.Field.GeomSum
import Mathlib.Algebra.Order.Ring.GeomSum
import Mathlib.Analysis.Complex.ExponentialBounds
import Mathlib.Analysis.Convex.SpecificFunctions.Basic
import Reckoner.Proofs.Loan.Debt
import Reckoner.Proofs.Rational

/-!
# What an annuity leaves unpaid

Over exact rationals the payment of an annuity is exact but for its rounding to whole cents. The
cents that a payment lacks or has too much are owed with interest from then on, so after the last
payment they have been compounded month by month. The debt that is left is the error of one payment
times the sum of the powers of the monthly growth, and no payment settles it.

While that sum is less than twice the number of months, less than a cent for each month is left.
That holds up to a yearly rate and a number of months whose product is 1500, such as twelve percent
for ten years. It does not hold for twelve percent for thirty years.
-/

namespace Reckoner

namespace Loan

open Finset (range)

/-! ## The recurrence -/

/-- With equal payments, the debt grows as if nothing was paid, less the payments, each of which
grows from its own month on. -/
theorem debtAfter_ofPayment (payment sum monthlyRate : ℚ) (months : ℕ) :
    debtAfter (Split.ofPayment payment) sum monthlyRate months =
      sum * (1 + monthlyRate) ^ months -
        payment * ∑ month ∈ range months, (1 + monthlyRate) ^ month := by
  induction months with
  | zero => simp [debtAfter]
  | succ months ih =>
      have step : debtAfter (Split.ofPayment payment) sum monthlyRate (months + 1) =
          debtAfter (Split.ofPayment payment) sum monthlyRate months * (1 + monthlyRate) -
            payment := by
        simp only [debtAfter, instalmentOf, Split.ofPayment]
        ring
      rw [step, ih, geom_sum_succ, pow_succ]
      ring

/-- The interest of the powers of the monthly growth is what a sum grows by in all months. -/
theorem mul_sum_growth (monthlyRate : ℚ) (months : ℕ) :
    monthlyRate * ∑ month ∈ range months, (1 + monthlyRate) ^ month =
      (1 + monthlyRate) ^ months - 1 := by
  have geometric := mul_geom_sum (1 + monthlyRate) months
  rwa [add_sub_cancel_left] at geometric

/-- The exact payment leaves nothing, so all that is left is what the payment is off by. -/
theorem debtAfter_eq_error_mul {sum monthlyRate : ℚ} {months : ℕ} (payment : ℚ)
    (positive : 0 < monthlyRate) (hasMonths : months ≠ 0) :
    debtAfter (Split.ofPayment payment) sum monthlyRate months =
      (sum * (monthlyRate * growth monthlyRate months / annuityDivisor monthlyRate months) -
        payment) *
        ∑ month ∈ range months, (1 + monthlyRate) ^ month := by
  have growthEq : growth monthlyRate months = (1 + monthlyRate) ^ months := by
    simp [growth, Arithmetic.power]
  have divisorEq : annuityDivisor monthlyRate months =
      monthlyRate * ∑ month ∈ range months, (1 + monthlyRate) ^ month := by
    rw [mul_sum_growth, annuityDivisor, growthEq, Nat.cast_one]
  have sumPos : 0 < ∑ month ∈ range months, (1 + monthlyRate) ^ month :=
    geom_sum_pos (by linarith) hasMonths
  rw [debtAfter_ofPayment, growthEq, divisorEq]
  field_simp

theorem annuityPayment_of_pos (sum : ℚ) {monthlyRate : ℚ} {months : ℕ} (positive : 0 < monthlyRate)
    (hasMonths : months ≠ 0) :
    annuityPayment sum monthlyRate months =
      Arithmetic.roundCents
        (sum * (monthlyRate * growth monthlyRate months / annuityDivisor monthlyRate months)) := by
  simp [annuityPayment, hasMonths, Arithmetic.beq_iff, positive.ne']

theorem annuityPayment_zero (sum : ℚ) {months : ℕ} (hasMonths : months ≠ 0) :
    annuityPayment sum 0 months = sum / months := by
  simp [annuityPayment, hasMonths, Arithmetic.beq_iff]

theorem debtAfter_annuityPayment_zero (sum : ℚ) {months : ℕ} (hasMonths : months ≠ 0) :
    debtAfter (Split.ofPayment (annuityPayment sum 0 months)) sum 0 months = 0 := by
  have isMonths : (months : ℚ) ≠ 0 := Nat.cast_ne_zero.mpr hasMonths
  rw [debtAfter_ofPayment, annuityPayment_zero sum hasMonths]
  simp [isMonths]

/-- Half a cent for each month, compounded to the end, bounds what is left, since the payment is off
by the rounding of the exact one and by nothing else. -/
theorem abs_debtAfter_annuityPayment_le (sum : ℚ) {monthlyRate : ℚ} {months : ℕ}
    (nonneg : 0 ≤ monthlyRate) (hasMonths : months ≠ 0) :
    |debtAfter (Split.ofPayment (annuityPayment sum monthlyRate months)) sum monthlyRate months| ≤
      1 / 200 * ∑ month ∈ range months, (1 + monthlyRate) ^ month := by
  have sumPos : 0 < ∑ month ∈ range months, (1 + monthlyRate) ^ month :=
    geom_sum_pos (by linarith) hasMonths
  rcases eq_or_lt_of_le nonneg with rfl | positive
  · rw [debtAfter_annuityPayment_zero sum hasMonths, abs_zero]
    exact mul_nonneg (by norm_num) (le_of_lt sumPos)
  · rw [annuityPayment_of_pos sum positive hasMonths,
      debtAfter_eq_error_mul _ positive hasMonths, abs_mul, abs_of_pos sumPos]
    apply mul_le_mul_of_nonneg_right _ (le_of_lt sumPos)
    exact Arithmetic.abs_sub_roundCents _

/-! ## Where compounding is mild -/

theorem exp_five_fourths_lt : Real.exp (5 / 4) < 7 / 2 := by
  have fourth : Real.exp (5 / 4) ^ 4 = Real.exp 1 ^ 5 := by
    rw [← Real.exp_nat_mul, ← Real.exp_nat_mul]
    norm_num
  have bound : Real.exp 1 ^ 5 < (7 / 2) ^ 4 := by
    calc Real.exp 1 ^ 5 < 2.7182818286 ^ 5 :=
          pow_lt_pow_left₀ Real.exp_one_lt_d9 (Real.exp_pos 1).le (by norm_num)
      _ < (7 / 2) ^ 4 := by norm_num
  apply lt_of_pow_lt_pow_left₀ 4 (by norm_num)
  rwa [fourth]

/-- The exponential lies below its chord. -/
theorem exp_lt_one_add_two_mul {exponent : ℝ} (positive : 0 < exponent) (isLe : exponent ≤ 5 / 4) :
    Real.exp exponent < 1 + 2 * exponent := by
  have chord := convexOn_exp.2 (Set.mem_univ 0) (Set.mem_univ (5 / 4))
    (show 0 ≤ 1 - exponent / (5 / 4) by linarith) (show 0 ≤ exponent / (5 / 4) by linarith)
    (by ring)
  simp only [smul_eq_mul, mul_zero, zero_add, Real.exp_zero, mul_one] at chord
  rw [div_mul_cancel₀ exponent (by norm_num)] at chord
  have steep : exponent / (5 / 4) * Real.exp (5 / 4) < exponent / (5 / 4) * (7 / 2) :=
    mul_lt_mul_of_pos_left exp_five_fourths_lt (by linarith)
  linarith

theorem pow_lt_one_add_two_mul {monthlyRate : ℚ} {months : ℕ} (positive : 0 < monthlyRate)
    (hasMonths : months ≠ 0) (isMild : months * monthlyRate ≤ 5 / 4) :
    (1 + monthlyRate) ^ months < 1 + 2 * (months * monthlyRate) := by
  have exponentPos : (0 : ℝ) < (months : ℝ) * (monthlyRate : ℝ) := by
    have := Nat.pos_of_ne_zero hasMonths
    positivity
  have exponentLe : (months : ℝ) * (monthlyRate : ℝ) ≤ 5 / 4 := by
    have := (Rat.cast_le (K := ℝ)).mpr isMild
    push_cast at this
    exact this
  have growthLe : (1 + (monthlyRate : ℝ)) ^ months ≤
      Real.exp ((months : ℝ) * (monthlyRate : ℝ)) := by
    rw [Real.exp_nat_mul, add_comm]
    exact pow_le_pow_left₀ (by positivity) (Real.add_one_le_exp _) months
  have bound := lt_of_le_of_lt growthLe (exp_lt_one_add_two_mul exponentPos exponentLe)
  exact_mod_cast bound

/-- Up to a product of rate and term of five quarters, a cent for each month has not even doubled on
average by the end. -/
theorem geom_sum_lt_two_mul {monthlyRate : ℚ} {months : ℕ} (nonneg : 0 ≤ monthlyRate)
    (hasMonths : months ≠ 0) (isMild : months * monthlyRate ≤ 5 / 4) :
    ∑ month ∈ range months, (1 + monthlyRate) ^ month < 2 * months := by
  rcases eq_or_lt_of_le nonneg with rfl | positive
  · have := Nat.pos_of_ne_zero hasMonths
    simp only [add_zero, one_pow, Finset.sum_const, Finset.card_range, nsmul_eq_mul, mul_one]
    norm_cast
    omega
  · have mild := pow_lt_one_add_two_mul positive hasMonths isMild
    have scaled : monthlyRate * ∑ month ∈ range months, (1 + monthlyRate) ^ month <
        monthlyRate * (2 * months) := by
      rw [mul_sum_growth]
      linarith
    exact lt_of_mul_lt_mul_left scaled nonneg

/-! ## The last payment -/

namespace Conditions

theorem rate_nonneg_of_accepted {conditions : Conditions ℚ}
    (accepted : conditions.violation? = none) :
    0 ≤ conditions.rate := by
  simp only [violation?] at accepted
  split at accepted
  · contradiction
  split at accepted
  · contradiction
  · next notNegative =>
    simpa [Arithmetic.isNaN, Arithmetic.lt] using notNegative

theorem months_ne_zero_of_accepted {α : Type} [Arithmetic α] {conditions : Conditions α}
    (accepted : conditions.violation? = none) : conditions.months ≠ 0 := by
  have term : conditions.term ≠ 0 := by
    intro isZero
    simp only [violation?, isZero, if_true] at accepted
    split at accepted
    · contradiction
    · split at accepted <;> contradiction
  rw [months]
  cases conditions.termUnit with
  | month => exact term
  | year =>
      simp only [monthsInYear, greatestMonths]
      have : 0 < Nat.pow 2 32 - 1 := by decide
      omega

theorem monthlyRate_eq (conditions : Conditions ℚ) :
    conditions.monthlyRate = conditions.rate / 1200 := by
  simp only [monthlyRate, monthsInYear]
  norm_num

theorem monthlyRate_nonneg_of_accepted {conditions : Conditions ℚ}
    (accepted : conditions.violation? = none) : 0 ≤ conditions.monthlyRate := by
  rw [monthlyRate_eq]
  exact div_nonneg (rate_nonneg_of_accepted accepted) (by norm_num)

/-- The last payment of an annuity has the number of its months and leaves what is owed after
them. -/
theorem exists_getLast?_of_annuity {α : Type} [Arithmetic α] {conditions : Conditions α}
    (isAnnuity : conditions.amortization = .annuity) (hasMonths : conditions.months ≠ 0) :
    ∃ last, conditions.schedule.instalments.getLast? = some last ∧
      last.number = conditions.months ∧
      last.remaining =
        debtAfter
          (Split.ofPayment
            (annuityPayment conditions.sum conditions.monthlyRate conditions.months))
          conditions.sum conditions.monthlyRate conditions.months := by
  rw [schedule_of_annuity isAnnuity]
  exact exists_getLast?_instalments _ _ _ hasMonths

/-- What an accepted annuity leaves unpaid is at most half a cent for each month, compounded at the
monthly rate, and nothing without interest. It is less than a cent for each month wherever a cent
compounded does not double on average, as it does not up to a product of rate and months of 1500. -/
theorem annuity_repays_within_compounded_cents (conditions : Conditions ℚ)
    (isAnnuity : conditions.amortization = .annuity) (accepted : conditions.violation? = none) :
    let compounded := ∑ month ∈ range conditions.months, (1 + conditions.rate / 1200) ^ month
    ∃ last, conditions.schedule.instalments.getLast? = some last ∧
      last.number = conditions.months ∧
      |last.remaining| ≤ 1 / 200 * compounded ∧
      (conditions.rate = 0 → last.remaining = 0) ∧
      (compounded < 2 * conditions.months → |last.remaining| < 1 / 100 * conditions.months) ∧
      (conditions.rate * conditions.months ≤ 1500 →
        |last.remaining| < 1 / 100 * conditions.months) := by
  intro compounded
  have hasMonths := months_ne_zero_of_accepted accepted
  have nonneg := monthlyRate_nonneg_of_accepted accepted
  have compoundedEq : compounded =
      ∑ month ∈ range conditions.months, (1 + conditions.monthlyRate) ^ month := by
    rw [monthlyRate_eq]
  rcases exists_getLast?_of_annuity isAnnuity hasMonths with ⟨last, isLast, number, remaining⟩
  have bound : |last.remaining| ≤ 1 / 200 * compounded := by
    rw [remaining, compoundedEq]
    exact abs_debtAfter_annuityPayment_le conditions.sum nonneg hasMonths
  have withinCents (isLess : compounded < 2 * conditions.months) :
      |last.remaining| < 1 / 100 * conditions.months := by
    linarith
  refine ⟨last, isLast, number, bound, ?_, withinCents, ?_⟩
  · intro isZero
    rw [remaining, monthlyRate_eq, isZero, zero_div]
    exact debtAfter_annuityPayment_zero _ hasMonths
  · intro isMild
    apply withinCents
    rw [compoundedEq]
    apply geom_sum_lt_two_mul nonneg hasMonths
    rw [monthlyRate_eq]
    linarith

/-- Twelve percent for ten years. -/
def tenYears : Conditions ℚ where
  sum := 100000
  rate := 12
  term := 10
  termUnit := .year
  amortization := .annuity

theorem annuity_repays_within_compounded_cents_of_ten_years :
    tenYears.amortization = .annuity ∧ tenYears.violation? = none ∧
      tenYears.rate * tenYears.months ≤ 1500 ∧
      ∃ last, tenYears.schedule.instalments.getLast? = some last ∧ last.number = 120 ∧
        |last.remaining| < 1 / 100 * tenYears.months := by
  have accepted : tenYears.violation? = none := by decide +kernel
  have isMild : tenYears.rate * tenYears.months ≤ 1500 := by decide +kernel
  rcases annuity_repays_within_compounded_cents tenYears rfl accepted with
    ⟨last, isLast, number, -, -, -, withinRate⟩
  exact ⟨rfl, accepted, isMild, last, isLast, number, withinRate isMild⟩

/-- Twelve percent for thirty years. -/
def thirtyYears : Conditions ℚ where
  sum := 100000
  rate := 12
  term := 30
  termUnit := .year
  amortization := .annuity

/-- The quarter of a cent that each payment lacks has grown to more than nine by the end. -/
theorem annuity_leaves_more_than_cents :
    thirtyYears.amortization = .annuity ∧ thirtyYears.violation? = none ∧
      ∃ last, thirtyYears.schedule.instalments.getLast? = some last ∧
        last.number = thirtyYears.months ∧ 9 < last.remaining ∧
        ¬|last.remaining| < 1 / 100 * thirtyYears.months := by
  have accepted : thirtyYears.violation? = none := by decide +kernel
  have payment : annuityPayment thirtyYears.sum thirtyYears.monthlyRate thirtyYears.months =
      102861 / 100 := by
    decide +kernel
  have hasMonths := months_ne_zero_of_accepted accepted
  rcases exists_getLast?_of_annuity rfl hasMonths with ⟨last, isLast, number, remaining⟩
  rw [payment, debtAfter_ofPayment] at remaining
  have left : 9 < last.remaining := by
    rw [remaining]
    decide +kernel
  refine ⟨rfl, accepted, last, isLast, number, left, ?_⟩
  have months : (thirtyYears.months : ℚ) = 360 := by decide +kernel
  rw [months, abs_of_pos (by linarith)]
  linarith

end Conditions

end Loan

end Reckoner
