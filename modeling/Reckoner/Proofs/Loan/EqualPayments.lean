import Reckoner.Proofs.Loan.Annuity

/-!
# The schedule of an annuity in closed form

The schedule is computed payment by payment, each from what is owed before it. Over exact rationals
it is told at once: what is owed after a number of payments is the sum, grown for as many months,
less the payments, each grown from its own month on. What is repaid of the principal is no longer
owed, so what the last payment leaves is what the portions of the principal lack of the sum.
-/

namespace Reckoner

namespace Loan

open Finset (range)

/-! ## The closed forms -/

/-- The equal payment of an annuity. -/
def equalPayment (sum monthlyRate : ℚ) (months : ℕ) : ℚ :=
  if 0 < monthlyRate then
    Arithmetic.roundCents
      (sum * monthlyRate * (1 + monthlyRate) ^ months / ((1 + monthlyRate) ^ months - 1))
  else sum / months

/-- What is owed after a number of the equal payments of an annuity. -/
def owedAfter (sum monthlyRate : ℚ) (months number : ℕ) : ℚ :=
  if 0 < monthlyRate then
    sum * (1 + monthlyRate) ^ number -
      equalPayment sum monthlyRate months * ((1 + monthlyRate) ^ number - 1) / monthlyRate
  else sum * (months - number) / months

theorem sum_growth_eq_div {monthlyRate : ℚ} (positive : 0 < monthlyRate) (months : ℕ) :
    ∑ month ∈ range months, (1 + monthlyRate) ^ month =
      ((1 + monthlyRate) ^ months - 1) / monthlyRate := by
  rw [eq_div_iff (ne_of_gt positive), mul_comm]
  exact mul_sum_growth monthlyRate months

theorem annuityPayment_eq (sum : ℚ) {monthlyRate : ℚ} {months : ℕ} (nonneg : 0 ≤ monthlyRate)
    (hasMonths : months ≠ 0) :
    annuityPayment sum monthlyRate months = equalPayment sum monthlyRate months := by
  rw [equalPayment]
  rcases eq_or_lt_of_le nonneg with rfl | positive
  · rw [if_neg (lt_irrefl 0)]
    exact annuityPayment_zero sum hasMonths
  · have factor :
        sum * (monthlyRate * growth monthlyRate months / annuityDivisor monthlyRate months) =
        sum * monthlyRate * (1 + monthlyRate) ^ months / ((1 + monthlyRate) ^ months - 1) := by
      simp only [annuityDivisor, growth, Arithmetic.power, Nat.cast_one]
      ring
    rw [if_pos positive, annuityPayment_of_pos sum positive hasMonths, factor]

/-- What is owed after equal payments is told by the closed form; without interest every month
repays the same portion. -/
theorem debtAfter_equalPayment (sum : ℚ) {monthlyRate : ℚ} {months : ℕ} (nonneg : 0 ≤ monthlyRate)
    (hasMonths : months ≠ 0) (number : ℕ) :
    debtAfter (Split.ofPayment (equalPayment sum monthlyRate months)) sum monthlyRate number =
      owedAfter sum monthlyRate months number := by
  rw [debtAfter_ofPayment, owedAfter]
  rcases eq_or_lt_of_le nonneg with rfl | positive
  · have isMonths : (months : ℚ) ≠ 0 := Nat.cast_ne_zero.mpr hasMonths
    rw [equalPayment, if_neg (lt_irrefl 0), if_neg (lt_irrefl 0)]
    simp only [add_zero, one_pow, mul_one, Finset.sum_const, Finset.card_range, nsmul_eq_mul]
    field_simp
  · rw [if_pos positive, sum_growth_eq_div positive, mul_div_assoc]

/-! ## Equal payments -/

theorem payment_of_mem_instalments {payment sum monthlyRate : ℚ} {months : ℕ}
    {instalment : Instalment ℚ}
    (member : instalment ∈ instalments (Split.ofPayment payment) sum monthlyRate months) :
    instalment.payment = payment ∧ instalment.principal + instalment.interest = payment := by
  rcases exists_of_mem_instalments _ _ _ member with ⟨paid, -, rfl⟩
  exact ⟨rfl, sub_add_cancel payment _⟩

theorem sum_payments (payment sum monthlyRate : ℚ) (months : ℕ) :
    Arithmetic.sum
        ((instalments (Split.ofPayment payment) sum monthlyRate months).map Instalment.payment) =
      months * payment := by
  have same : ∀ amount ∈
      (instalments (Split.ofPayment payment) sum monthlyRate months).map Instalment.payment,
      amount = payment := by
    intro amount member
    rcases List.mem_map.mp member with ⟨instalment, isInstalment, rfl⟩
    exact (payment_of_mem_instalments isInstalment).1
  rw [Arithmetic.sum_eq_sum, List.sum_eq_card_nsmul _ _ same, List.length_map, instalments,
    List.length_map, List.length_range, nsmul_eq_mul]

namespace Conditions

/-- The payments of an annuity are numbered from one on and equal. What is owed after each of them,
the total and what is repaid altogether are told by the conditions alone. -/
theorem annuity_closed_form (conditions : Conditions ℚ)
    (isAnnuity : conditions.amortization = .annuity) (nonneg : 0 ≤ conditions.rate)
    (hasMonths : 1 ≤ conditions.months) :
    let monthlyRate := conditions.rate / 1200
    let payment := equalPayment conditions.sum monthlyRate conditions.months
    let schedule := conditions.schedule
    schedule.instalments.map Instalment.number = List.range' 1 conditions.months ∧
      (∀ instalment ∈ schedule.instalments,
        instalment.payment = payment ∧
          instalment.principal + instalment.interest = payment ∧
          instalment.remaining =
            owedAfter conditions.sum monthlyRate conditions.months instalment.number) ∧
      schedule.total = conditions.months * payment ∧
      schedule.total = Arithmetic.sum schedule.payments ∧
      schedule.overpay = schedule.total - conditions.sum ∧
      ∃ last, schedule.instalments.getLast? = some last ∧
        Arithmetic.sum (schedule.instalments.map Instalment.principal) =
          conditions.sum - last.remaining ∧
        (0 < monthlyRate →
          |last.remaining| ≤
            1 / 200 * (((1 + monthlyRate) ^ conditions.months - 1) / monthlyRate)) := by
  simp only [← monthlyRate_eq]
  have someMonths : conditions.months ≠ 0 := Nat.one_le_iff_ne_zero.mp hasMonths
  have rateNonneg : 0 ≤ conditions.monthlyRate := by
    rw [monthlyRate_eq]
    exact div_nonneg nonneg (by norm_num)
  rcases exists_getLast?_of_annuity isAnnuity someMonths with ⟨last, isLast, -, remaining⟩
  have bound := abs_debtAfter_annuityPayment_le conditions.sum rateNonneg someMonths
  rw [← remaining] at bound
  rw [annuityPayment_eq conditions.sum rateNonneg someMonths] at remaining
  rw [schedule_of_annuity isAnnuity, annuityPayment_eq conditions.sum rateNonneg someMonths]
    at isLast ⊢
  refine ⟨map_number_instalments _ _ _ _, ?_, mul_comm _ _, ?_, rfl, last, isLast, ?_, ?_⟩
  · intro instalment member
    have paid := payment_of_mem_instalments member
    have left := remaining_of_mem_instalments _ _ _ member
    rw [debtAfter_equalPayment conditions.sum rateNonneg someMonths] at left
    exact ⟨paid.1, paid.2, left⟩
  · rw [sum_payments]
    exact mul_comm _ _
  · rw [sum_principals, remaining]
  · intro positive
    rw [← sum_growth_eq_div positive]
    exact bound

/-- A hundred thousand at twelve percent for a year. -/
def oneYear : Conditions ℚ where
  sum := 100000
  rate := 12
  term := 1
  termUnit := .year
  amortization := .annuity

/-- Twelve payments of 8884.88 leave no more than the compounded half cents. -/
theorem annuity_closed_form_of_one_year :
    oneYear.amortization = .annuity ∧ 0 ≤ oneYear.rate ∧ 1 ≤ oneYear.months ∧
      0 < oneYear.rate / 1200 ∧
      equalPayment oneYear.sum (oneYear.rate / 1200) oneYear.months = 222122 / 25 ∧
      oneYear.schedule.total = oneYear.months *
        equalPayment oneYear.sum (oneYear.rate / 1200) oneYear.months ∧
      ∃ last, oneYear.schedule.instalments.getLast? = some last ∧
        |last.remaining| ≤
          1 / 200 * (((1 + oneYear.rate / 1200) ^ oneYear.months - 1) / (oneYear.rate / 1200)) := by
  have nonneg : 0 ≤ oneYear.rate := by decide +kernel
  have hasMonths : 1 ≤ oneYear.months := by decide
  have positive : 0 < oneYear.rate / 1200 := by decide +kernel
  rcases annuity_closed_form oneYear rfl nonneg hasMonths with
    ⟨-, -, total, -, -, last, isLast, -, bound⟩
  exact ⟨rfl, nonneg, hasMonths, positive, by decide +kernel, total, last, isLast, bound positive⟩

end Conditions

end Loan

end Reckoner
