import Reckoner.Proofs.Loan.Annuity

/-!
# The schedule of a differentiated loan in closed form

Every payment repays the same portion of the sum, so what is owed falls by that portion from month
to month and the interest falls with it. The interest of a month is due on what is owed before its
portion is repaid, so the first month bears interest on the whole sum and the last one on a single
portion.
-/

namespace Reckoner

namespace Loan

/-- The payment with a number when the sum is repaid by equal portions, by the conditions alone. -/
def portionInstalment (sum monthlyRate : ℚ) (months number : ℕ) : Instalment ℚ where
  number
  payment := sum / months + sum * monthlyRate * (months - number + 1) / months
  principal := sum / months
  interest := sum * monthlyRate * (months - number + 1) / months
  remaining := sum * (months - number) / months

/-- With equal portions, each payment takes one of them off what is owed. -/
theorem debtAfter_ofPrincipal (portion sum monthlyRate : ℚ) (months : ℕ) :
    debtAfter (Split.ofPrincipal portion) sum monthlyRate months = sum - months * portion := by
  induction months with
  | zero => simp [debtAfter]
  | succ months ih =>
      have step : debtAfter (Split.ofPrincipal portion) sum monthlyRate (months + 1) =
          debtAfter (Split.ofPrincipal portion) sum monthlyRate months - portion := rfl
      rw [step, ih]
      push_cast
      ring

/-- With equal portions every payment is told by its number: it bears interest on what the payments
before it have left. -/
theorem instalments_equalPortions (sum monthlyRate : ℚ) {months : ℕ} (hasMonths : months ≠ 0) :
    instalments (Split.ofPrincipal (sum / months)) sum monthlyRate months =
      (List.range' 1 months).map (portionInstalment sum monthlyRate months) := by
  have isMonths : (months : ℚ) ≠ 0 := Nat.cast_ne_zero.mpr hasMonths
  rw [instalments, List.range'_eq_map_range, List.map_map]
  apply List.map_congr_left
  intro paid _
  have owed : sum - paid * (sum / months) = sum * (months - paid) / months := by
    field_simp
  rw [debtAfter_ofPrincipal, owed]
  simp only [instalmentOf, Split.ofPrincipal, portionInstalment, Function.comp_apply,
    Instalment.mk.injEq]
  push_cast
  refine ⟨Nat.add_comm paid 1, ?_, trivial, ?_, ?_⟩
  all_goals field_simp
  all_goals ring

/-- The interest on what is owed is the interest on the sum in every month, less that on the
portions repaid before. -/
theorem sum_interests (portion sum monthlyRate : ℚ) (months : ℕ) :
    Arithmetic.sum
        ((instalments (Split.ofPrincipal portion) sum monthlyRate months).map Instalment.interest) =
      monthlyRate * (months * sum - portion * (months * (months - 1) / 2)) := by
  rw [Arithmetic.sum_eq_sum]
  induction months with
  | zero => simp [instalments]
  | succ months ih =>
      rw [instalments_succ, List.map_append, List.sum_append, ih]
      simp only [List.map_singleton, List.sum_singleton, instalmentOf, debtAfter_ofPrincipal]
      push_cast
      ring

/-- What is paid is what is repaid of the principal, and the interest. -/
theorem sum_payments_ofPrincipal (portion sum monthlyRate : ℚ) (months : ℕ) :
    let paid := instalments (Split.ofPrincipal portion) sum monthlyRate months
    Arithmetic.sum (paid.map Instalment.payment) =
      Arithmetic.sum (paid.map Instalment.principal) +
        Arithmetic.sum (paid.map Instalment.interest) := by
  intro paid
  simp only [Arithmetic.sum_eq_sum]
  rw [← List.sum_map_add]
  congr 1
  apply List.map_congr_left
  intro instalment member
  rcases exists_of_mem_instalments _ _ _ member with ⟨_, -, rfl⟩
  rfl

theorem sum_equalPortions (sum monthlyRate : ℚ) {months : ℕ} (hasMonths : months ≠ 0) :
    Arithmetic.sum
        ((instalments (Split.ofPrincipal (sum / months)) sum monthlyRate months).map
          Instalment.payment) =
      sum + sum * monthlyRate * (months + 1) / 2 := by
  have isMonths : (months : ℚ) ≠ 0 := Nat.cast_ne_zero.mpr hasMonths
  rw [sum_payments_ofPrincipal, sum_principals, sum_interests, debtAfter_ofPrincipal]
  field_simp
  ring

/-- With interest, the interest falls from each payment to the next. -/
theorem interest_portionInstalment_lt {sum monthlyRate : ℚ} {months first second : ℕ}
    (sumPos : 0 < sum) (ratePos : 0 < monthlyRate) (hasMonths : months ≠ 0)
    (isLess : first < second) :
    (portionInstalment sum monthlyRate months second).interest <
      (portionInstalment sum monthlyRate months first).interest := by
  have monthsPos : (0 : ℚ) < months := Nat.cast_pos.mpr (Nat.pos_of_ne_zero hasMonths)
  have isLess' : (first : ℚ) < second := Nat.cast_lt.mpr isLess
  have interestPos : 0 < sum * monthlyRate := mul_pos sumPos ratePos
  simp only [portionInstalment]
  apply div_lt_div_of_pos_right _ monthsPos
  apply mul_lt_mul_of_pos_left _ interestPos
  linarith

namespace Conditions

/-- The payments of a differentiated loan are numbered from one on, and each of them is told by the
conditions and its number alone. The last one leaves nothing, and with interest every payment is
less than the one before. The interest adds up to that on the whole sum for half the months and one
more. -/
theorem differentiated_closed_form (conditions : Conditions ℚ)
    (isDifferentiated : conditions.amortization = .differentiated) (sumPos : 0 < conditions.sum)
    (hasMonths : 1 ≤ conditions.months) :
    let monthlyRate := conditions.rate / 1200
    let months := conditions.months
    let schedule := conditions.schedule
    schedule.instalments =
        (List.range' 1 months).map (portionInstalment conditions.sum monthlyRate months) ∧
      (∃ last, schedule.instalments.getLast? = some last ∧ last.number = months ∧
        last.remaining = 0) ∧
      (0 < monthlyRate →
        schedule.payments.Pairwise (· > ·) ∧
          (schedule.instalments.map Instalment.interest).Pairwise (· > ·)) ∧
      (∀ number, 1 ≤ number → number ≤ months →
        schedule.payments[number - 1]? =
          some (portionInstalment conditions.sum monthlyRate months number).payment) ∧
      schedule.total = Arithmetic.sum schedule.payments ∧
      schedule.overpay = conditions.sum * monthlyRate * (months + 1) / 2 := by
  intro monthlyRate months schedule
  have someMonths : months ≠ 0 := Nat.one_le_iff_ne_zero.mp hasMonths
  have rateEq : conditions.monthlyRate = monthlyRate := monthlyRate_eq conditions
  have isSchedule := schedule_of_differentiated isDifferentiated
  rw [rateEq] at isSchedule
  have instalmentsEq : schedule.instalments =
      (List.range' 1 months).map (portionInstalment conditions.sum monthlyRate months) := by
    rw [← instalments_equalPortions conditions.sum monthlyRate someMonths]
    exact congrArg Schedule.instalments isSchedule
  have interestLt {first second : ℕ} (isLess : first < second) (ratePos : 0 < monthlyRate) :=
    interest_portionInstalment_lt sumPos ratePos someMonths isLess
  refine ⟨instalmentsEq, ?_, ?_, ?_, ?_, ?_⟩
  · refine ⟨portionInstalment conditions.sum monthlyRate months months, ?_, rfl, ?_⟩
    · rw [instalmentsEq, List.getLast?_map, List.getLast?_range']
      simp [someMonths]
    · simp [portionInstalment]
  · intro ratePos
    rw [payments_schedule, instalmentsEq, List.map_map, List.map_map]
    constructor
    all_goals
      refine List.Pairwise.map _ ?_ List.pairwise_lt_range'
      intro first second isLess
      have := interestLt isLess ratePos
    · exact add_lt_add_right this _
    · exact this
  · intro number isNumber notMore
    have isPaid : number - 1 < months := by omega
    have nextNumber : 1 + 1 * (number - 1) = number := by omega
    rw [payments_schedule, instalmentsEq, List.getElem?_map, List.getElem?_map,
      List.getElem?_range' isPaid, nextNumber]
    rfl
  · change conditions.schedule.total = Arithmetic.sum conditions.schedule.payments
    rw [isSchedule]
  · have overpayEq := congrArg Schedule.overpay isSchedule
    rw [sum_equalPortions conditions.sum monthlyRate someMonths] at overpayEq
    rw [overpayEq]
    exact add_sub_cancel_left _ _

/-- A hundred and twenty thousand at twelve percent for a year. -/
def yearOfPortions : Conditions ℚ where
  sum := 120000
  rate := 12
  term := 1
  termUnit := .year
  amortization := .differentiated

/-- Twelve portions of ten thousand bear interest of 1200, 1100 and so on down to 100. -/
theorem differentiated_closed_form_of_one_year :
    yearOfPortions.amortization = .differentiated ∧ 0 < yearOfPortions.sum ∧
      1 ≤ yearOfPortions.months ∧ 0 < yearOfPortions.rate / 1200 ∧
      yearOfPortions.schedule.payments.Pairwise (· > ·) ∧
      yearOfPortions.schedule.payments[11]? = some 10100 ∧
      yearOfPortions.schedule.overpay = 7800 := by
  have sumPos : 0 < yearOfPortions.sum := by decide +kernel
  have hasMonths : 1 ≤ yearOfPortions.months := by decide
  have ratePos : 0 < yearOfPortions.rate / 1200 := by decide +kernel
  rcases differentiated_closed_form yearOfPortions rfl sumPos hasMonths with
    ⟨-, -, decreases, payment, -, overpay⟩
  have last := payment 12 (by decide) (by decide)
  refine ⟨rfl, sumPos, hasMonths, ratePos, (decreases ratePos).1, last.trans ?_,
    overpay.trans ?_⟩
  · decide +kernel
  · decide +kernel

end Conditions

end Loan

end Reckoner
