import Reckoner.Loan.Schedule
import Reckoner.Proofs.Rational

/-!
# What is owed after each payment

The payments of a loan are told one by one by what is owed before them, and what is owed is told by
its recurrence alone. Results about schedules are results about that recurrence. The amounts paid
and their total are carried along with the payments, and stay in step with them.
-/

namespace Reckoner

namespace Loan

variable {α : Type} [Arithmetic α]

/-- The payment with a number, by what is owed before it. -/
def instalmentOf (split : α → Split α) (monthlyRate : α) (number : Nat) (debt : α) :
    Instalment α where
  number
  payment := (split (debt * monthlyRate)).payment
  principal := (split (debt * monthlyRate)).principal
  interest := debt * monthlyRate
  remaining := debt - (split (debt * monthlyRate)).principal

/-- What is owed after a number of payments. -/
def debtAfter (split : α → Split α) (sum monthlyRate : α) : Nat → α
  | 0 => sum
  | months + 1 =>
      (instalmentOf split monthlyRate (months + 1)
        (debtAfter split sum monthlyRate months)).remaining

variable (split : α → Split α) (sum monthlyRate : α)

/-- The payments of a number of months in order, each by what is owed before it. -/
def instalments (months : Nat) : List (Instalment α) :=
  (List.range months).map fun paid =>
    instalmentOf split monthlyRate (paid + 1) (debtAfter split sum monthlyRate paid)

theorem instalments_succ (months : Nat) :
    instalments split sum monthlyRate (months + 1) =
      instalments split sum monthlyRate months ++
        [instalmentOf split monthlyRate (months + 1) (debtAfter split sum monthlyRate months)] := by
  rw [instalments, List.range_succ, List.map_append]
  rfl

theorem repay_succ (months : Nat) :
    repay split sum monthlyRate (months + 1) =
      (repay split sum monthlyRate months).pay split monthlyRate (months + 1) := by
  rw [repay, List.range'_1_concat, List.foldl_append, Nat.add_comm 1 months]
  rfl

/-- After a number of months, the payments are those of the months, the amounts paid are theirs and
the total is their sum. -/
theorem repay_eq (months : Nat) :
    repay split sum monthlyRate months =
      { remaining := debtAfter split sum monthlyRate months
        paid :=
          Arithmetic.sum ((instalments split sum monthlyRate months).map Instalment.payment)
        payments := ((instalments split sum monthlyRate months).map Instalment.payment).toArray
        instalments := (instalments split sum monthlyRate months).toArray } := by
  induction months with
  | zero => rfl
  | succ months ih =>
      rw [repay_succ, ih, instalments_succ, List.map_append, List.map_singleton,
        Arithmetic.sum_append_singleton, ← List.push_toArray, ← List.push_toArray]
      rfl

theorem exists_getLast?_instalments {months : Nat} (hasMonths : months ≠ 0) :
    ∃ last, (instalments split sum monthlyRate months).getLast? = some last ∧
      last.number = months ∧ last.remaining = debtAfter split sum monthlyRate months := by
  rcases Nat.exists_eq_succ_of_ne_zero hasMonths with ⟨before, rfl⟩
  refine ⟨_, ?_, rfl, rfl⟩
  simp [instalments_succ]

theorem map_number_instalments (months : Nat) :
    (instalments split sum monthlyRate months).map Instalment.number = List.range' 1 months := by
  rw [instalments, List.map_map, List.range'_eq_map_range]
  apply List.map_congr_left
  intro paid _
  exact Nat.add_comm paid 1

theorem exists_of_mem_instalments {months : Nat} {instalment : Instalment α}
    (member : instalment ∈ instalments split sum monthlyRate months) :
    ∃ paid < months,
      instalment =
        instalmentOf split monthlyRate (paid + 1) (debtAfter split sum monthlyRate paid) := by
  rw [instalments] at member
  rcases List.mem_map.mp member with ⟨paid, isPaid, rfl⟩
  exact ⟨paid, List.mem_range.mp isPaid, rfl⟩

/-- The number of a payment tells what is owed after it. -/
theorem remaining_of_mem_instalments {months : Nat} {instalment : Instalment α}
    (member : instalment ∈ instalments split sum monthlyRate months) :
    instalment.remaining = debtAfter split sum monthlyRate instalment.number := by
  rcases exists_of_mem_instalments split sum monthlyRate member with ⟨paid, -, rfl⟩
  rfl

/-- What is repaid of the principal is no longer owed. -/
theorem sum_principals (split : ℚ → Split ℚ) (sum monthlyRate : ℚ) (months : Nat) :
    Arithmetic.sum ((instalments split sum monthlyRate months).map Instalment.principal) =
      sum - debtAfter split sum monthlyRate months := by
  rw [Arithmetic.sum_eq_sum]
  induction months with
  | zero => simp [instalments, debtAfter]
  | succ months ih =>
      rw [instalments_succ, List.map_append, List.sum_append, ih]
      simp only [List.map_singleton, List.sum_singleton, debtAfter, instalmentOf]
      ring

namespace Conditions

variable {conditions : Conditions α}

theorem schedule_of_annuity (isAnnuity : conditions.amortization = .annuity) :
    let payment := annuityPayment conditions.sum conditions.monthlyRate conditions.months
    let paid := instalments (Split.ofPayment payment) conditions.sum conditions.monthlyRate
      conditions.months
    conditions.schedule =
      { total := payment * Nat.cast conditions.months
        overpay := payment * Nat.cast conditions.months - conditions.sum
        payments := paid.map Instalment.payment
        instalments := paid } := by
  intro payment paid
  rw [schedule, isAnnuity]
  simp only [annuitySchedule, repay_eq]
  rfl

theorem schedule_of_differentiated (isDifferentiated : conditions.amortization = .differentiated) :
    let paid := instalments (Split.ofPrincipal (conditions.sum / Nat.cast conditions.months))
      conditions.sum conditions.monthlyRate conditions.months
    let total := Arithmetic.sum (paid.map Instalment.payment)
    conditions.schedule =
      { total
        overpay := total - conditions.sum
        payments := paid.map Instalment.payment
        instalments := paid } := by
  intro paid total
  rw [schedule, isDifferentiated]
  simp only [differentiatedSchedule, repay_eq]
  rfl

/-- The payments that a schedule lists are those of its instalments. -/
theorem payments_schedule (conditions : Conditions α) :
    conditions.schedule.payments = conditions.schedule.instalments.map Instalment.payment := by
  cases kind : conditions.amortization with
  | annuity => rw [schedule_of_annuity kind]
  | differentiated => rw [schedule_of_differentiated kind]

end Conditions

end Loan

end Reckoner
