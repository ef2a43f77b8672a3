import Reckoner.Proofs.Deposit.Timetable
import Reckoner.Deposit.Simulation

/-!
# Accepted deposits end after they start

Conditions that are accepted have a positive term. So the deposit ends after the day it starts on,
and all payout dates lie in between, as far as dates can be moved forward: a deposit that starts on
the last day of the calendar ends on that day, and days are counted from the first of March of year
0 on, whereas months are counted in the whole calendar.
-/

namespace Reckoner

namespace Deposit

open Date (firstMarch greatest)

/-! ## Moving forward -/

theorem clamp_natCast_pos {value : Nat} (isPos : 0 < value) :
    ∃ clamped : Nat, Offset.clamp value = clamped ∧ 0 < clamped := by
  rcases clamp_natCast value with ⟨clamped, clampedEq, _, unlessGreatest⟩
  refine ⟨clamped, clampedEq, ?_⟩
  simp only [Offset.greatest] at unlessGreatest
  omega

/-- A deposit with a positive term ends after it starts, unless the calendar ends. -/
theorem lt_finishDate {start : Date} (notLast : start < greatest) {term : Nat} (termPos : 0 < term)
    {unit : TermUnit} (counted : unit = .day → firstMarch ≤ start) :
    start < finishDate start term unit := by
  rcases clamp_natCast_pos termPos with ⟨clamped, clampedEq, clampedPos⟩
  simp only [finishDate, clampedEq]
  cases unit with
  | day => exact Date.lt_addDays (counted rfl) notLast clampedPos
  | month => exact Date.lt_addMonths notLast clampedPos
  | year =>
      rcases clamp_natCast_pos (Nat.mul_pos clampedPos (show 0 < 12 by decide)) with
        ⟨months, monthsEq, monthsPos⟩
      simp only [Date.addYears, Date.monthsInYear]
      push_cast at monthsEq
      rw [monthsEq]
      exact Date.lt_addMonths notLast monthsPos

/-- Payouts that are counted in months lie after the start in the whole calendar. -/
theorem lt_nthPayout_months {start : Date} (notLast : start < greatest) {count number : Nat}
    (countPos : 0 < count) (isPos : 0 < number) :
    start < nthPayout start (.months count) number := by
  rcases clamp_natCast_pos (Nat.mul_pos countPos isPos) with ⟨months, monthsEq, monthsPos⟩
  rw [Int.natCast_mul] at monthsEq
  simp only [nthPayout, monthsEq]
  exact Date.lt_addMonths notLast monthsPos

/-- Payout dates lie after the start of the deposit and not after its end, if days are only counted
from the first of March of year 0 on. -/
theorem mem_payoutDates_of_counted {start finish date : Date} (isLater : start < finish)
    {frequency : PayoutFrequency}
    (counted : ∀ count, frequency.step = .days count → firstMarch ≤ start)
    (member : date ∈ payoutDates start finish frequency) : start < date ∧ date ≤ finish := by
  cases stepEq : frequency.step with
  | days count => exact mem_payoutDates (counted count stepEq) isLater member
  | months count =>
      have countPos := frequency.count_step_pos
      rw [stepEq] at countPos
      rw [payoutDates_eq, List.mem_append, List.mem_singleton] at member
      rcases member with regular | rfl
      · simp only [regularPayoutDates, stepEq, List.mem_map, List.mem_range'_1] at regular
        rcases regular with ⟨number, ⟨isPos, isLess⟩, rfl⟩
        exact ⟨lt_nthPayout_months (lt_of_lt_of_le isLater finish.le_greatest) countPos isPos,
          le_of_lt (nthPayout_lt_finish isPos (by omega))⟩
      · exact ⟨isLater, le_rfl⟩

/-- A deposit that starts on the last day of the calendar ends and pays out on that day. -/
theorem timetable_greatest (term : Nat) (unit : TermUnit) (frequency : PayoutFrequency) :
    finishDate greatest term unit = greatest ∧
      payoutDates greatest greatest frequency = [greatest] := by
  have counted : firstMarch ≤ greatest := Date.le_greatest _
  refine ⟨le_antisymm (Date.le_greatest _) (le_finishDate counted term unit), ?_⟩
  have noRegular : regularPayoutDates greatest greatest frequency = [] := by
    rw [List.eq_nil_iff_forall_not_mem]
    intro date member
    have inside := mem_regularPayoutDates counted member
    exact lt_asymm inside.1 inside.2
  rw [payoutDates_eq, noRegular, List.nil_append]

namespace Conditions

variable {α : Type} [Arithmetic α] {conditions : Conditions α}

theorem term_pos_of_accepted (accepted : conditions.violation? = none) : 0 < conditions.term := by
  rw [violation?] at accepted
  split at accepted
  · contradiction
  split at accepted
  · contradiction
  split at accepted
  · contradiction
  next notZero =>
  exact Nat.pos_of_ne_zero notZero

/-- A deposit whose conditions are accepted ends after the day it starts on, if that is not the last
day of the calendar and, for a term in days, days are counted from there. Its payout dates lie
between its start and its end, the end included, if payouts in days are counted from there as well.
A deposit that starts on the last day of the calendar ends and pays out on that day. -/
theorem accepted_ends_after_start (conditions : Conditions α)
    (accepted : conditions.violation? = none) :
    (conditions.startDate < greatest →
      (conditions.termUnit = .day → firstMarch ≤ conditions.startDate) →
        conditions.startDate < conditions.finishDate ∧
          ((∀ count, conditions.payoutFrequency.step = .days count →
              firstMarch ≤ conditions.startDate) →
            ∀ payout ∈ conditions.payoutDates,
              conditions.startDate < payout ∧ payout ≤ conditions.finishDate)) ∧
      (conditions.startDate = greatest →
        conditions.finishDate = greatest ∧ conditions.payoutDates = [greatest]) := by
  constructor
  · intro notLast countedTerm
    have isLater : conditions.startDate < conditions.finishDate :=
      lt_finishDate notLast (term_pos_of_accepted accepted) countedTerm
    refine ⟨isLater, ?_⟩
    intro countedPayouts payout member
    exact mem_payoutDates_of_counted isLater countedPayouts member
  · intro isLast
    rcases timetable_greatest conditions.term conditions.termUnit conditions.payoutFrequency with
      ⟨finishEq, datesEq⟩
    have finishDateEq : conditions.finishDate = greatest := by rw [finishDate, isLast, finishEq]
    refine ⟨finishDateEq, ?_⟩
    rw [payoutDates, finishDateEq, isLast, datesEq]

/-- Three days before the first day from which on days are counted. -/
def beforeFirstMarch : Date :=
  ⟨0, 2, 27, firstMarch.le_year, firstMarch.year_le, Date.leapDay.le_month, Date.leapDay.month_le,
    by decide, by decide⟩

/-- A term of one day, month or year with a payout every day. -/
def shortest (startDate : Date) (termUnit : TermUnit) : Conditions Float where
  sum := 1000.0
  rate := 5.0
  term := 1
  termUnit
  capitalization := false
  payoutFrequency := .daily
  taxRate := 0.0
  keyRate := 0.0
  nonTaxableRemainder := 0.0
  startDate
  funds := []
  withdrawals := []

/-- One day from the first of March of year 0 on, and one month from the first day of the calendar
on with a payout at its end. -/
theorem accepted_ends_after_start_of_shortest :
    (shortest firstMarch .day).violation? = none ∧ firstMarch < greatest ∧
      firstMarch < (shortest firstMarch .day).finishDate ∧
      (∀ payout ∈ (shortest firstMarch .day).payoutDates,
        firstMarch < payout ∧ payout ≤ (shortest firstMarch .day).finishDate) ∧
      { shortest Date.least .month with payoutFrequency := .monthly }.violation? = none ∧
      Date.least < greatest ∧
      Date.least < { shortest Date.least .month with payoutFrequency := .monthly }.finishDate := by
  have acceptedDay : (shortest firstMarch .day).violation? = none := by decide +kernel
  have acceptedMonth :
      { shortest Date.least .month with payoutFrequency := .monthly }.violation? = none := by
    decide +kernel
  have beforeLast : firstMarch < greatest := by decide
  have leastBeforeLast : Date.least < greatest := by decide
  have ofDay := (accepted_ends_after_start _ acceptedDay).1 beforeLast fun _ => le_rfl
  have ofMonth := (accepted_ends_after_start _ acceptedMonth).1 leastBeforeLast
    fun isDay => absurd isDay (by decide)
  exact ⟨acceptedDay, beforeLast, ofDay.1, ofDay.2 fun _ _ => le_rfl, acceptedMonth,
    leastBeforeLast, ofMonth.1⟩

/-- Without its restrictions the statement fails: on the last day of the calendar, for a term in
days that starts before days are counted, and there for payouts in days as well. -/
theorem accepted_ends_not_after_start :
    (shortest greatest .month).violation? = none ∧
      ¬greatest < (shortest greatest .month).finishDate ∧
      (shortest beforeFirstMarch .day).violation? = none ∧
      ¬beforeFirstMarch < (shortest beforeFirstMarch .day).finishDate ∧
      (shortest beforeFirstMarch .month).violation? = none ∧
      Date.least ∈ (shortest beforeFirstMarch .month).payoutDates ∧
      ¬beforeFirstMarch < Date.least := by
  decide +kernel

end Conditions

end Deposit

end Reckoner
