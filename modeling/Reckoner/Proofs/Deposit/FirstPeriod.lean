import Reckoner.Proofs.Calendar.MonthSpan
import Reckoner.Proofs.Deposit.Acceptance
import Reckoner.Proofs.Deposit.RegularDates

/-!
# Whether the first period fits into the term

Conditions are accepted if a period between two payouts is not longer than the term, where months
and years are taken to be of average length. A term in months or years has as many months as the
period in the calendar as well, and periods of days need no estimate. Only a term in days may be
shorter than a period of months that it was accepted for. Then the first regular payout lies after
the end of the deposit, but by no more days than the longest period exceeds the estimate by.
-/

namespace Reckoner

namespace Deposit

open Date (firstMarch greatest)

variable {start : Date}

/-! ## The end of a deposit as a payout -/

/-- The step of which a term has as many as its unit counts. -/
def termStep : TermUnit → PayoutStep
  | .day => .days 1
  | .month => .months 1
  | .year => .months 12

/-- A deposit ends where so many steps of its unit lead. -/
theorem finishDate_eq_nthPayout (start : Date) (term : Nat) (unit : TermUnit) :
    finishDate start term unit = nthPayout start (termStep unit) term := by
  cases unit with
  | day => simp [finishDate, nthPayout, termStep]
  | month => simp [finishDate, nthPayout, termStep]
  | year =>
      have clamped : Offset.clamp (Offset.clamp term * 12) = Offset.clamp (12 * term) := by
        simp only [Offset.clamp, Offset.least, Offset.greatest]
        omega
      simp [finishDate, nthPayout, termStep, Date.addYears, Date.monthsInYear, clamped]

/-- Steps by more months do not lead to an earlier date. -/
theorem nthPayout_months_le {fewer more number other : Nat} (isLe : fewer * number ≤ more * other) :
    nthPayout start (.months fewer) number ≤ nthPayout start (.months more) other := by
  have clampedLe := addMonths_clamp_le start isLe
  rw [Int.natCast_mul, Int.natCast_mul] at clampedLe
  exact clampedLe

/-- Steps of days pass over so many days, unless the calendar ends before. -/
theorem dayIndex_nthPayout_days_le (counted : firstMarch ≤ start) (count number : Nat) :
    (nthPayout start (.days count) number).dayIndex ≤ start.dayIndex + count * number := by
  rcases nthPayout_cases counted (.days count) number with ⟨notBefore, numberEq⟩ | ⟨isLast, isMore⟩
  · have startEq := Date.dayNumber_eq_add_dayIndex counted
    have payoutEq := Date.dayNumber_eq_add_dayIndex (le_trans counted notBefore)
    simp only [PayoutStep.position, PayoutStep.count] at numberEq
    omega
  · have startEq := Date.dayNumber_eq_add_dayIndex counted
    have lastEq := Date.dayNumber_eq_add_dayIndex (Date.le_greatest firstMarch)
    simp only [PayoutStep.position, PayoutStep.count] at isMore
    rw [isLast]
    omega

theorem le_nthPayout (counted : firstMarch ≤ start) (step : PayoutStep) (number : Nat) :
    start ≤ nthPayout start step number := by
  rcases nthPayout_cases counted step number with ⟨notBefore, _⟩ | ⟨isGreatest, _⟩
  · exact notBefore
  · rw [isGreatest]
    exact start.le_greatest

/-! ## The longest period -/

/-- The days of the longest period between two payouts. -/
def PayoutFrequency.greatestDays : PayoutFrequency → Nat
  | daily => 1
  | weekly => 7
  | monthly => 31
  | quarterly => 92
  | semiAnnual => 184
  | annual => 366

theorem PayoutFrequency.step_days {frequency : PayoutFrequency} {count : Nat}
    (isDays : frequency.step = .days count) :
    count ≤ 7 ∧ frequency.approximateDays = count ∧ frequency.greatestDays = count := by
  cases frequency <;> cases isDays <;> decide

theorem PayoutFrequency.step_months {frequency : PayoutFrequency} {count : Nat}
    (isMonths : frequency.step = .months count) :
    count ≤ 12 ∧ frequency.approximateDays = count * 30 := by
  cases frequency <;> cases isMonths <;> decide

theorem monthsSpanAtMost_greatestDays {frequency : PayoutFrequency} {count : Nat}
    (isMonths : frequency.step = .months count) :
    Date.MonthsSpanAtMost count frequency.greatestDays := by
  refine Date.monthsSpanAtMost_of_marchMonths (PayoutFrequency.step_months isMonths).1 ?_ ?_
  · intro month notBefore inside
    cases frequency <;> cases isMonths <;> simp only [PayoutFrequency.greatestDays] <;> omega
  · intro month inside notBefore
    cases frequency <;> cases isMonths <;> simp only [PayoutFrequency.greatestDays] <;> omega

/-- The first regular payout is at most the longest period after the start. -/
theorem dayIndex_firstPayout_le (counted : firstMarch ≤ start) (frequency : PayoutFrequency) :
    (nthPayout start frequency.step 1).dayIndex ≤ start.dayIndex + frequency.greatestDays := by
  cases stepEq : frequency.step with
  | days count =>
      have bound := dayIndex_nthPayout_days_le counted count 1
      have countEq := (PayoutFrequency.step_days stepEq).2.2
      omega
  | months count =>
      have bound := Date.dayIndex_addMonths_le (monthsSpanAtMost_greatestDays stepEq) start
      have countLe := (PayoutFrequency.step_months stepEq).1
      have clamped : Offset.clamp (count * (1 : Nat)) = count := by
        simp only [Offset.clamp, Offset.least, Offset.greatest]
        omega
      rw [nthPayout, clamped]
      omega

/-! ## Terms in days, and in months or years -/

variable {term : Nat} {unit : TermUnit} {frequency : PayoutFrequency}

/-- A term that has room for a period by the estimate has months enough for it. -/
theorem exists_termStep_months (fits : frequency.fitsInto unit term = true)
    (notDays : unit ≠ .day) :
    ∃ count, termStep unit = .months count ∧ frequency.approximateDays ≤ 31 * (count * term) := by
  rw [PayoutFrequency.fitsInto, decide_eq_true_eq] at fits
  cases unit with
  | day => exact absurd rfl notDays
  | month =>
      simp only [TermUnit.approximateDays, TermUnit.daysInAverageMonth] at fits
      exact ⟨1, rfl, by omega⟩
  | year =>
      simp only [TermUnit.approximateDays, TermUnit.daysInAverageYear] at fits
      exact ⟨12, rfl, by omega⟩

/-- A term in months or years has room for every period that is not longer by the estimate. -/
theorem firstPayout_le_finishDate (counted : firstMarch ≤ start)
    (fits : frequency.fitsInto unit term = true) (notDays : unit ≠ .day)
    (beforeLast : finishDate start term unit < greatest) :
    nthPayout start frequency.step 1 ≤ finishDate start term unit := by
  rcases exists_termStep_months fits notDays with ⟨months, stepEq, estimate⟩
  rw [finishDate_eq_nthPayout, stepEq] at beforeLast ⊢
  cases periodEq : frequency.step with
  | days count =>
      rcases PayoutFrequency.step_days periodEq with ⟨isShort, estimateEq, _⟩
      have countPos := frequency.count_step_pos
      rw [periodEq, PayoutStep.count] at countPos
      have oneMonth : nthPayout start (.months 1) 1 = start.addMonths 1 := rfl
      have afterMonth : nthPayout start (.months 1) 1 ≤ nthPayout start (.months months) term :=
        nthPayout_months_le (by omega)
      rw [oneMonth] at afterMonth
      have monthDays :=
        Date.add_le_dayIndex_addMonths_one (lt_of_le_of_lt afterMonth beforeLast)
      have periodDays := dayIndex_nthPayout_days_le counted count 1
      exact le_trans (Date.dayIndex_le_iff.mp (by omega)) afterMonth
  | months count =>
      rcases PayoutFrequency.step_months periodEq with ⟨upToYear, estimateEq⟩
      exact nthPayout_months_le (by omega)

theorem dayIndex_finishDate_day (counted : firstMarch ≤ start)
    (beforeLast : finishDate start term .day < greatest) :
    (finishDate start term .day).dayIndex = start.dayIndex + term := by
  have leadsTo := (nthPayout_eq_iff counted beforeLast).mp
    (finishDate_eq_nthPayout start term .day).symm
  simp only [termStep, PayoutStep.LeadsTo] at leadsTo
  omega

/-- A term in days has room for the first period if it has as many days. -/
theorem firstPayout_le_iff (counted : firstMarch ≤ start) (frequency : PayoutFrequency)
    (beforeLast : finishDate start term .day < greatest) :
    nthPayout start frequency.step 1 ≤ finishDate start term .day ↔
      (start.daysUpTo (nthPayout start frequency.step 1)).length ≤ term := by
  have payoutIndex := Date.dayIndex_eq_add_length (le_nthPayout counted frequency.step 1)
  have finishIndex := dayIndex_finishDate_day counted beforeLast
  rw [← Date.dayIndex_le_iff]
  omega

/-- A term in days ends before the first payout by no more than the estimate is too short. -/
theorem length_daysUpTo_firstPayout_le (counted : firstMarch ≤ start)
    (fits : frequency.fitsInto unit term = true)
    (beforeLast : finishDate start term unit < greatest) :
    ((finishDate start term unit).daysUpTo (nthPayout start frequency.step 1)).length ≤
      frequency.greatestDays - frequency.approximateDays := by
  rcases le_total (nthPayout start frequency.step 1) (finishDate start term unit) with
    isInside | isOutside
  · rw [Date.daysUpTo_of_le isInside]
    exact Nat.zero_le _
  · rcases eq_or_ne unit .day with rfl | notDays
    · rw [PayoutFrequency.fitsInto, decide_eq_true_eq, TermUnit.approximateDays] at fits
      have finishIndex := dayIndex_finishDate_day counted beforeLast
      have payoutIndex := dayIndex_firstPayout_le counted frequency
      have length := Date.dayIndex_eq_add_length isOutside
      omega
    · have isInside := firstPayout_le_finishDate counted fits notDays beforeLast
      rw [Date.daysUpTo_of_le isInside]
      exact Nat.zero_le _

namespace Conditions

variable {α : Type} [Arithmetic α] {conditions : Conditions α}

theorem fitsInto_of_accepted (accepted : conditions.violation? = none) :
    conditions.payoutFrequency.fitsInto conditions.termUnit conditions.term = true := by
  rw [violation?] at accepted
  iterate 7
    split at accepted
    · contradiction
  split at accepted
  · contradiction
  split at accepted
  · next fits => exact fits
  · contradiction

/-- In a deposit whose conditions are accepted and that ends before the calendar does, the first
regular payout is not after the last day if the term is counted in months or years, if payouts are
counted in days, or if the term has as many days as the longest period. A term in days has room for
the first period just if it has as many days as the calendar has up to the first payout, and it ends
before that payout by no more days than the longest period exceeds the estimate by. -/
theorem accepted_fits_first_period (conditions : Conditions α)
    (accepted : conditions.violation? = none) (counted : firstMarch ≤ conditions.startDate)
    (beforeLast : conditions.finishDate < greatest) :
    let firstPayout := nthPayout conditions.startDate conditions.payoutFrequency.step 1
    (conditions.termUnit ≠ .day ∨ (∃ count, conditions.payoutFrequency.step = .days count) ∨
        conditions.payoutFrequency.greatestDays ≤ conditions.term →
      firstPayout ≤ conditions.finishDate) ∧
    (conditions.termUnit = .day → (firstPayout ≤ conditions.finishDate ↔
      (conditions.startDate.daysUpTo firstPayout).length ≤ conditions.term)) ∧
    (conditions.finishDate.daysUpTo firstPayout).length ≤
      conditions.payoutFrequency.greatestDays - conditions.payoutFrequency.approximateDays := by
  intro firstPayout
  have fits := fitsInto_of_accepted accepted
  have notMuchLater := length_daysUpTo_firstPayout_le counted fits beforeLast
  refine ⟨?_, ?_, notMuchLater⟩
  · intro hasRoom
    rcases eq_or_ne conditions.termUnit .day with isDays | notDays
    · have longEnough : conditions.payoutFrequency.greatestDays ≤ conditions.term := by
        rcases hasRoom with notDays | ⟨count, stepEq⟩ | longEnough
        · exact absurd isDays notDays
        · have estimateIsExact := PayoutFrequency.step_days stepEq
          rw [PayoutFrequency.fitsInto, decide_eq_true_eq, isDays, TermUnit.approximateDays] at fits
          omega
        · exact longEnough
      have payoutIndex : firstPayout.dayIndex ≤
          conditions.startDate.dayIndex + conditions.payoutFrequency.greatestDays :=
        dayIndex_firstPayout_le counted conditions.payoutFrequency
      rw [finishDate, isDays] at beforeLast ⊢
      have finishIndex := dayIndex_finishDate_day counted beforeLast
      exact Date.dayIndex_le_iff.mp (by omega)
    · exact firstPayout_le_finishDate counted fits notDays beforeLast
  · intro isDays
    rw [finishDate, isDays] at beforeLast ⊢
    exact firstPayout_le_iff counted conditions.payoutFrequency beforeLast

/-- The first day of a month with 31 days. -/
def newYear : Date := (Date.ofTriple? 2023 1 1).get (by decide)

/-- A term in days with a payout every month. -/
def monthlyForDays (term : Nat) : Conditions Float :=
  { shortest newYear .day with term, payoutFrequency := .monthly }

/-- In a long month, 31 days have room for the first payout, and 30 days end a day before it. -/
theorem accepted_fits_first_period_of_long_month :
    (monthlyForDays 31).violation? = none ∧ (monthlyForDays 30).violation? = none ∧
      firstMarch ≤ newYear ∧ (monthlyForDays 31).finishDate < greatest ∧
      (monthlyForDays 30).finishDate < greatest ∧
      nthPayout newYear PayoutFrequency.monthly.step 1 ≤ (monthlyForDays 31).finishDate ∧
      ((monthlyForDays 30).finishDate.daysUpTo
        (nthPayout newYear PayoutFrequency.monthly.step 1)).length ≤ 1 := by
  have acceptedLong : (monthlyForDays 31).violation? = none := by decide +kernel
  have acceptedShort : (monthlyForDays 30).violation? = none := by decide +kernel
  have counted : firstMarch ≤ newYear := by decide
  have longEnds : (monthlyForDays 31).finishDate < greatest := by decide
  have shortEnds : (monthlyForDays 30).finishDate < greatest := by decide
  have ofLong := accepted_fits_first_period (monthlyForDays 31) acceptedLong counted longEnds
  have ofShort := accepted_fits_first_period (monthlyForDays 30) acceptedShort counted shortEnds
  exact ⟨acceptedLong, acceptedShort, counted, longEnds, shortEnds,
    ofLong.1 (Or.inr (Or.inr (le_refl 31))), ofShort.2.2⟩

/-- Without its restrictions the statement fails: in a month with 31 days, a term of 30 days is
accepted for a payout every month and ends before the first one. -/
theorem accepted_ends_before_first_payout :
    (monthlyForDays 30).violation? = none ∧ firstMarch ≤ newYear ∧
      (monthlyForDays 30).finishDate < greatest ∧
      ¬nthPayout newYear PayoutFrequency.monthly.step 1 ≤ (monthlyForDays 30).finishDate := by
  decide +kernel

end Conditions

end Deposit

end Reckoner
