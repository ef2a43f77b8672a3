import Reckoner.Deposit.Timetable
import Reckoner.Proofs.Calendar.Dated
import Reckoner.Proofs.Calendar.Month
import Reckoner.Proofs.Calendar.Moving

/-!
# The timetable of a deposit is in order

Payout dates increase and lie after the start of the deposit and not after its end, which is the
last of them. The dated transactions lie within the deposit, both ends included, and are sorted by
date.
-/

namespace Reckoner

namespace Deposit

open Date (firstMarch greatest)

/-! ## Searching for the end -/

/-- All numbers before the one that is found, or before the end of the search, fail the test. -/
theorem leastFrom?_fails {test : Nat → Bool} {fuel first bound number : Nat}
    (searched : bound ≤ first + fuel) (notEarlier : first ≤ number)
    (before : number < (leastFrom? test fuel first).getD bound) : test number = false := by
  induction fuel generalizing first with
  | zero =>
      simp only [leastFrom?, Option.getD_none] at before
      omega
  | succ fuel ih =>
      rw [leastFrom?] at before
      split at before
      · simp only [Option.getD_some] at before
        omega
      · next fails =>
        rcases Nat.eq_or_lt_of_le notEarlier with rfl | isLater
        · exact Bool.eq_false_iff.mpr fails
        · exact ih (by omega) isLater before

/-- What is found passes the test, as the end of the search does. -/
theorem leastFrom?_passes (test : Nat → Bool) {fuel first bound : Nat}
    (passes : test bound = true) : test ((leastFrom? test fuel first).getD bound) = true := by
  induction fuel generalizing first with
  | zero => exact passes
  | succ fuel ih =>
      rw [leastFrom?]
      split
      · next found => exact found
      · exact ih

/-- What is found is no greater than any number of the search that passes the test. -/
theorem leastFrom?_le {test : Nat → Bool} {fuel first bound number : Nat}
    (searched : bound ≤ first + fuel) (notEarlier : first ≤ number) (passes : test number = true) :
    (leastFrom? test fuel first).getD bound ≤ number := by
  by_contra isGreater
  have fails : test number = false :=
    leastFrom?_fails searched notEarlier (Nat.lt_of_not_le isGreater)
  rw [passes] at fails
  contradiction

theorem le_leastFrom? (test : Nat → Bool) {fuel first bound lower : Nat} (notBefore : lower ≤ first)
    (notBelow : lower ≤ bound) : lower ≤ (leastFrom? test fuel first).getD bound := by
  induction fuel generalizing first with
  | zero => exact notBelow
  | succ fuel ih =>
      rw [leastFrom?]
      split
      · exact notBefore
      · exact ih (Nat.le_succ_of_le notBefore)

/-! ## Payout dates -/

/-- A natural number is clamped from above only. -/
theorem clamp_natCast (value : Nat) :
    ∃ clamped : Nat, Offset.clamp value = clamped ∧ clamped ≤ value ∧
      (clamped < Offset.greatest → clamped = value) := by
  refine ⟨(Offset.clamp value).toNat, ?_, ?_, ?_⟩
  · simp only [Offset.clamp, Offset.least, Offset.greatest]
    omega
  · simp only [Offset.clamp, Offset.least, Offset.greatest]
    omega
  · simp only [Offset.clamp, Offset.least, Offset.greatest]
    omega

/-- A date moved by a natural number of months lies as many months later, on the same day as far as
the month has it, or the calendar ends before. -/
theorem addMonths_clamp_cases (start : Date) (months : Nat) :
    ((start.addMonths (Offset.clamp months)).monthIndex = start.monthIndex + months ∧
        (start.addMonths (Offset.clamp months)).day =
          min start.day (daysInMonth (start.addMonths (Offset.clamp months)).year
            (start.addMonths (Offset.clamp months)).month)) ∨
      (start.addMonths (Offset.clamp months) = greatest ∧
        greatest.monthIndex < start.monthIndex + months) := by
  rw [Date.addMonths_clamp]
  by_cases inside : Date.IsMonthIndex (start.monthIndex + months)
  · left
    exact Date.addMonths_of_mem inside
  · right
    rcases Date.addMonths_cases start months with ⟨isMonth, _⟩ | ⟨isMore, isGreatest⟩
    · exact absurd isMonth inside
    · exact ⟨isGreatest, isMore⟩

theorem addMonths_clamp_le (start : Date) {fewer more : Nat} (isLe : fewer ≤ more) :
    start.addMonths (Offset.clamp fewer) ≤ start.addMonths (Offset.clamp more) := by
  rw [Date.addMonths_clamp, Date.addMonths_clamp]
  exact start.addMonths_le_addMonths isLe

/-- The number of days or months of a step. -/
def PayoutStep.count : PayoutStep → Nat
  | .days count => count
  | .months count => count

theorem PayoutFrequency.count_step_pos (frequency : PayoutFrequency) :
    0 < frequency.step.count := by
  cases frequency <;> decide

/-- The position of a date in the unit of a step. -/
def PayoutStep.position : PayoutStep → Date → Int
  | .days _ => Date.dayNumber
  | .months _ => Date.monthIndex

theorem lt_of_position_lt (step : PayoutStep) {first second : Date}
    (countedFirst : firstMarch ≤ first)
    (countedSecond : firstMarch ≤ second) (isLess : step.position first < step.position second) :
    first < second := by
  cases step with
  | days count => exact (Date.dayNumber_lt_iff countedFirst countedSecond).mp isLess
  | months count => exact Date.lt_of_monthIndex_lt isLess

theorem position_le_greatest (step : PayoutStep) {date : Date} (counted : firstMarch ≤ date) :
    step.position date ≤ step.position greatest := by
  cases step with
  | days count => exact Date.dayNumber_le_greatest counted
  | months count => exact date.isMonthIndex_monthIndex.2

/-- A payout lies as many steps after the start as its number says, or the calendar ends before, as
it does long before the greatest 32-bit number of days. -/
theorem nthPayout_cases {start : Date} (counted : firstMarch ≤ start) (step : PayoutStep)
    (number : Nat) :
    (start ≤ nthPayout start step number ∧ step.position (nthPayout start step number) =
        step.position start + (step.count * number : Nat)) ∨
      (nthPayout start step number = greatest ∧
        step.position greatest < step.position start + (step.count * number : Nat)) := by
  rcases clamp_natCast (step.count * number) with ⟨clamped, clampedEq, clampedLe, unlessGreatest⟩
  rw [Int.natCast_mul] at clampedEq
  cases step with
  | days count =>
      simp only [nthPayout, PayoutStep.count, PayoutStep.position] at *
      rw [clampedEq]
      rcases Date.addDays_cases counted clamped with ⟨notEarlier, numberEq⟩ | ⟨isGreatest, isMore⟩
      · left
        have := Date.dayNumber_le_greatest (le_trans counted notEarlier)
        have := Date.dayNumber_firstMarch_le counted
        have lastNumber : greatest.dayNumber = 3652059 := by decide
        have firstNumber : firstMarch.dayNumber = -305 := by decide
        have := unlessGreatest (by simp only [Offset.greatest]; omega)
        exact ⟨notEarlier, by omega⟩
      · right
        exact ⟨isGreatest, by omega⟩
  | months count =>
      have moved := addMonths_clamp_cases start (count * number)
      rw [Int.natCast_mul] at moved
      simp only [nthPayout, PayoutStep.count, PayoutStep.position] at *
      rcases moved with ⟨monthEq, _⟩ | ⟨isGreatest, isMore⟩
      · left
        refine ⟨?_, by omega⟩
        rw [clampedEq]
        exact start.le_addMonths clamped
      · right
        exact ⟨isGreatest, by omega⟩

theorem nthPayout_lt_nthPayout {start finish : Date} (counted : firstMarch ≤ start)
    {step : PayoutStep} (countPos : 0 < step.count) {earlier later : Nat} (isLess : earlier < later)
    (beforeFinish : nthPayout start step later < finish) :
    nthPayout start step earlier < nthPayout start step later := by
  have notGreatest := lt_of_lt_of_le beforeFinish finish.le_greatest
  have fewerSteps : step.count * earlier < step.count * later :=
    Nat.mul_lt_mul_of_pos_left isLess countPos
  rcases nthPayout_cases counted step later with ⟨laterInside, laterEq⟩ | ⟨laterGreatest, _⟩
  · rcases nthPayout_cases counted step earlier with
      ⟨earlierInside, earlierEq⟩ | ⟨earlierGreatest, isMore⟩
    · exact lt_of_position_lt step (le_trans counted earlierInside) (le_trans counted laterInside)
        (by omega)
    · have := position_le_greatest step (le_trans counted laterInside)
      omega
  · exact absurd laterGreatest (ne_of_lt notGreatest)

theorem lt_nthPayout {start finish : Date} (counted : firstMarch ≤ start) {step : PayoutStep}
    (countPos : 0 < step.count) {number : Nat} (isPos : 0 < number)
    (beforeFinish : nthPayout start step number < finish) :
    start < nthPayout start step number := by
  have isLater := nthPayout_lt_nthPayout counted countPos isPos beforeFinish
  rcases nthPayout_cases counted step 0 with ⟨notEarlier, _⟩ | ⟨isGreatest, _⟩
  · exact lt_of_le_of_lt notEarlier isLater
  · rw [isGreatest] at isLater
    exact absurd isLater (not_lt.mpr (Date.le_greatest _))

theorem nthPayout_lt_finish {start finish : Date} {step : PayoutStep} {number : Nat}
    (isPos : 0 < number) (before : number < lastPayoutNumber start finish step) :
    nthPayout start step number < finish := by
  have fails := leastFrom?_fails (Nat.le_add_left _ _) isPos before
  exact not_le.mp (of_decide_eq_false fails)

/-- From any start, the calendar ends before as many payouts as it has days. -/
theorem nthPayout_eq_greatest (start : Date) {step : PayoutStep} (countPos : 0 < step.count)
    {number : Nat} (isLarge : greatestPayoutCount ≤ number) :
    nthPayout start step number = greatest := by
  have countEq : greatestPayoutCount = 7304484 := by decide
  have manySteps := Nat.le_mul_of_pos_left number countPos
  cases step with
  | days count =>
      rcases clamp_natCast (count * number) with ⟨clamped, clampedEq, -, unlessGreatest⟩
      have := start.dayNumber_mem
      have firstNumber : Date.least.dayNumber = -3652424 := by decide
      have lastNumber : greatest.dayNumber = 3652059 := by decide
      simp only [PayoutStep.count, Offset.greatest] at manySteps unlessGreatest
      rw [Int.natCast_mul] at clampedEq
      rw [nthPayout, clampedEq]
      exact Date.ofDayNumber_of_gt (by omega)
  | months count =>
      have moved := addMonths_clamp_cases start (count * number)
      have := start.isMonthIndex_monthIndex.1
      have := (start.addMonths (Offset.clamp (count * number : Nat))).isMonthIndex_monthIndex.2
      have firstMonth : Date.least.monthIndex = -119988 := by decide
      have lastMonth : greatest.monthIndex = 119999 := by decide
      simp only [PayoutStep.count] at manySteps
      rw [Int.natCast_mul] at *
      rcases moved with ⟨monthEq, _⟩ | ⟨isGreatest, _⟩
      · omega
      · exact isGreatest

theorem finish_le_nthPayout_greatestCount (start finish : Date) {step : PayoutStep}
    (countPos : 0 < step.count) : finish ≤ nthPayout start step greatestPayoutCount := by
  rw [nthPayout_eq_greatest start countPos le_rfl]
  exact finish.le_greatest

/-- The search for the last payout is long enough: by its end, the calendar has ended. -/
theorem finish_le_nthPayout_last (start finish : Date) {step : PayoutStep}
    (countPos : 0 < step.count) :
    finish ≤ nthPayout start step (lastPayoutNumber start finish step) :=
  of_decide_eq_true (leastFrom?_passes
    (fun number => decide (finish ≤ nthPayout start step number))
    (decide_eq_true (finish_le_nthPayout_greatestCount start finish countPos)))

/-- The payout dates but the last one. -/
def regularPayoutDates (start finish : Date) (frequency : PayoutFrequency) : List Date :=
  (List.range' 1 (lastPayoutNumber start finish frequency.step - 1)).map
    (nthPayout start frequency.step)

theorem payoutDates_eq (start finish : Date) (frequency : PayoutFrequency) :
    payoutDates start finish frequency = regularPayoutDates start finish frequency ++ [finish] :=
  rfl

theorem mem_regularPayoutDates {start finish date : Date} (counted : firstMarch ≤ start)
    {frequency : PayoutFrequency} (member : date ∈ regularPayoutDates start finish frequency) :
    start < date ∧ date < finish := by
  simp only [regularPayoutDates, List.mem_map, List.mem_range'_1] at member
  rcases member with ⟨number, ⟨isPos, isLess⟩, rfl⟩
  have beforeFinish : nthPayout start frequency.step number < finish :=
    nthPayout_lt_finish isPos (by omega)
  exact ⟨lt_nthPayout counted frequency.count_step_pos isPos beforeFinish, beforeFinish⟩

/-- The payouts before the last one are those before the end of the deposit. -/
theorem lt_lastPayoutNumber_iff {start finish : Date} (counted : firstMarch ≤ start)
    {frequency : PayoutFrequency} {number : Nat} (isPos : 0 < number) :
    number < lastPayoutNumber start finish frequency.step ↔
      nthPayout start frequency.step number < finish := by
  refine ⟨nthPayout_lt_finish isPos, ?_⟩
  intro beforeFinish
  by_contra notBefore
  have finishLe := finish_le_nthPayout_last start finish frequency.count_step_pos
  rcases Nat.eq_or_lt_of_le (Nat.le_of_not_lt notBefore) with same | isLess
  · rw [same] at finishLe
    exact absurd beforeFinish (not_lt.mpr finishLe)
  · have isEarlier := nthPayout_lt_nthPayout counted frequency.count_step_pos isLess beforeFinish
    exact absurd (lt_trans isEarlier beforeFinish) (not_lt.mpr finishLe)

/-- Before the end of the deposit, payout dates depend on the start and the frequency only. -/
theorem mem_payoutDates_iff {start finish date : Date} (counted : firstMarch ≤ start)
    {frequency : PayoutFrequency} (beforeFinish : date < finish) :
    date ∈ payoutDates start finish frequency ↔
      ∃ number, 0 < number ∧ nthPayout start frequency.step number = date := by
  rw [payoutDates_eq, List.mem_append, List.mem_singleton, or_iff_left (ne_of_lt beforeFinish)]
  simp only [regularPayoutDates, List.mem_map, List.mem_range'_1]
  constructor
  · rintro ⟨number, ⟨isPos, _⟩, found⟩
    exact ⟨number, isPos, found⟩
  · rintro ⟨number, isPos, rfl⟩
    have isRegular := (lt_lastPayoutNumber_iff counted isPos).mpr beforeFinish
    exact ⟨number, ⟨isPos, by omega⟩, rfl⟩

/-- Payout dates increase. -/
theorem pairwise_payoutDates {start : Date} (counted : firstMarch ≤ start) (finish : Date)
    (frequency : PayoutFrequency) : (payoutDates start finish frequency).Pairwise (· < ·) := by
  rw [payoutDates_eq, List.pairwise_append]
  refine ⟨?_, List.pairwise_singleton _ _, ?_⟩
  · rw [regularPayoutDates, List.pairwise_map]
    refine List.Pairwise.imp_of_mem ?_ List.pairwise_lt_range'
    intro earlier later earlierMember laterMember isLess
    rw [List.mem_range'_1] at earlierMember laterMember
    have beforeFinish : nthPayout start frequency.step later < finish :=
      nthPayout_lt_finish (by omega) (by omega)
    exact nthPayout_lt_nthPayout counted frequency.count_step_pos isLess beforeFinish
  · intro regular member last isLast
    rw [List.mem_singleton] at isLast
    rw [isLast]
    exact (mem_regularPayoutDates counted member).2

/-- Payout dates lie after the start of the deposit and not after its end. -/
theorem mem_payoutDates {start finish date : Date} (counted : firstMarch ≤ start)
    (isLater : start < finish) {frequency : PayoutFrequency}
    (member : date ∈ payoutDates start finish frequency) : start < date ∧ date ≤ finish := by
  rw [payoutDates_eq, List.mem_append, List.mem_singleton] at member
  rcases member with regular | rfl
  · have inside := mem_regularPayoutDates counted regular
    exact ⟨inside.1, le_of_lt inside.2⟩
  · exact ⟨isLater, le_rfl⟩

/-! ## The end of the deposit -/

theorem le_finishDate {start : Date} (counted : firstMarch ≤ start) (term : Nat) (unit : TermUnit) :
    start ≤ finishDate start term unit := by
  rcases clamp_natCast term with ⟨clamped, clampedEq, _, _⟩
  simp only [finishDate, clampedEq]
  cases unit with
  | day =>
      rcases Date.addDays_cases counted clamped with ⟨notEarlier, _⟩ | ⟨isGreatest, _⟩
      · exact notEarlier
      · simp only [isGreatest]
        exact start.le_greatest
  | month => exact start.le_addMonths clamped
  | year =>
      rcases clamp_natCast (clamped * 12) with ⟨months, monthsEq, _, _⟩
      simp only [Date.addYears, Date.monthsInYear]
      push_cast at monthsEq
      rw [monthsEq]
      exact start.le_addMonths months

/-! ## Dated transactions -/

theorem nthOccurrence_le_finish {anchor finish : Date} {months number : Nat}
    (before : number < occurrenceCount anchor finish months) :
    nthOccurrence anchor months number ≤ finish := by
  have fails := leastFrom?_fails (Nat.le_add_left _ _) (Nat.zero_le number) before
  rw [endsBefore, Bool.or_eq_false_iff] at fails
  exact not_lt.mp (of_decide_eq_false fails.1)

theorem mem_occurrencesUpTo {anchor finish date : Date} {recurrence : Recurrence}
    (member : date ∈ occurrencesUpTo anchor finish recurrence) : date ≤ finish := by
  rw [occurrencesUpTo] at member
  split at member
  · split at member
    · next notLater =>
      rw [List.mem_singleton.mp member]
      exact notLater
    · exact absurd member List.not_mem_nil
  · simp only [List.mem_map, List.mem_range] at member
    rcases member with ⟨number, before, rfl⟩
    exact nthOccurrence_le_finish before

variable {α : Type}

theorem mem_entriesOf {start finish : Date} {transaction : Transaction α} {amount : α}
    {entry : Entry α}
    (member : entry ∈ entriesOf start finish transaction amount) :
    start ≤ entry.date ∧ entry.date ≤ finish := by
  simp only [entriesOf, occurrences, List.mem_map, List.mem_filter, decide_eq_true_eq] at member
  rcases member with ⟨date, ⟨isListed, notEarlier⟩, rfl⟩
  exact ⟨notEarlier, mem_occurrencesUpTo isListed⟩

variable [Arithmetic α]

/-- The dated transactions lie within the deposit. -/
theorem mem_expand {start finish : Date} {funds withdrawals : List (Transaction α)}
    {entry : Entry α}
    (member : entry ∈ expand start finish funds withdrawals) :
    start ≤ entry.date ∧ entry.date ≤ finish := by
  simp only [expand, List.mem_mergeSort, List.mem_append, List.mem_flatMap] at member
  rcases member with ⟨_, _, isListed⟩ | ⟨_, _, isListed⟩
  · exact mem_entriesOf isListed
  · exact mem_entriesOf isListed

/-- The dated transactions are sorted by date. -/
theorem pairwise_expand (start finish : Date) (funds withdrawals : List (Transaction α)) :
    (expand start finish funds withdrawals).Pairwise fun earlier later =>
      earlier.date ≤ later.date := by
  exact (Date.isStableSort_mergeSort Entry.date _).ordered

end Deposit

end Reckoner
