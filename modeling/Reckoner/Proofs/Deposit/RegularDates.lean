import Reckoner.Proofs.Calendar.DayIndex
import Reckoner.Proofs.Deposit.Timetable

/-!
# Payouts do not drift

A payout date is found by counting from the start of the deposit, not from the payout before. In
steps of days it lies that many days of the calendar after the start. In steps of months it lies
that many months later, on the day of the start or on the last day of a shorter month. A date that
is so found before the end of the deposit stands in the timetable at the place of its number, and
all others but the last do.
-/

namespace Reckoner

namespace Deposit

open Date (firstMarch greatest)

/-- Whether a number of steps from a start leads to a date, counted in days of the calendar, or in
months, where the day of the start is the day of the date or the month is too short for it. -/
def PayoutStep.LeadsTo (step : PayoutStep) (start : Date) (number : Nat) (date : Date) : Prop :=
  match step with
  | .days count => date.dayIndex = start.dayIndex + count * number
  | .months count => date.monthIndex = start.monthIndex + (count * number : Nat) ∧
      date.day = min start.day (daysInMonth date.year date.month)

variable {start finish date : Date} {step : PayoutStep} {number : Nat}

theorem PayoutStep.LeadsTo.unique {other : Date} (leadsTo : step.LeadsTo start number date)
    (leadsToOther : step.LeadsTo start number other) : date = other := by
  cases step with
  | days count => exact Date.dayIndex_injective (Eq.trans leadsTo leadsToOther.symm)
  | months count =>
      rcases leadsTo with ⟨monthEq, dayEq⟩
      rcases leadsToOther with ⟨otherMonthEq, otherDayEq⟩
      rcases Date.eq_of_monthIndex_eq (monthEq.trans otherMonthEq.symm) with ⟨sameYear, sameMonth⟩
      rw [sameYear, sameMonth, ← otherDayEq] at dayEq
      exact Date.eq_of_parts sameYear sameMonth dayEq

/-- The steps lead to the payout of their number, or the calendar ends before. -/
theorem leadsTo_nthPayout_cases (counted : firstMarch ≤ start) (step : PayoutStep) (number : Nat) :
    step.LeadsTo start number (nthPayout start step number) ∨
      (nthPayout start step number = greatest ∧ ∀ date, ¬step.LeadsTo start number date) := by
  cases step with
  | days count =>
      have startEq := Date.dayNumber_eq_add_dayIndex counted
      rcases nthPayout_cases counted (.days count) number with
        ⟨notBefore, numberEq⟩ | ⟨isGreatest, isMore⟩
      · have payoutEq := Date.dayNumber_eq_add_dayIndex (le_trans counted notBefore)
        simp only [PayoutStep.position, PayoutStep.count] at numberEq
        left
        simp only [PayoutStep.LeadsTo]
        omega
      · right
        refine ⟨isGreatest, ?_⟩
        intro date leadsTo
        have lastEq := Date.dayNumber_eq_add_dayIndex (Date.le_greatest firstMarch)
        have notMore := Date.dayIndex_le_iff.mpr date.le_greatest
        simp only [PayoutStep.position, PayoutStep.count] at isMore
        simp only [PayoutStep.LeadsTo] at leadsTo
        omega
  | months count =>
      have moved := addMonths_clamp_cases start (count * number)
      have payoutEq : nthPayout start (.months count) number =
          start.addMonths (Offset.clamp (count * number : Nat)) := by
        rw [Int.natCast_mul]
        rfl
      rw [payoutEq]
      rcases moved with inside | ⟨isGreatest, isMore⟩
      · exact Or.inl inside
      · right
        refine ⟨isGreatest, ?_⟩
        rintro date ⟨monthEq, _⟩
        have notMore := date.isMonthIndex_monthIndex.2
        omega

/-- Before the last day of the calendar, a payout is the date that its steps lead to. -/
theorem nthPayout_eq_iff (counted : firstMarch ≤ start) (beforeLast : date < greatest) :
    nthPayout start step number = date ↔ step.LeadsTo start number date := by
  rcases leadsTo_nthPayout_cases counted step number with leadsTo | ⟨isGreatest, leadsNowhere⟩
  · constructor
    · rintro rfl
      exact leadsTo
    · exact leadsTo.unique
  · constructor
    · intro isDate
      rw [← isDate, isGreatest] at beforeLast
      exact absurd beforeLast (lt_irrefl _)
    · intro leadsTo
      exact absurd leadsTo (leadsNowhere date)

theorem dropLast_payoutDates (start finish : Date) (frequency : PayoutFrequency) :
    (payoutDates start finish frequency).dropLast = regularPayoutDates start finish frequency := by
  rw [payoutDates_eq, List.dropLast_concat]

/-- The payout of a number stands at its place in the timetable if it lies before the end. -/
theorem getElem?_regularPayoutDates (counted : firstMarch ≤ start) {frequency : PayoutFrequency}
    (place : Nat) :
    (regularPayoutDates start finish frequency)[place]? = some date ↔
      nthPayout start frequency.step (place + 1) = date ∧ date < finish := by
  have isRegular : place + 1 < lastPayoutNumber start finish frequency.step ↔
      nthPayout start frequency.step (place + 1) < finish :=
    lt_lastPayoutNumber_iff counted (Nat.succ_pos place)
  rw [regularPayoutDates, List.getElem?_map, Option.map_eq_some_iff]
  constructor
  · rintro ⟨number, found, rfl⟩
    rcases List.getElem?_eq_some_iff.mp found with ⟨inside, rfl⟩
    rw [List.length_range'] at inside
    rw [List.getElem_range', Nat.one_mul, Nat.add_comm 1 place]
    exact ⟨rfl, isRegular.mp (by omega)⟩
  · rintro ⟨rfl, beforeFinish⟩
    have := isRegular.mpr beforeFinish
    refine ⟨place + 1, ?_, rfl⟩
    rw [List.getElem?_range' (by omega), Nat.one_mul, Nat.add_comm 1 place]

/-- From the first of March of year 0 on, the payout dates of a deposit increase and end with its
last day. The others are those found by their numbers before that day, each at the place of its
number: so many days of the calendar after the start, or so many months later on the day of the
start or the last day of a shorter month. -/
theorem payoutDates_do_not_drift (counted : firstMarch ≤ start) (finish : Date)
    (frequency : PayoutFrequency) :
    (payoutDates start finish frequency).Pairwise (· < ·) ∧
      (payoutDates start finish frequency).getLast? = some finish ∧
      (∀ place date, (payoutDates start finish frequency).dropLast[place]? = some date ↔
        nthPayout start frequency.step (place + 1) = date ∧ date < finish) ∧
      (∀ number date, date < finish → (nthPayout start frequency.step number = date ↔
        frequency.step.LeadsTo start number date)) := by
  refine ⟨pairwise_payoutDates counted finish frequency, ?_, ?_, ?_⟩
  · rw [payoutDates_eq, List.getLast?_concat]
  · intro place date
    rw [dropLast_payoutDates, getElem?_regularPayoutDates counted]
  · intro number date beforeFinish
    exact nthPayout_eq_iff counted (lt_of_lt_of_le beforeFinish finish.le_greatest)

/-- The last day of a month that is followed by a shorter one. -/
def januaryEnd : Date := (Date.ofTriple? 2024 1 31).get (by decide)

/-- The last day of another long month, two months later. -/
def marchEnd : Date := (Date.ofTriple? 2024 3 31).get (by decide)

/-- The short month moves its own payout only: the next one is on the last day of a long month
again. -/
theorem payoutDates_do_not_drift_from_month_end :
    firstMarch ≤ januaryEnd ∧
      (payoutDates januaryEnd marchEnd.next .monthly).dropLast[0]? = some Date.leapDay ∧
      (payoutDates januaryEnd marchEnd.next .monthly).dropLast[1]? = some marchEnd ∧
      (payoutDates januaryEnd marchEnd.next .monthly).getLast? = some marchEnd.next ∧
      PayoutFrequency.monthly.step.LeadsTo januaryEnd 2 marchEnd := by
  have counted : firstMarch ≤ januaryEnd := by decide
  have ⟨_, last, places, counts⟩ :=
    payoutDates_do_not_drift counted marchEnd.next PayoutFrequency.monthly
  have inMarch : nthPayout januaryEnd PayoutFrequency.monthly.step 2 = marchEnd := by decide
  have beforeEnd : marchEnd < marchEnd.next := by decide
  exact ⟨counted, (places 0 _).mpr (by decide), (places 1 _).mpr ⟨inMarch, beforeEnd⟩, last,
    (counts 2 _ beforeEnd).mp inMarch⟩

end Deposit

end Reckoner
