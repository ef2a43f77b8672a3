import Mathlib.Tactic.IntervalCases
import Reckoner.Calendar.Month
import Reckoner.Proofs.Calendar.Order

/-!
# Day numbers count the days of the calendar

From the first of March of year 0 on, no division in the numbering of days has a negative operand,
so the day numbers count the days of the calendar without a gap: the next day has the next number,
and the date of a day number is found again. Moving a date by a day is then going to the next date,
and the days between two dates are as many as the list of those days is long.
-/

namespace Reckoner

namespace Date

/-- The first day from which on day numbers count days without a gap. -/
def firstMarch : Date :=
  ⟨0, 3, 1, by decide, by decide, by decide, by decide, least.le_day, by decide⟩

/-- The year that a date belongs to if years start in March. -/
def marchYear (date : Date) : Int := if date.month ≤ 2 then date.year - 1 else date.year

/-- The number of whole months of the year that starts in March. -/
def marchMonth (date : Date) : Int := if date.month ≤ 2 then date.month + 9 else date.month - 3

theorem marchYear_nonneg {date : Date} (counted : firstMarch ≤ date) : 0 ≤ date.marchYear := by
  have := date.le_month
  simp only [le_iff_not_lt, lt_iff, firstMarch] at counted
  simp only [marchYear]
  split <;> omega

theorem marchMonth_mem (date : Date) : 0 ≤ date.marchMonth ∧ date.marchMonth ≤ 11 := by
  have := date.le_month
  have := date.month_le
  simp only [marchMonth]
  split <;> omega

/-- The number of a day if all divisions round down. These numbers count the days of the whole
calendar. -/
def calendarNumber (date : Date) : Int :=
  date.day + (153 * date.marchMonth + 2) / 5 + 365 * date.marchYear +
    (date.marchYear / 4 - date.marchYear / 100 + date.marchYear / 400) - 306

theorem dayNumber_eq_tdiv (date : Date) :
    date.dayNumber =
      date.day + (153 * date.marchMonth + 2) / 5 + 365 * date.marchYear +
        (date.marchYear.tdiv 4 - date.marchYear.tdiv 100 + date.marchYear.tdiv 400) - 306 := by
  have monthMem := date.marchMonth_mem
  have yearEq : date.year - (if date.month ≤ 2 then 1 else 0) = date.marchYear := by
    simp only [marchYear]
    split <;> omega
  have monthEq : date.month + 12 * (if date.month ≤ 2 then 1 else 0) - 3 = date.marchMonth := by
    simp only [marchMonth]
    split <;> omega
  simp only [dayNumber, yearEq, monthEq]
  rw [Int.tdiv_eq_ediv_of_nonneg (by omega)]

/-- Where day numbers count days, all divisions are those of natural numbers. -/
theorem dayNumber_eq {date : Date} (counted : firstMarch ≤ date) :
    date.dayNumber = date.calendarNumber := by
  have yearNonneg := marchYear_nonneg counted
  rw [dayNumber_eq_tdiv, calendarNumber, Int.tdiv_eq_ediv_of_nonneg yearNonneg,
    Int.tdiv_eq_ediv_of_nonneg yearNonneg, Int.tdiv_eq_ediv_of_nonneg yearNonneg]

theorem isLeapYear_iff (year : Int) :
    isLeapYear year = true ↔ year % 400 = 0 ∨ (year % 100 ≠ 0 ∧ year % 4 = 0) := by
  simp [isLeapYear]

theorem firstMarch_le_next {date : Date} (counted : firstMarch ≤ date) (notLast : date < greatest) :
    firstMarch ≤ date.next :=
  le_trans counted (le_of_lt (lt_next notLast))

/-- The number of leap days up to a year, counted from year 1. -/
def leapDays (year : Int) : Int := year / 4 - year / 100 + year / 400

theorem leapDays_add_one (year : Int) :
    leapDays (year + 1) = leapDays year + if isLeapYear (year + 1) then 1 else 0 := by
  simp only [leapDays]
  split
  · next isLeap =>
    rw [isLeapYear_iff] at isLeap
    omega
  · next notLeap =>
    rw [isLeapYear_iff] at notLeap
    omega

/-- The day number, if divisions round down, of the day before a month. -/
def numberBeforeMonth (index : Int) : Int :=
  let sinceMarch := index - 2
  (153 * (sinceMarch % 12) + 2) / 5 + 365 * (sinceMarch / 12) + leapDays (sinceMarch / 12) - 306

theorem calendarNumber_eq_add (date : Date) :
    date.calendarNumber = date.day + numberBeforeMonth date.monthIndex := by
  have := date.le_month
  have := date.month_le
  have monthEq : (date.monthIndex - 2) % 12 = date.marchMonth := by
    simp only [monthIndex, monthsInYear, marchMonth]
    omega
  have yearEq : (date.monthIndex - 2) / 12 = date.marchYear := by
    simp only [monthIndex, monthsInYear, marchYear]
    omega
  simp only [calendarNumber, numberBeforeMonth, leapDays, monthEq, yearEq]
  omega

/-- Between the day before a month and the day before the next one lie the days of the month. -/
theorem numberBeforeMonth_add_one (index : Int) :
    numberBeforeMonth (index + 1) =
      numberBeforeMonth index + daysInMonth (index / 12) (index % 12 + 1) := by
  simp only [numberBeforeMonth]
  rcases eq_or_ne (index % 12) 1 with february | notFebruary
  · have yearEq : index / 12 = (index - 2) / 12 + 1 := by omega
    have nextYear : (index + 1 - 2) / 12 = (index - 2) / 12 + 1 := by omega
    have monthEq : (index - 2) % 12 = 11 := by omega
    have nextMonth : (index + 1 - 2) % 12 = 0 := by omega
    rw [yearEq, nextYear, monthEq, nextMonth, february, leapDays_add_one]
    simp only [daysInMonth]
    split <;> simp <;> omega
  · have nextYear : (index + 1 - 2) / 12 = (index - 2) / 12 := by omega
    have nextMonth : (index + 1 - 2) % 12 = (index - 2) % 12 + 1 := by omega
    have monthEq : index % 12 = if (index - 2) % 12 < 10 then (index - 2) % 12 + 2 else 0 := by
      split <;> omega
    have : 0 ≤ (index - 2) % 12 := by omega
    have : (index - 2) % 12 ≤ 10 := by omega
    rw [nextYear, nextMonth, monthEq]
    generalize (index - 2) % 12 = month at *
    interval_cases month <;> simp [daysInMonth] <;> omega

theorem numberBeforeMonth_next (date : Date) :
    numberBeforeMonth (date.monthIndex + 1) =
      numberBeforeMonth date.monthIndex + daysInMonth date.year date.month := by
  have := date.le_month
  have := date.month_le
  have yearEq : date.monthIndex / 12 = date.year := by
    simp only [monthIndex, monthsInYear]
    omega
  have monthEq : date.monthIndex % 12 + 1 = date.month := by
    simp only [monthIndex, monthsInYear]
    omega
  rw [numberBeforeMonth_add_one, yearEq, monthEq]

/-- The next day is in the same month, or it is the first of the next month. -/
theorem next_cases {date : Date} (notLast : date < greatest) :
    (date.next.monthIndex = date.monthIndex ∧ date.next.day = date.day + 1) ∨
      (date.day = daysInMonth date.year date.month ∧
        date.next.monthIndex = date.monthIndex + 1 ∧ date.next.day = 1) := by
  have := date.month_le
  have := date.day_le
  have december : date.month = 12 → daysInMonth date.year date.month = 31 := by
    intro isDecember
    rw [isDecember]
    rfl
  simp only [lt_iff, greatest] at notLast
  simp only [next, monthIndex, monthsInYear]
  split
  · exact Or.inl ⟨rfl, rfl⟩
  split
  · exact Or.inr ⟨by omega, by dsimp only; omega, rfl⟩
  split
  · exact Or.inr ⟨by omega, by dsimp only; omega, rfl⟩
  · omega

/-- In the whole calendar, the next day has the next number if divisions round down. -/
theorem calendarNumber_next {date : Date} (notLast : date < greatest) :
    date.next.calendarNumber = date.calendarNumber + 1 := by
  rw [calendarNumber_eq_add, calendarNumber_eq_add]
  rcases next_cases notLast with ⟨monthEq, dayEq⟩ | ⟨isLast, monthEq, dayEq⟩
  · rw [monthEq, dayEq]
    omega
  · rw [monthEq, dayEq, numberBeforeMonth_next, ← isLast]
    omega

theorem dayNumber_next {date : Date} (counted : firstMarch ≤ date) (notLast : date < greatest) :
    date.next.dayNumber = date.dayNumber + 1 := by
  rw [dayNumber_eq counted, dayNumber_eq (firstMarch_le_next counted notLast),
    calendarNumber_next notLast]

/-- Day numbers differ by the number of days between. -/
theorem dayNumber_eq_add_length {first last : Date} (counted : firstMarch ≤ first)
    (notEarlier : first ≤ last) :
    last.dayNumber = first.dayNumber + (first.daysUpTo last).length := by
  refine next_induction
    (motive := fun date => date.dayNumber = first.dayNumber + (first.daysUpTo date).length)
    ?_ ?_ notEarlier
  · simp [daysUpTo_of_le le_rfl]
  · intro date notBefore isBefore ih
    have notLast := lt_of_lt_of_le isBefore last.le_greatest
    rw [dayNumber_next (le_trans counted notBefore) notLast, ih, daysUpTo_next notBefore notLast]
    simp only [List.length_append, List.length_cons, List.length_nil]
    omega

theorem dayNumber_le_greatest {date : Date} (counted : firstMarch ≤ date) :
    date.dayNumber ≤ greatest.dayNumber := by
  have := dayNumber_eq_add_length counted date.le_greatest
  omega

theorem dayNumber_firstMarch_le {date : Date} (counted : firstMarch ≤ date) :
    firstMarch.dayNumber ≤ date.dayNumber := by
  have := dayNumber_eq_add_length le_rfl counted
  omega

/-- The number of the day in the year that starts in March, counted from 1. -/
def dayOfMarchYear (date : Date) : Int := date.day + (153 * date.marchMonth + 2) / 5

theorem dayOfMarchYear_mem (date : Date) :
    1 ≤ date.dayOfMarchYear ∧ (date.dayOfMarchYear ≤ 365 ∨
      (date.dayOfMarchYear = 366 ∧ isLeapYear (date.marchYear + 1) = true)) := by
  have := date.le_month
  have := date.month_le
  have := date.le_day
  have dayLe := date.day_le
  simp only [daysInMonth] at dayLe
  simp only [dayOfMarchYear, marchMonth, marchYear]
  generalize date.month = month at *
  interval_cases month <;> simp at dayLe ⊢ <;> try omega
  split at dayLe
  · next isLeap =>
    simp only [isLeap, and_true]
    omega
  · omega

/-- The year is found from the number of days since the first of March of year 0, counted in
hundredths. Counted in periods of 400, 100 and 4 years, the year makes all divisions exact but the
two in question. -/
theorem marchYear_found {year dayOfYear scaled : Int}
    (dayMem : 1 ≤ dayOfYear ∧ (dayOfYear ≤ 365 ∨ (dayOfYear = 366 ∧ isLeapYear (year + 1) = true)))
    (scaledEq : scaled =
      100 * (dayOfYear + 365 * year + (year / 4 - year / 100 + year / 400)) - 25) :
    scaled / 3652425 = year / 100 ∧
      (100 * (year / 100 - year / 100 / 4) + scaled) / 36525 = year := by
  rw [isLeapYear_iff] at dayMem
  generalize periodsEq : year / 400 = periods at scaledEq
  generalize centuriesEq : year % 400 / 100 = centuries
  generalize cyclesEq : year % 100 / 4 = cycles
  generalize restEq : year % 4 = rest
  have yearEq : year = 400 * periods + 100 * centuries + 4 * cycles + rest := by omega
  have allCenturies : year / 100 = 4 * periods + centuries := by omega
  have allCycles : year / 4 = 100 * periods + 25 * centuries + cycles := by omega
  have longCenturies : (4 * periods + centuries) / 4 = periods := by omega
  have bounds : 0 ≤ centuries ∧ centuries ≤ 3 ∧ 0 ≤ cycles ∧ cycles ≤ 24 ∧ 0 ≤ rest ∧ rest ≤ 3 := by
    omega
  have dayBounds : 1 ≤ dayOfYear ∧ dayOfYear ≤ 366 := by omega
  have longYear : dayOfYear = 366 → rest = 3 ∧ (cycles = 24 → centuries = 3) := by omega
  rw [allCenturies, allCycles] at scaledEq
  rw [allCenturies, longCenturies]
  clear periodsEq centuriesEq cyclesEq restEq allCenturies allCycles longCenturies dayMem
  constructor
  · omega
  · omega

/-- The month and the day of the month are found from the day of the year that starts in March. -/
theorem marchMonth_found (date : Date) :
    (5 * date.dayOfMarchYear + 456) / 153 = date.marchMonth + 3 ∧
      date.dayOfMarchYear - (153 * (date.marchMonth + 3) - 457) / 5 = date.day := by
  have := date.le_month
  have := date.month_le
  have := date.le_day
  have dayLe := date.day_le
  have := daysInMonth_le date.year date.month
  simp only [daysInMonth] at dayLe
  simp only [dayOfMarchYear, marchMonth]
  generalize date.month = month at *
  interval_cases month <;> simp at dayLe ⊢ <;> omega

theorem january_found (date : Date) :
    (if 12 < date.marchMonth + 3 then
      (date.marchYear + 1, date.marchMonth + 3 - 12, date.day)
    else (date.marchYear, date.marchMonth + 3, date.day)) = (date.year, date.month, date.day) := by
  have := date.le_month
  have := date.month_le
  by_cases beforeMarch : date.month ≤ 2
  · have yearEq : date.marchYear = date.year - 1 := if_pos beforeMarch
    have monthEq : date.marchMonth = date.month + 9 := if_pos beforeMarch
    rw [if_pos (by omega), Prod.mk.injEq, Prod.mk.injEq]
    omega
  · have yearEq : date.marchYear = date.year := if_neg beforeMarch
    have monthEq : date.marchMonth = date.month - 3 := if_neg beforeMarch
    rw [if_neg (by omega), Prod.mk.injEq, Prod.mk.injEq]
    omega

/-- Where day numbers count days, the parts of a date are found from its number. -/
theorem tripleOfDayNumber_dayNumber {date : Date} (counted : firstMarch ≤ date) :
    tripleOfDayNumber date.dayNumber = (date.year, date.month, date.day) := by
  have yearNonneg := marchYear_nonneg counted
  have monthMem := date.marchMonth_mem
  have dayMem := date.dayOfMarchYear_mem
  have sinceMarch : date.dayNumber + 306 = date.dayOfMarchYear + 365 * date.marchYear +
      (date.marchYear / 4 - date.marchYear / 100 + date.marchYear / 400) := by
    rw [dayNumber_eq counted, calendarNumber, dayOfMarchYear]
    omega
  have scaledNonneg : 0 ≤ 100 * (date.dayNumber + 306) - 25 := by omega
  have found := marchYear_found dayMem (congrArg (100 * · - 25) sinceMarch)
  have centuriesEq : (100 * (date.dayNumber + 306) - 25).tdiv 3652425 = date.marchYear / 100 := by
    rw [Int.tdiv_eq_ediv_of_nonneg scaledNonneg, found.1]
  have longCenturiesEq : (date.marchYear / 100).tdiv 4 = date.marchYear / 100 / 4 :=
    Int.tdiv_eq_ediv_of_nonneg (by omega)
  have yearEq : (100 * (date.marchYear / 100 - date.marchYear / 100 / 4) +
      (100 * (date.dayNumber + 306) - 25)).tdiv 36525 = date.marchYear := by
    rw [Int.tdiv_eq_ediv_of_nonneg (by omega), found.2]
  have dayOfYearEq : date.marchYear / 100 - date.marchYear / 100 / 4 + (date.dayNumber + 306) -
      365 * date.marchYear - date.marchYear.tdiv 4 = date.dayOfMarchYear := by
    rw [Int.tdiv_eq_ediv_of_nonneg yearNonneg]
    omega
  have monthEq : (5 * date.dayOfMarchYear + 456).tdiv 153 = date.marchMonth + 3 := by
    rw [Int.tdiv_eq_ediv_of_nonneg (by omega), date.marchMonth_found.1]
  have dayEq : date.dayOfMarchYear - (153 * (date.marchMonth + 3) - 457).tdiv 5 = date.day := by
    rw [Int.tdiv_eq_ediv_of_nonneg (by omega), date.marchMonth_found.2]
  simp only [tripleOfDayNumber, centuriesEq, longCenturiesEq, yearEq, dayOfYearEq, monthEq, dayEq,
    january_found]

/-- Where day numbers count days, a date is found from its number. -/
theorem ofDayNumber_dayNumber {date : Date} (counted : firstMarch ≤ date) :
    ofDayNumber date.dayNumber = date := by
  have := dayNumber_firstMarch_le counted
  have := dayNumber_le_greatest counted
  have afterLeast : least.dayNumber < firstMarch.dayNumber := by decide
  rw [ofDayNumber, if_neg (by omega), if_neg (by omega), tripleOfDayNumber_dayNumber counted]
  simp only [ofTriple?_parts, Option.getD_some]

theorem addDays_one {date : Date} (counted : firstMarch ≤ date) (notLast : date < greatest) :
    date.addDays 1 = date.next := by
  rw [addDays, ← dayNumber_next counted notLast,
    ofDayNumber_dayNumber (firstMarch_le_next counted notLast)]

theorem dayNumber_lt_iff {first second : Date} (countedFirst : firstMarch ≤ first)
    (countedSecond : firstMarch ≤ second) :
    first.dayNumber < second.dayNumber ↔ first < second := by
  constructor
  · intro isLess
    by_contra notEarlier
    have := dayNumber_eq_add_length countedSecond (not_lt.mp notEarlier)
    omega
  · intro isEarlier
    have counts := dayNumber_eq_add_length countedFirst (le_of_lt isEarlier)
    rw [daysUpTo_of_lt isEarlier, List.length_cons] at counts
    omega

/-- No number up to that of the last day is left out. -/
theorem exists_dayNumber {first : Date} (counted : firstMarch ≤ first) (days : Nat)
    (inside : first.dayNumber + days ≤ greatest.dayNumber) :
    ∃ date, first ≤ date ∧ date.dayNumber = first.dayNumber + days := by
  induction days with
  | zero => exact ⟨first, le_rfl, by simp⟩
  | succ days ih =>
      rcases ih (by omega) with ⟨date, notEarlier, numberEq⟩
      have countedDate := le_trans counted notEarlier
      have notLast : date < greatest :=
        (dayNumber_lt_iff countedDate (le_trans countedDate date.le_greatest)).mp (by omega)
      refine ⟨date.next, le_trans notEarlier (le_of_lt (lt_next notLast)), ?_⟩
      rw [dayNumber_next countedDate notLast]
      omega

/-- Moving a date forward counts days, or ends on the last day of the calendar. -/
theorem addDays_cases {date : Date} (counted : firstMarch ≤ date) (days : Nat) :
    (date ≤ date.addDays days ∧ (date.addDays days).dayNumber = date.dayNumber + days) ∨
      (date.addDays days = greatest ∧ greatest.dayNumber < date.dayNumber + days) := by
  by_cases inside : date.dayNumber + days ≤ greatest.dayNumber
  · rcases exists_dayNumber counted days inside with ⟨target, notEarlier, numberEq⟩
    left
    rw [addDays, ← numberEq, ofDayNumber_dayNumber (le_trans counted notEarlier)]
    exact ⟨notEarlier, rfl⟩
  · right
    have := dayNumber_le_greatest counted
    have afterLeast : least.dayNumber < greatest.dayNumber := by decide
    rw [addDays, ofDayNumber, if_neg (by omega), if_pos (by omega)]
    exact ⟨rfl, by omega⟩

/-- Before the last day of the calendar, moving a date forward makes it later. -/
theorem lt_addDays {date : Date} (counted : firstMarch ≤ date) (notLast : date < greatest)
    {days : Nat} (isPos : 0 < days) : date < date.addDays days := by
  rcases addDays_cases counted days with ⟨notEarlier, numberEq⟩ | ⟨isGreatest, _⟩
  · exact (dayNumber_lt_iff counted (le_trans counted notEarlier)).mp (by omega)
  · rw [isGreatest]
    exact notLast

end Date

end Reckoner
