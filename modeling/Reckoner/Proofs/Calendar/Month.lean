import Reckoner.Calendar.Month
import Reckoner.Proofs.Calendar.Order

/-!
# Moving by months counts months

The month of a moved date is found by counting months, unless that month lies outside the calendar.
A later month makes a later date, so moves by more months lead to later dates as long as the
calendar does not end.
-/

namespace Reckoner

namespace Date

theorem lt_of_monthIndex_lt {first second : Date} (isLess : first.monthIndex < second.monthIndex) :
    first < second := by
  have := first.month_le
  have := first.le_month
  have := second.month_le
  have := second.le_month
  simp only [monthIndex, monthsInYear] at isLess
  simp only [lt_iff]
  omega

/-- A month index stands for one month of one year. -/
theorem eq_of_monthIndex_eq {first second : Date} (same : first.monthIndex = second.monthIndex) :
    first.year = second.year ∧ first.month = second.month := by
  have := first.month_le
  have := first.le_month
  have := second.month_le
  have := second.le_month
  simp only [monthIndex, monthsInYear] at same
  omega

/-- The months of the calendar. -/
def IsMonthIndex (index : Int) : Prop := least.monthIndex ≤ index ∧ index ≤ greatest.monthIndex

theorem isMonthIndex_monthIndex (date : Date) : IsMonthIndex date.monthIndex := by
  have := date.le_year
  have := date.year_le
  have := date.le_month
  have := date.month_le
  simp only [IsMonthIndex, monthIndex, monthsInYear, least, greatest]
  omega

/-- The date in a month of the calendar has that month and the day, or the last day of the month. -/
theorem ofMonthIndex?_eq_some {index day : Int} (inside : IsMonthIndex index) (dayPos : 1 ≤ day) :
    ∃ date, ofMonthIndex? index day = some date ∧ date.monthIndex = index ∧
      date.day = min day (daysInMonth date.year date.month) := by
  have := le_daysInMonth (index / monthsInYear) (index % monthsInYear + 1)
  simp only [IsMonthIndex, monthIndex, monthsInYear, least, greatest] at inside
  simp only [ofMonthIndex?, ofTriple?]
  split
  · next real =>
    refine ⟨_, rfl, ?_, rfl⟩
    simp only [monthIndex, monthsInYear]
    omega
  · next notReal =>
    simp only [monthsInYear] at this notReal
    omega

theorem ofMonthIndex?_eq_none {index : Int} (outside : ¬IsMonthIndex index) (day : Int) :
    ofMonthIndex? index day = none := by
  simp only [IsMonthIndex, monthIndex, monthsInYear, least, greatest] at outside
  simp only [ofMonthIndex?, ofTriple?]
  split
  · next real =>
    simp only [monthsInYear] at real
    omega
  · rfl

/-- Moving a date by months counts months and keeps the day as far as the month has it. -/
theorem addMonths_of_mem {date : Date} {months : Int}
    (inside : IsMonthIndex (date.monthIndex + months)) :
    (date.addMonths months).monthIndex = date.monthIndex + months ∧
      (date.addMonths months).day =
        min date.day (daysInMonth (date.addMonths months).year (date.addMonths months).month) := by
  rcases ofMonthIndex?_eq_some inside date.le_day with ⟨target, found, monthEq, dayEq⟩
  simp only [addMonths, found, Option.getD_some]
  exact ⟨monthEq, dayEq⟩

/-- Moving a date out of the calendar ends on its last day on that side. -/
theorem addMonths_of_not_mem {date : Date} {months : Int}
    (outside : ¬IsMonthIndex (date.monthIndex + months)) :
    date.addMonths months = endOfCalendar months := by
  simp only [addMonths, ofMonthIndex?_eq_none outside, Option.getD_none]

/-- Moving a date forward counts months, or ends on the last day of the calendar. -/
theorem addMonths_cases (date : Date) (months : Nat) :
    (IsMonthIndex (date.monthIndex + months) ∧
        (date.addMonths months).monthIndex = date.monthIndex + months) ∨
      (greatest.monthIndex < date.monthIndex + months ∧ date.addMonths months = greatest) := by
  by_cases inside : IsMonthIndex (date.monthIndex + months)
  · exact Or.inl ⟨inside, (addMonths_of_mem inside).1⟩
  · right
    refine ⟨?_, ?_⟩
    · have := date.isMonthIndex_monthIndex
      simp only [IsMonthIndex] at this inside
      omega
    · rw [addMonths_of_not_mem inside, endOfCalendar, if_neg (by omega)]

theorem addMonths_zero (date : Date) : date.addMonths 0 = date := by
  have inside := date.isMonthIndex_monthIndex
  rw [← Int.add_zero date.monthIndex] at inside
  rcases addMonths_of_mem inside with ⟨monthEq, dayEq⟩
  rw [Int.add_zero] at monthEq
  rcases eq_of_monthIndex_eq monthEq with ⟨sameYear, sameMonth⟩
  have dayLe := date.day_le
  rw [sameYear, sameMonth] at dayEq
  exact eq_of_parts sameYear sameMonth (by omega)

/-- Before the last day of the calendar, moving a date forward makes it later. -/
theorem lt_addMonths {date : Date} (notLast : date < greatest) {months : Nat}
    (isPos : 0 < months) : date < date.addMonths months := by
  rcases addMonths_cases date months with ⟨_, monthEq⟩ | ⟨_, isGreatest⟩
  · exact lt_of_monthIndex_lt (by omega)
  · rw [isGreatest]
    exact notLast

theorem le_addMonths (date : Date) (months : Nat) : date ≤ date.addMonths months := by
  rcases Nat.eq_zero_or_pos months with rfl | isPos
  · rw [Int.ofNat_zero, addMonths_zero]
  · rcases addMonths_cases date months with ⟨_, monthEq⟩ | ⟨_, isGreatest⟩
    · exact le_of_lt (lt_of_monthIndex_lt (by omega))
    · rw [isGreatest]
      exact date.le_greatest

/-- The calendar ends long before a number of months that is no 32-bit number, so a move by such a
number ends where a move by the nearest 32-bit number does. -/
theorem addMonths_clamp (date : Date) (months : Int) :
    date.addMonths (Offset.clamp months) = date.addMonths months := by
  have dateInside := date.isMonthIndex_monthIndex
  have lastMonth : greatest.monthIndex = 119999 := by decide
  have firstMonth : least.monthIndex = -119988 := by decide
  simp only [IsMonthIndex, lastMonth, firstMonth] at dateInside
  by_cases fits : Offset.least ≤ months ∧ months ≤ Offset.greatest
  · rw [Offset.clamp_of_mem fits.1 fits.2]
  have sameDirection : Offset.clamp months < 0 ↔ months < 0 := by
    simp only [Offset.clamp, Offset.least, Offset.greatest] at *
    omega
  have outside : ¬IsMonthIndex (date.monthIndex + months) ∧
      ¬IsMonthIndex (date.monthIndex + Offset.clamp months) := by
    simp only [IsMonthIndex, lastMonth, firstMonth, Offset.clamp, Offset.least,
      Offset.greatest] at *
    omega
  rw [addMonths_of_not_mem outside.1, addMonths_of_not_mem outside.2, endOfCalendar, endOfCalendar]
  simp only [sameDirection]

/-- A move by more months does not lead to an earlier date. -/
theorem addMonths_le_addMonths (date : Date) {fewer more : Nat} (isLe : fewer ≤ more) :
    date.addMonths fewer ≤ date.addMonths more := by
  rcases Nat.eq_or_lt_of_le isLe with rfl | isLess
  · exact le_rfl
  · rcases addMonths_cases date more with ⟨_, moreEq⟩ | ⟨_, isGreatest⟩
    · rcases addMonths_cases date fewer with ⟨_, fewerEq⟩ | ⟨isMore, _⟩
      · exact le_of_lt (lt_of_monthIndex_lt (by omega))
      · have := (date.addMonths more).isMonthIndex_monthIndex.2
        omega
    · rw [isGreatest]
      exact le_greatest _

end Date

end Reckoner
