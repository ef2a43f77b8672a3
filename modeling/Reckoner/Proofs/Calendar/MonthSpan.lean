import Mathlib.Order.Monotone.Basic
import Reckoner.Proofs.Calendar.DayIndex
import Reckoner.Proofs.Calendar.Month

/-!
# How many days months span

A move by a month passes over at least 28 days, and no move passes over more days than the longest
run of so many months has, since the day of the month never grows.
-/

namespace Reckoner

namespace Date

/-- Whether so many months in a row have at most a number of days. -/
def MonthsSpanAtMost (months : Nat) (days : Int) : Prop :=
  ∀ index, numberBeforeMonth (index + months) ≤ numberBeforeMonth index + days

/-- Up to twelve months lie in one year that starts in March, or in two of them. -/
theorem monthsSpanAtMost_of_marchMonths {months : Nat} {days : Int} (upToYear : months ≤ 12)
    (inYear : ∀ month : Int, 0 ≤ month → month + months ≤ 11 →
      (153 * (month + months) + 2) / 5 ≤ (153 * month + 2) / 5 + days)
    (overMarch : ∀ month : Int, month ≤ 11 → 12 ≤ month + months →
      366 + (153 * (month + months - 12) + 2) / 5 ≤ (153 * month + 2) / 5 + days) :
    MonthsSpanAtMost months days := by
  intro index
  simp only [numberBeforeMonth]
  rcases lt_or_ge ((index - 2) % 12 + months) 12 with isBefore | notBefore
  · have sameYear : (index + months - 2) / 12 = (index - 2) / 12 := by omega
    have monthEq : (index + months - 2) % 12 = (index - 2) % 12 + months := by omega
    have := inYear ((index - 2) % 12) (by omega) (by omega)
    rw [sameYear, monthEq]
    omega
  · have nextYear : (index + months - 2) / 12 = (index - 2) / 12 + 1 := by omega
    have monthEq : (index + months - 2) % 12 = (index - 2) % 12 + months - 12 := by omega
    have := overMarch ((index - 2) % 12) (by omega) notBefore
    have oneMore : leapDays ((index - 2) / 12 + 1) ≤ leapDays ((index - 2) / 12) + 1 := by
      rw [leapDays_add_one]
      split <;> omega
    rw [nextYear, monthEq]
    omega

theorem numberBeforeMonth_mono {earlier later : Int} (isLe : earlier ≤ later) :
    numberBeforeMonth earlier ≤ numberBeforeMonth later := by
  refine monotone_int_of_le_succ ?_ isLe
  intro index
  have := le_daysInMonth (index / 12) (index % 12 + 1)
  rw [numberBeforeMonth_add_one]
  omega

/-- Before the calendar ends, a move by a month passes over 28 days or more: over the whole month if
the day is kept, and to the end of the next month if it is not. -/
theorem add_le_dayIndex_addMonths_one {date : Date} (beforeLast : date.addMonths 1 < greatest) :
    date.dayIndex + 28 ≤ (date.addMonths 1).dayIndex := by
  have inside : IsMonthIndex (date.monthIndex + 1) := by
    rcases addMonths_cases date 1 with ⟨inside, _⟩ | ⟨_, isGreatest⟩
    · exact inside
    · exact absurd isGreatest (ne_of_lt beforeLast)
  rcases addMonths_of_mem inside with ⟨monthEq, dayEq⟩
  have := date.day_le
  have := le_daysInMonth date.year date.month
  have := le_daysInMonth (date.addMonths 1).year (date.addMonths 1).month
  have numberEq := date.calendarNumber_eq_add
  have movedEq := (date.addMonths 1).calendarNumber_eq_add
  rw [monthEq, numberBeforeMonth_next, dayEq] at movedEq
  have := date.calendarNumber_eq
  have := (date.addMonths 1).calendarNumber_eq
  omega

/-- A move by months leads on by no more days than so many months in a row have. One that would
leave the calendar stops on the last day, which is the day before a month that it would have
reached. -/
theorem dayIndex_addMonths_le {months : Nat} {days : Int} (span : MonthsSpanAtMost months days)
    (date : Date) : (date.addMonths months).dayIndex ≤ date.dayIndex + days := by
  have := date.le_day
  have := date.calendarNumber_eq_add
  have := date.calendarNumber_eq
  have := span date.monthIndex
  have movedIndex := (date.addMonths months).calendarNumber_eq
  have movedNumber := (date.addMonths months).calendarNumber_eq_add
  rcases addMonths_cases date months with ⟨inside, _⟩ | ⟨isMore, isGreatest⟩
  · rcases addMonths_of_mem inside with ⟨monthEq, dayEq⟩
    rw [monthEq] at movedNumber
    omega
  · have lastEq : greatest.day + numberBeforeMonth greatest.monthIndex =
        numberBeforeMonth (greatest.monthIndex + 1) := by decide
    have notMore : numberBeforeMonth (greatest.monthIndex + 1) ≤
        numberBeforeMonth (date.monthIndex + months) :=
      numberBeforeMonth_mono isMore
    rw [isGreatest] at movedIndex movedNumber ⊢
    omega

end Date

end Reckoner
