import Mathlib.Logic.Function.Iterate
import Reckoner.Proofs.Calendar.DayNumber

/-!
# Counting the days of the whole calendar

The index of a date is the number of days of the calendar before it, counted by going from day to
day. It orders all dates, also those before day numbers count days, and going a number of days
forward or back adds that number to the index as long as the calendar does not end.

Day numbers that round down are the index up to a constant. The rounding toward zero makes the
number of an early date at most one too large.
-/

namespace Reckoner

namespace Date

theorem least_le (date : Date) : least ≤ date := by
  have := date.le_year
  have := date.le_month
  have := date.le_day
  simp only [le_iff_not_lt, lt_iff, least]
  omega

/-- The number of days of the calendar before a date. -/
def dayIndex (date : Date) : Nat := (least.daysUpTo date).length

theorem dayIndex_least : least.dayIndex = 0 := by
  rw [dayIndex, daysUpTo_of_le le_rfl, List.length_nil]

theorem dayIndex_next {date : Date} (notLast : date < greatest) :
    date.next.dayIndex = date.dayIndex + 1 := by
  rw [dayIndex, daysUpTo_next date.least_le notLast, List.length_append, List.length_singleton,
    dayIndex]

theorem dayIndex_eq_add_length {first last : Date} (notEarlier : first ≤ last) :
    last.dayIndex = first.dayIndex + (first.daysUpTo last).length := by
  rw [dayIndex, dayIndex, ← daysUpTo_append first.least_le notEarlier, List.length_append]

theorem dayIndex_lt_of_lt {earlier later : Date} (isEarlier : earlier < later) :
    earlier.dayIndex < later.dayIndex := by
  have counts := dayIndex_eq_add_length (le_of_lt isEarlier)
  rw [daysUpTo_of_lt isEarlier, List.length_cons] at counts
  omega

/-- The index tells dates apart and orders them. -/
theorem dayIndex_lt_iff {first second : Date} :
    first.dayIndex < second.dayIndex ↔ first < second := by
  constructor
  · intro isLess
    by_contra notEarlier
    rcases lt_or_eq_of_le (not_lt.mp notEarlier) with isLater | rfl
    · have := dayIndex_lt_of_lt isLater
      omega
    · exact lt_irrefl _ isLess
  · exact dayIndex_lt_of_lt

theorem dayIndex_le_iff {first second : Date} :
    first.dayIndex ≤ second.dayIndex ↔ first ≤ second := by
  rw [← not_lt, dayIndex_lt_iff, not_lt]

theorem dayIndex_injective {first second : Date} (same : first.dayIndex = second.dayIndex) :
    first = second :=
  le_antisymm (dayIndex_le_iff.mp (le_of_eq same)) (dayIndex_le_iff.mp (ge_of_eq same))

/-! ## Going back -/

/-- The day before; the first day of the calendar has none and stays. -/
def previous (date : Date) : Date :=
  if inside : 1 < date.day then
    ⟨date.year, date.month, date.day - 1, date.le_year, date.year_le, date.le_month, date.month_le,
      by omega, by have := date.day_le; omega⟩
  else if monthStarts : 1 < date.month then
    ⟨date.year, date.month - 1, daysInMonth date.year (date.month - 1), date.le_year, date.year_le,
      by omega, by have := date.month_le; omega,
      by have := le_daysInMonth date.year (date.month - 1); omega, le_rfl⟩
  else if yearStarts : -9999 < date.year then
    ⟨date.year - 1, 12, 31, by omega, by have := date.year_le; omega, greatest.le_month,
      greatest.month_le, greatest.le_day, by simp [daysInMonth]⟩
  else date

/-- Going back a day is undone by going forward a day. -/
theorem next_previous {date : Date} (notFirst : least < date) : date.previous.next = date := by
  have := date.le_day
  have := date.day_le
  have := date.le_month
  have := date.month_le
  have := date.year_le
  simp only [lt_iff, least] at notFirst
  simp only [previous]
  split
  · simp only [next]
    rw [dif_pos (by omega)]
    apply eq_of_parts <;> simp
  split
  · simp only [next]
    rw [dif_neg (by omega), dif_pos (by omega)]
    apply eq_of_parts <;> simp
    omega
  split
  · simp only [next]
    rw [dif_neg (by simp [daysInMonth]), dif_neg (by omega), dif_pos (by omega)]
    apply eq_of_parts <;> simp
    · omega
    · omega
  · omega

theorem previous_lt {date : Date} (notFirst : least < date) : date.previous < date := by
  simp only [lt_iff, least] at notFirst
  have := date.le_month
  have := date.le_day
  simp only [previous]
  split
  · exact lt_iff.mpr (Or.inr ⟨rfl, Or.inr ⟨rfl, by simp⟩⟩)
  split
  · exact lt_iff.mpr (Or.inr ⟨rfl, Or.inl (by simp)⟩)
  split
  · exact lt_iff.mpr (Or.inl (by simp))
  · omega

theorem dayIndex_previous {date : Date} (notFirst : least < date) :
    date.previous.dayIndex + 1 = date.dayIndex := by
  rw [← dayIndex_next (lt_of_lt_of_le (previous_lt notFirst) date.le_greatest),
    next_previous notFirst]

/-- Going forward a day is undone by going back a day. -/
theorem previous_next {date : Date} (notLast : date < greatest) : date.next.previous = date := by
  have notFirst : least < date.next := lt_of_le_of_lt date.least_le (lt_next notLast)
  apply dayIndex_injective
  have := dayIndex_previous notFirst
  have := dayIndex_next notLast
  omega

/-! ## Moving by calendar days -/

/-- The date that is reached by going from day to day, forward or, for a negative number, back. -/
def movedBy (date : Date) : Int → Date
  | .ofNat days => next^[days] date
  | .negSucc days => previous^[days + 1] date

theorem dayIndex_iterate_next (date : Date) (days : Nat)
    (inside : date.dayIndex + days ≤ greatest.dayIndex) :
    (next^[days] date).dayIndex = date.dayIndex + days := by
  induction days with
  | zero => rfl
  | succ days ih =>
      have reached := ih (by omega)
      have notLast : next^[days] date < greatest := dayIndex_lt_iff.mp (by omega)
      rw [Function.iterate_succ_apply', dayIndex_next notLast]
      omega

theorem dayIndex_iterate_previous (date : Date) (days : Nat) (inside : days ≤ date.dayIndex) :
    (previous^[days] date).dayIndex + days = date.dayIndex := by
  induction days with
  | zero => rfl
  | succ days ih =>
      have reached := ih (by omega)
      have notFirst : least < previous^[days] date :=
        dayIndex_lt_iff.mp (by rw [dayIndex_least]; omega)
      have := dayIndex_previous notFirst
      rw [Function.iterate_succ_apply']
      omega

/-- Moving by calendar days adds to the index, as long as the calendar does not end. -/
theorem dayIndex_movedBy (date : Date) (days : Int) (notBefore : 0 ≤ date.dayIndex + days)
    (notAfter : date.dayIndex + days ≤ greatest.dayIndex) :
    ((date.movedBy days).dayIndex : Int) = date.dayIndex + days := by
  cases days with
  | ofNat days =>
      simp only [Int.ofNat_eq_natCast] at notAfter ⊢
      have := dayIndex_iterate_next date days (by omega)
      simp only [movedBy]
      omega
  | negSucc days =>
      have := dayIndex_iterate_previous date (days + 1) (by omega)
      simp only [movedBy]
      omega

/-! ## Numbers and indices -/

/-- Day numbers that round down are the index up to a constant. -/
theorem calendarNumber_eq (date : Date) :
    date.calendarNumber = least.calendarNumber + date.dayIndex := by
  refine next_induction
    (motive := fun date => date.calendarNumber = least.calendarNumber + date.dayIndex)
    ?_ ?_ date.least_le
  · rw [dayIndex_least, Int.natCast_zero, Int.add_zero]
  · intro day _ isBefore ih
    have notLast := lt_of_lt_of_le isBefore date.le_greatest
    rw [calendarNumber_next notLast, dayIndex_next notLast, ih]
    omega

/-- From the first of March of year 0 on, day numbers are the index up to a constant. -/
theorem dayNumber_eq_add_dayIndex {date : Date} (counted : firstMarch ≤ date) :
    date.dayNumber = least.dayNumber + date.dayIndex := by
  have sameLeast : least.dayNumber = least.calendarNumber := by decide
  rw [dayNumber_eq counted, sameLeast, calendarNumber_eq]

theorem tdiv_of_neg {value : Int} (isNegative : value < 0) (divisor : Int) :
    value.tdiv divisor = -(-value / divisor) := by
  rw [← Int.tdiv_eq_ediv_of_nonneg (show 0 ≤ -value by omega), Int.neg_tdiv, Int.neg_neg]

/-- Before day numbers count days they are at most one too large. -/
theorem dayNumber_mem (date : Date) :
    least.dayNumber + date.dayIndex ≤ date.dayNumber ∧
      date.dayNumber ≤ least.dayNumber + date.dayIndex + 1 := by
  have sameLeast : least.dayNumber = least.calendarNumber := by decide
  rw [sameLeast, ← calendarNumber_eq, calendarNumber, dayNumber_eq_tdiv]
  rcases le_or_gt 0 date.marchYear with notNegative | isNegative
  · rw [Int.tdiv_eq_ediv_of_nonneg notNegative, Int.tdiv_eq_ediv_of_nonneg notNegative,
      Int.tdiv_eq_ediv_of_nonneg notNegative]
    omega
  · rw [tdiv_of_neg isNegative, tdiv_of_neg isNegative, tdiv_of_neg isNegative]
    omega

end Date

end Reckoner
