import Reckoner.Calendar.Month
import Reckoner.Proofs.Calendar.DayIndex

/-!
# Moving a date by days

From the first of March of year 0 on, day numbers are the index of a date up to a constant. So the
distance of two dates is the difference of their indices there, moving a date by days is going from
day to day, and a move past the last day of the calendar ends on it.

In the whole calendar a move that leaves the calendar ends on its last day on that side. The
converse needs restrictions: the numbers before the first of March of year 0 stand for no days, and
early dates have numbers that are one too large.
-/

namespace Reckoner

namespace Date

variable {date first second third : Date} {days : Int}

theorem dayIndex_greatest : greatest.dayNumber = least.dayNumber + greatest.dayIndex :=
  dayNumber_eq_add_dayIndex (le_greatest firstMarch)

theorem ofDayNumber_of_lt {number : Int} (before : number < least.dayNumber) :
    ofDayNumber number = least := by
  rw [ofDayNumber, if_pos before]

theorem ofDayNumber_of_gt {number : Int} (after : greatest.dayNumber < number) :
    ofDayNumber number = greatest := by
  have : least.dayNumber < greatest.dayNumber := by decide
  rw [ofDayNumber, if_neg (by omega), if_pos after]

/-- From the number of the first of March of year 0 on, every number of the calendar is that of a
day. -/
theorem exists_ofDayNumber (number : Int) (counted : firstMarch.dayNumber ≤ number)
    (inside : number ≤ greatest.dayNumber) :
    ∃ target, firstMarch ≤ target ∧ target.dayNumber = number ∧ ofDayNumber number = target := by
  have firstEq := dayNumber_eq_add_dayIndex (le_refl firstMarch)
  have lastEq := dayIndex_greatest
  have indexEq := dayIndex_movedBy firstMarch (number - firstMarch.dayNumber) (by omega) (by omega)
  generalize firstMarch.movedBy (number - firstMarch.dayNumber) = target at indexEq
  have countedTarget : firstMarch ≤ target := dayIndex_le_iff.mp (by omega)
  have numberEq := dayNumber_eq_add_dayIndex countedTarget
  have same : target.dayNumber = number := by omega
  refine ⟨target, countedTarget, same, ?_⟩
  rw [← same, ofDayNumber_dayNumber countedTarget]

/-- The distance of two dates of the whole calendar is a 32-bit number. -/
theorem daysBetween_mem (first second : Date) :
    Offset.least ≤ first.daysBetween second ∧ first.daysBetween second ≤ Offset.greatest := by
  have := first.dayNumber_mem
  have := second.dayNumber_mem
  have := dayIndex_le_iff.mpr first.le_greatest
  have := dayIndex_le_iff.mpr second.le_greatest
  have := dayIndex_greatest
  have lastNumber : greatest.dayNumber = 3652059 := by decide
  have firstNumber : least.dayNumber = -3652424 := by decide
  simp only [daysBetween, Offset.least, Offset.greatest]
  omega

theorem daysBetween_eq (countedFirst : firstMarch ≤ first) (countedSecond : firstMarch ≤ second) :
    first.daysBetween second = second.dayIndex - first.dayIndex := by
  rw [daysBetween, dayNumber_eq_add_dayIndex countedFirst, dayNumber_eq_add_dayIndex countedSecond]
  omega

theorem addDays_eq_movedBy (counted : firstMarch ≤ date)
    (notBefore : (firstMarch.dayIndex : Int) ≤ date.dayIndex + days)
    (notAfter : date.dayIndex + days ≤ greatest.dayIndex) :
    date.addDays days = date.movedBy days := by
  have indexEq := dayIndex_movedBy date days (by omega) notAfter
  have countedTarget : firstMarch ≤ date.movedBy days := dayIndex_le_iff.mp (by omega)
  have numberEq : date.dayNumber + days = (date.movedBy days).dayNumber := by
    rw [dayNumber_eq_add_dayIndex counted, dayNumber_eq_add_dayIndex countedTarget]
    omega
  rw [addDays, numberEq, ofDayNumber_dayNumber countedTarget]

/-- A move past the last day of the calendar ends on it. -/
theorem addDays_of_gt (after : (greatest.dayIndex : Int) < date.dayIndex + days) :
    date.addDays days = greatest := by
  have := date.dayNumber_mem
  have := dayIndex_greatest
  exact ofDayNumber_of_gt (by omega)

/-- A move back past the first day of the calendar ends on it. -/
theorem addDays_of_lt (before : date.dayIndex + days < (least.dayIndex : Int)) :
    date.addDays days = least := by
  have := date.dayNumber_mem
  rw [dayIndex_least] at before
  rcases lt_or_eq_of_le (show date.dayNumber + days ≤ least.dayNumber by omega) with isLess | same
  · exact ofDayNumber_of_lt isLess
  · rw [addDays, same]
    decide

/-- From the first of March of year 0 on, the distance of two dates counts days: the next day is at
distance 1, moving by a distance leads to the other date, distances are 32-bit numbers, add up and
grow with the date. A move goes from day to day, forward or back, or ends on the last day of the
calendar. -/
theorem addDays_counts_days (countedFirst : firstMarch ≤ first)
    (countedSecond : firstMarch ≤ second) (countedThird : firstMarch ≤ third) :
    (first < greatest → first.daysBetween first.next = 1 ∧ first.next.previous = first) ∧
      first.addDays (first.daysBetween second) = second ∧
      (Offset.least ≤ first.daysBetween second ∧ first.daysBetween second ≤ Offset.greatest) ∧
      first.daysBetween second + second.daysBetween third = first.daysBetween third ∧
      (0 < first.daysBetween second ↔ first < second) ∧
      (first.daysBetween second < first.daysBetween third ↔ second < third) ∧
      (∀ days : Int, firstMarch.dayIndex ≤ first.dayIndex + days →
        first.dayIndex + days ≤ greatest.dayIndex → first.addDays days = first.movedBy days) ∧
      (∀ days : Int, greatest.dayIndex < first.dayIndex + days →
        first.addDays days = greatest) := by
  refine ⟨?_, ?_, daysBetween_mem first second, ?_, ?_, ?_, ?_, ?_⟩
  · intro notLast
    refine ⟨?_, previous_next notLast⟩
    rw [daysBetween, dayNumber_next countedFirst notLast]
    omega
  · have sumEq : first.dayNumber + (second.dayNumber - first.dayNumber) = second.dayNumber := by
      omega
    rw [addDays, daysBetween, sumEq, ofDayNumber_dayNumber countedSecond]
  · simp only [daysBetween]
    omega
  · rw [daysBetween_eq countedFirst countedSecond, ← dayIndex_lt_iff]
    omega
  · rw [daysBetween_eq countedFirst countedSecond, daysBetween_eq countedFirst countedThird,
      ← dayIndex_lt_iff]
    omega
  · intro days notBefore notAfter
    exact addDays_eq_movedBy countedFirst notBefore notAfter
  · intro days after
    exact addDays_of_gt after

/-- Over a leap day and back, and from there to the end of the calendar. -/
theorem addDays_counts_days_over_leap_day :
    firstMarch ≤ leapDayEve ∧ leapDayEve.daysBetween leapDayEve.next = 1 ∧
      leapDayEve.addDays (leapDayEve.daysBetween greatest) = greatest ∧
      leapDayEve.addDays 2 = leapDayEve.next.next ∧
      leapDayEve.addDays (-1) = leapDayEve.previous := by
  have counted : firstMarch ≤ leapDayEve := by decide
  have ⟨nextIsOneAway, leadsToEnd, _, _, _, _, goesDayByDay, _⟩ :=
    addDays_counts_days counted (le_greatest firstMarch) counted
  have indexEq := dayNumber_eq_add_dayIndex counted
  have lastEq := dayIndex_greatest
  have firstEq := dayNumber_eq_add_dayIndex (le_refl firstMarch)
  have eveNumber : leapDayEve.dayNumber = 738944 := by decide
  have lastNumber : greatest.dayNumber = 3652059 := by decide
  have firstNumber : firstMarch.dayNumber = -305 := by decide
  exact ⟨counted, (nextIsOneAway (by decide)).1, leadsToEnd, goesDayByDay 2 (by omega) (by omega),
    goesDayByDay (-1) (by omega) (by omega)⟩

/-! ## Ends of the calendar -/

theorem addDays_ne_least (notBefore : (firstMarch.dayIndex : Int) ≤ date.dayIndex + days) :
    date.addDays days ≠ least := by
  have := date.dayNumber_mem
  have := dayNumber_eq_add_dayIndex (le_refl firstMarch)
  rcases lt_or_ge greatest.dayNumber (date.dayNumber + days) with after | notAfter
  · rw [addDays, ofDayNumber_of_gt after]
    decide
  · rcases exists_ofDayNumber (date.dayNumber + days) (by omega) notAfter
      with ⟨target, counted, _, found⟩
    rw [addDays, found]
    have afterLeast : least < firstMarch := by decide
    exact ne_of_gt (lt_of_lt_of_le afterLeast counted)

/-- What is moved to the last day of the calendar has at least the last day's number, unless it is
moved to where numbers stand for no days. -/
theorem greatest_dayNumber_le_of_addDays
    (outside : date.dayIndex + days ≤ (least.dayIndex : Int) ∨
      (firstMarch.dayIndex : Int) ≤ date.dayIndex + days)
    (isGreatest : date.addDays days = greatest) : greatest.dayNumber ≤ date.dayNumber + days := by
  have numberMem := date.dayNumber_mem
  by_contra notReached
  rcases outside with before | counted
  · rw [dayIndex_least] at before
    have notGreatest : ofDayNumber least.dayNumber ≠ greatest ∧
        ofDayNumber (least.dayNumber + 1) ≠ greatest := by decide
    rw [addDays] at isGreatest
    rcases lt_or_ge (date.dayNumber + days) least.dayNumber with isLess | notLess
    · rw [ofDayNumber_of_lt isLess] at isGreatest
      exact absurd isGreatest (by decide)
    rcases eq_or_ne (date.dayNumber + days) least.dayNumber with same | notSame
    · exact notGreatest.1 (same ▸ isGreatest)
    · have same : date.dayNumber + days = least.dayNumber + 1 := by omega
      exact notGreatest.2 (same ▸ isGreatest)
  · have := dayNumber_eq_add_dayIndex (le_refl firstMarch)
    rcases exists_ofDayNumber (date.dayNumber + days) (by omega) (by omega)
      with ⟨target, _, numberEq, found⟩
    rw [addDays, found] at isGreatest
    rw [isGreatest] at numberEq
    omega

/-- A move ends on an end of the calendar if it leaves the calendar there, and only if it leads to
that end or past it. The latter holds unless the move leads to a day between the first day of the
calendar and the first of March of year 0, or from an early date to the last day but one. -/
theorem addDays_saturates_at_ends (date : Date) (days : Int)
    (outside : date.dayIndex + days ≤ (least.dayIndex : Int) ∨
      (firstMarch.dayIndex : Int) ≤ date.dayIndex + days)
    (notOneTooLarge : firstMarch ≤ date ∨ date.dayIndex + days + 1 ≠ greatest.dayIndex) :
    (date.dayIndex + days < least.dayIndex → date.addDays days = least) ∧
      (greatest.dayIndex < date.dayIndex + days → date.addDays days = greatest) ∧
      (date.addDays days = least → date.dayIndex + days ≤ least.dayIndex) ∧
      (date.addDays days = greatest → greatest.dayIndex ≤ date.dayIndex + days) := by
  refine ⟨addDays_of_lt, addDays_of_gt, ?_, ?_⟩
  · intro isLeast
    rcases outside with before | counted
    · exact before
    · exact absurd isLeast (addDays_ne_least counted)
  · intro isGreatest
    have reached := greatest_dayNumber_le_of_addDays outside isGreatest
    have lastEq := dayIndex_greatest
    rcases notOneTooLarge with counted | notBeforeLast
    · have := dayNumber_eq_add_dayIndex counted
      omega
    · have := date.dayNumber_mem
      omega

/-- From the first of March of year 0 to the end of the calendar, and a day back from the first day
of the calendar. -/
theorem addDays_saturates_at_ends_of_whole_span :
    (firstMarch.dayIndex : Int) ≤ firstMarch.dayIndex + 3652364 ∧
      (firstMarch.addDays 3652364 = greatest →
        greatest.dayIndex ≤ firstMarch.dayIndex + (3652364 : Int)) ∧
      least.dayIndex + (-1 : Int) + 1 ≠ greatest.dayIndex ∧ least.addDays (-1) = least := by
  have indexEq := dayNumber_eq_add_dayIndex (le_refl firstMarch)
  have lastEq := dayIndex_greatest
  have firstIndex := dayIndex_least
  have firstNumber : firstMarch.dayNumber = -305 := by decide
  have lastNumber : greatest.dayNumber = 3652059 := by decide
  have forward := addDays_saturates_at_ends firstMarch 3652364 (Or.inr (by omega)) (Or.inl le_rfl)
  have back := addDays_saturates_at_ends least (-1) (Or.inl (by omega)) (Or.inr (by omega))
  exact ⟨by omega, forward.2.2.2, by omega, back.1 (by omega)⟩

/-- The day before day numbers start to count days. -/
def leapDayOfYearZero : Date := (ofTriple? 0 2 29).get (by decide)

/-- Without its restrictions the statement fails: a move by a day back from the first of March of
year 0 leads to the first day of the calendar, and a move from the day before to the last day but
one leads to the last day. -/
theorem addDays_saturates_inside :
    firstMarch.addDays (-1) = least ∧ ¬firstMarch.dayIndex + (-1 : Int) ≤ least.dayIndex ∧
      leapDayOfYearZero.addDays 3652364 = greatest ∧
      ¬greatest.dayIndex ≤ leapDayOfYearZero.dayIndex + (3652364 : Int) := by
  have indexEq := dayNumber_eq_add_dayIndex (le_refl firstMarch)
  have lastEq := dayIndex_greatest
  have firstIndex := dayIndex_least
  have leastNumber : least.dayNumber = -3652424 := by decide
  have firstNumber : firstMarch.dayNumber = -305 := by decide
  have lastNumber : greatest.dayNumber = 3652059 := by decide
  have dayBefore : leapDayOfYearZero.next = firstMarch := by decide
  have earlyIndex : firstMarch.dayIndex = leapDayOfYearZero.dayIndex + 1 := by
    rw [← dayBefore, dayIndex_next (by decide)]
  refine ⟨by decide, by omega, by decide, by omega⟩

end Date

end Reckoner
