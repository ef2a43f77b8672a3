import Reckoner.Proofs.Calendar.DayIndex
import Reckoner.Proofs.Calendar.Month

/-!
# Where a move by months leads

A move by months leads to one month, told by its index, and to one day in it. It leads out of the
calendar if the year of that month does, and then to the end of the calendar on that side. Such
moves keep the order of dates, and more months lead to a later date as long as the calendar goes on.
Years are moves by twelve months each, also where the number of months is no 32-bit number.
-/

namespace Reckoner

namespace Date

/-- Whether a date is the one that lies a number of months from another: in the month with that
index, on the same day or the last one of a shorter month, or the end of the calendar in the
direction of the move, if the year of that month is not in the calendar. -/
def IsMonthsAway (date : Date) (months : Int) (target : Date) : Prop :=
  if -9999 ≤ (date.monthIndex + months) / 12 ∧ (date.monthIndex + months) / 12 ≤ 9999 then
    target.monthIndex = date.monthIndex + months ∧
      target.day = min date.day (daysInMonth target.year target.month)
  else target = if months < 0 then least else greatest

instance (date : Date) (months : Int) (target : Date) :
    Decidable (IsMonthsAway date months target) := by
  unfold IsMonthsAway
  infer_instance

theorem isMonthIndex_iff {index : Int} :
    IsMonthIndex index ↔ -9999 ≤ index / 12 ∧ index / 12 ≤ 9999 := by
  simp only [IsMonthIndex, monthIndex, monthsInYear, least, greatest]
  omega

/-- Only one date lies a number of months from a date. -/
theorem IsMonthsAway.unique {date first second : Date} {months : Int}
    (isFirst : date.IsMonthsAway months first) (isSecond : date.IsMonthsAway months second) :
    first = second := by
  rw [IsMonthsAway] at isFirst isSecond
  split at isFirst
  · next inside =>
    rw [if_pos inside] at isSecond
    rcases eq_of_monthIndex_eq (isFirst.1.trans isSecond.1.symm) with ⟨sameYear, sameMonth⟩
    refine eq_of_parts sameYear sameMonth ?_
    rw [isFirst.2, isSecond.2, sameYear, sameMonth]
  · next outside =>
    rw [if_neg outside] at isSecond
    exact isFirst.trans isSecond.symm

theorem isMonthsAway_addMonths (date : Date) (months : Int) :
    date.IsMonthsAway months (date.addMonths months) := by
  rw [IsMonthsAway]
  split
  · next inside => exact addMonths_of_mem (isMonthIndex_iff.mpr inside)
  · next outside => exact addMonths_of_not_mem (mt isMonthIndex_iff.mp outside)

/-! ## Moves keep the order -/

theorem monthIndex_le_of_le {first second : Date} (isLe : first ≤ second) :
    first.monthIndex ≤ second.monthIndex := by
  by_contra isGreater
  exact absurd isLe (not_le.mpr (lt_of_monthIndex_lt (not_le.mp isGreater)))

/-- Dates of one month are in the order of their days. -/
theorem le_iff_day_le {first second : Date} (sameMonth : first.monthIndex = second.monthIndex) :
    first ≤ second ↔ first.day ≤ second.day := by
  rcases eq_of_monthIndex_eq sameMonth with ⟨yearEq, monthEq⟩
  simp only [le_iff_not_lt, lt_iff]
  omega

/-- A later date is not moved to an earlier one: the month of the target is not earlier, and in the
same month the days are cut to the same length. -/
theorem addMonths_mono {first second : Date} (isLe : first ≤ second) (months : Int) :
    first.addMonths months ≤ second.addMonths months := by
  have indexLe := monthIndex_le_of_le isLe
  by_cases firstInside : IsMonthIndex (first.monthIndex + months)
  · by_cases secondInside : IsMonthIndex (second.monthIndex + months)
    · rcases addMonths_of_mem firstInside with ⟨firstMonth, firstDay⟩
      rcases addMonths_of_mem secondInside with ⟨secondMonth, secondDay⟩
      rcases lt_or_eq_of_le indexLe with isLess | same
      · exact le_of_lt (lt_of_monthIndex_lt (by omega))
      · have sameTarget : (first.addMonths months).monthIndex =
            (second.addMonths months).monthIndex := by
          omega
        have dayLe := (le_iff_day_le same).mp isLe
        rw [le_iff_day_le sameTarget, firstDay, secondDay]
        rcases eq_of_monthIndex_eq sameTarget with ⟨yearEq, monthEq⟩
        rw [yearEq, monthEq]
        omega
    · have := second.isMonthIndex_monthIndex
      have forward : ¬months < 0 := by
        simp only [IsMonthIndex] at *
        omega
      rw [addMonths_of_not_mem secondInside, endOfCalendar, if_neg forward]
      exact le_greatest _
  · have := first.isMonthIndex_monthIndex
    rw [addMonths_of_not_mem firstInside, endOfCalendar]
    split
    · exact least_le _
    · have secondOutside : ¬IsMonthIndex (second.monthIndex + months) := by
        simp only [IsMonthIndex] at *
        omega
      rw [addMonths_of_not_mem secondOutside, endOfCalendar, if_neg ‹¬months < 0›]

theorem addMonths_lt_addMonths (date : Date) {fewer more : Int} (isLess : fewer < more)
    (fewerInside : IsMonthIndex (date.monthIndex + fewer))
    (moreInside : IsMonthIndex (date.monthIndex + more)) :
    date.addMonths fewer < date.addMonths more := by
  have fewerMonth := (addMonths_of_mem fewerInside).1
  have moreMonth := (addMonths_of_mem moreInside).1
  exact lt_of_monthIndex_lt (by omega)

theorem addYears_eq_addMonths (date : Date) (years : Int) :
    date.addYears years = date.addMonths (12 * years) := by
  rw [addYears, addMonths_clamp, monthsInYear, Int.mul_comm]

/-- Moving by months leads to the one date that many months away. It keeps the order of dates, and
by more months it leads to a later date while the calendar goes on. Moving by years is moving by
twelve times as many months. -/
theorem addMonths_counts_months (first second : Date) (months more : Int) :
    first.IsMonthsAway months (first.addMonths months) ∧
      (first ≤ second → first.addMonths months ≤ second.addMonths months) ∧
      (months < more → IsMonthIndex (first.monthIndex + months) →
        IsMonthIndex (first.monthIndex + more) → first.addMonths months < first.addMonths more) ∧
      first.IsMonthsAway (12 * months) (first.addYears months) := by
  refine ⟨isMonthsAway_addMonths first months, ?_, ?_, ?_⟩
  · intro isLe
    exact addMonths_mono isLe months
  · intro isLess fewerInside moreInside
    exact addMonths_lt_addMonths first isLess fewerInside moreInside
  · rw [addYears_eq_addMonths]
    exact isMonthsAway_addMonths first (12 * months)

/-- A day at the end of January that no February has. -/
def endOfJanuary : Date := (ofTriple? 2024 1 30).get (by decide)

/-- From the end of a January to a leap day and to the end of a later February, and by so many years
that their months are no 32-bit number. -/
theorem addMonths_counts_months_from_end_of_january :
    endOfJanuary ≤ leapDayEve ∧ endOfJanuary.addMonths 1 ≤ leapDayEve.addMonths 1 ∧
      endOfJanuary.addMonths 1 = leapDay ∧ IsMonthIndex (endOfJanuary.monthIndex + 13) ∧
      leapDay < endOfJanuary.addMonths 13 ∧ Offset.greatest < 12 * 178956971 ∧
      endOfJanuary.addYears 178956971 = greatest := by
  have isLe : endOfJanuary ≤ leapDayEve := by decide
  have oneInside : IsMonthIndex (endOfJanuary.monthIndex + 1) := isMonthIndex_iff.mpr (by decide)
  have moreInside : IsMonthIndex (endOfJanuary.monthIndex + 13) := isMonthIndex_iff.mpr (by decide)
  have ⟨isAway, keepsOrder, isLater, _⟩ := addMonths_counts_months endOfJanuary leapDayEve 1 13
  have ⟨_, _, _, yearsAway⟩ := addMonths_counts_months endOfJanuary leapDayEve 178956971 178956971
  have isLeapDay : endOfJanuary.addMonths 1 = leapDay := isAway.unique (by decide)
  have isLaterDay := isLater (by decide) oneInside moreInside
  rw [isLeapDay] at isLaterDay
  exact ⟨isLe, keepsOrder isLe, isLeapDay, moreInside, isLaterDay, by decide,
    yearsAway.unique (by decide)⟩

end Date

end Reckoner
