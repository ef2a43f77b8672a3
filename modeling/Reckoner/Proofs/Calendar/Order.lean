import Mathlib.Order.Defs.LinearOrder
import Reckoner.Calendar.Date

/-!
# The days of the calendar in order

The chronological order of dates is a linear order. Every date but the last of the calendar has a
next date, found by the lengths of months only, and every later date is reached by going from date
to next date. The days after one date up to another are listed that way.
-/

namespace Reckoner

namespace Date

theorem lt_iff {earlier later : Date} :
    earlier < later ↔
      earlier.year < later.year ∨
        (earlier.year = later.year ∧
          (earlier.month < later.month ∨
            (earlier.month = later.month ∧ earlier.day < later.day))) :=
  Iff.rfl

theorem le_iff_not_lt {earlier later : Date} : earlier ≤ later ↔ ¬later < earlier :=
  Iff.rfl

instance : LinearOrder Date where
  le := (· ≤ ·)
  lt := (· < ·)
  le_refl date := by
    simp only [le_iff_not_lt, lt_iff]
    omega
  le_trans first second third := by
    simp only [le_iff_not_lt, lt_iff]
    omega
  lt_iff_le_not_ge first second := by
    simp only [le_iff_not_lt, lt_iff]
    omega
  le_antisymm first second := by
    simp only [le_iff_not_lt, lt_iff]
    intro notLater notEarlier
    apply eq_of_parts <;> omega
  le_total first second := by
    simp only [le_iff_not_lt, lt_iff]
    omega
  toDecidableLE := inferInstance
  toDecidableEq := inferInstance
  toDecidableLT := inferInstance

theorem le_greatest (date : Date) : date ≤ greatest := by
  have := date.year_le
  have := date.month_le
  have := date.day_le
  have := daysInMonth_le date.year date.month
  simp only [le_iff_not_lt, lt_iff, greatest]
  omega

/-- A number that grows with the date; months are taken to be 31 days long. -/
def rank (date : Date) : Int := 372 * date.year + 31 * date.month + date.day

theorem rank_lt_rank {earlier later : Date} (isEarlier : earlier < later) :
    earlier.rank < later.rank := by
  have := earlier.month_le
  have := earlier.day_le
  have := daysInMonth_le earlier.year earlier.month
  have := later.le_month
  have := later.le_day
  simp only [lt_iff] at isEarlier
  simp only [rank]
  omega

/-- The next day of the calendar; the last day has none and stays. -/
def next (date : Date) : Date :=
  if inside : date.day < daysInMonth date.year date.month then
    ⟨date.year, date.month, date.day + 1, date.le_year, date.year_le, date.le_month, date.month_le,
      by have := date.le_day; omega, by omega⟩
  else if monthEnds : date.month < 12 then
    ⟨date.year, date.month + 1, 1, date.le_year, date.year_le,
      by have := date.le_month; omega, by omega, least.le_day,
      by have := le_daysInMonth date.year (date.month + 1); omega⟩
  else if yearEnds : date.year < 9999 then
    ⟨date.year + 1, 1, 1, by have := date.le_year; omega, by omega, least.le_month, least.month_le,
      least.le_day,
      by have := le_daysInMonth (date.year + 1) 1; omega⟩
  else date

/-- The next day is later, and nothing lies between. -/
theorem next_le_iff {date : Date} (notLast : date < greatest) (other : Date) :
    date.next ≤ other ↔ date < other := by
  have := date.day_le
  have := date.month_le
  have := date.year_le
  have := other.le_day
  have := other.month_le
  have := other.le_month
  have sameMonth : date.year = other.year → date.month = other.month →
      other.day ≤ daysInMonth date.year date.month := by
    intro sameYear sameMonth
    rw [sameYear, sameMonth]
    exact other.day_le
  have december : date.month = 12 → daysInMonth date.year date.month = 31 := by
    intro isDecember
    rw [isDecember]
    rfl
  simp only [lt_iff, greatest] at notLast
  simp only [next]
  split
  · simp only [le_iff_not_lt, lt_iff]
    omega
  split
  · simp only [le_iff_not_lt, lt_iff]
    omega
  split
  · simp only [le_iff_not_lt, lt_iff]
    omega
  · omega

theorem lt_next {date : Date} (notLast : date < greatest) : date < date.next :=
  (next_le_iff notLast date.next).mp (le_refl date.next)

theorem lt_next_iff {date : Date} (notLast : date < greatest) (other : Date) :
    other < date.next ↔ other ≤ date := by
  rw [← not_le, next_le_iff notLast, not_lt]

/-- What holds of a date and passes from day to day holds of every later date. -/
theorem next_induction {first last : Date} {motive : Date → Prop} (base : motive first)
    (step : ∀ date, first ≤ date → date < last → motive date → motive date.next)
    (isLater : first ≤ last) : motive last := by
  suffices reached : ∀ (distance : Nat) (date : Date), (last.rank - date.rank).toNat = distance →
      first ≤ date → date ≤ last → motive date → motive last from
    reached _ first rfl le_rfl isLater base
  intro distance
  induction distance using Nat.strongRecOn with
  | ind distance ih =>
      intro date distanceEq notEarlier notLater holdsDate
      rcases lt_or_eq_of_le notLater with isEarlier | rfl
      · have notLast := lt_of_lt_of_le isEarlier last.le_greatest
        have := rank_lt_rank isEarlier
        have := rank_lt_rank (lt_next notLast)
        refine ih _ ?_ date.next rfl ?_ ?_ (step date notEarlier isEarlier holdsDate)
        · omega
        · exact le_trans notEarlier (le_of_lt (lt_next notLast))
        · exact (next_le_iff notLast last).mpr isEarlier
      · exact holdsDate

/-- The days after one date up to another, in order. -/
def daysUpTo (first last : Date) : List Date :=
  if first < last then first.next :: daysUpTo first.next last else []
termination_by (last.rank - first.rank).toNat
decreasing_by
  next isEarlier =>
  have := rank_lt_rank isEarlier
  have := rank_lt_rank (lt_next (lt_of_lt_of_le isEarlier last.le_greatest))
  omega

theorem daysUpTo_of_lt {first last : Date} (isEarlier : first < last) :
    first.daysUpTo last = first.next :: first.next.daysUpTo last := by
  rw [daysUpTo, if_pos isEarlier]

theorem daysUpTo_of_le {first last : Date} (notEarlier : last ≤ first) :
    first.daysUpTo last = [] := by
  rw [daysUpTo, if_neg (not_lt.mpr notEarlier)]

/-- The days after one date up to another are exactly those. -/
theorem mem_daysUpTo {first last day : Date} :
    day ∈ first.daysUpTo last ↔ first < day ∧ day ≤ last := by
  fun_induction daysUpTo first last with
  | case1 first isEarlier ih =>
      have notLast := lt_of_lt_of_le isEarlier last.le_greatest
      rw [List.mem_cons, ih]
      constructor
      · rintro (rfl | ⟨isLater, notLater⟩)
        · exact ⟨lt_next notLast, (next_le_iff notLast last).mpr isEarlier⟩
        · exact ⟨lt_trans (lt_next notLast) isLater, notLater⟩
      · rintro ⟨isLater, notLater⟩
        rcases lt_or_eq_of_le ((next_le_iff notLast day).mpr isLater) with afterNext | isNext
        · exact Or.inr ⟨afterNext, notLater⟩
        · exact Or.inl isNext.symm
  | case2 first notEarlier =>
      simp only [List.not_mem_nil, false_iff]
      rintro ⟨isLater, notLater⟩
      exact notEarlier (lt_of_lt_of_le isLater notLater)

/-- No day is listed twice, and none out of order. -/
theorem pairwise_daysUpTo (first last : Date) : (first.daysUpTo last).Pairwise (· < ·) := by
  fun_induction daysUpTo first last with
  | case1 first isEarlier ih =>
      exact List.pairwise_cons.mpr ⟨fun day member => (mem_daysUpTo.mp member).1, ih⟩
  | case2 first notEarlier => exact List.Pairwise.nil

theorem daysUpTo_next {first last : Date} (notEarlier : first ≤ last) (notLast : last < greatest) :
    first.daysUpTo last.next = first.daysUpTo last ++ [last.next] := by
  fun_induction daysUpTo first last with
  | case1 first isEarlier ih =>
      have isBeforeNext := lt_trans isEarlier (lt_next notLast)
      have nextNotLater := (next_le_iff (lt_trans isEarlier notLast) last).mpr isEarlier
      rw [daysUpTo_of_lt isBeforeNext, ih nextNotLater, List.cons_append]
  | case2 first notBefore =>
      have same : first = last := le_antisymm notEarlier (not_lt.mp notBefore)
      subst same
      rw [daysUpTo_of_lt (lt_next notLast), daysUpTo_of_le le_rfl, List.nil_append]

/-- The days up to a date and the days from there on are the days of the whole span. -/
theorem daysUpTo_append {first middle last : Date} (notEarlier : first ≤ middle)
    (notLater : middle ≤ last) :
    first.daysUpTo middle ++ middle.daysUpTo last = first.daysUpTo last := by
  fun_induction daysUpTo first middle with
  | case1 first isEarlier ih =>
      have nextNotLater :=
        (next_le_iff (lt_of_lt_of_le isEarlier middle.le_greatest) middle).mpr isEarlier
      rw [daysUpTo_of_lt (lt_of_lt_of_le isEarlier notLater), List.cons_append, ih nextNotLater]
  | case2 first notBefore =>
      rw [le_antisymm notEarlier (not_lt.mp notBefore), List.nil_append]

/-- The day before a leap day. -/
def leapDayEve : Date :=
  ⟨2024, 2, 28, by decide, by decide, by decide, by decide, by decide, by decide⟩

/-- A leap day. -/
def leapDay : Date :=
  ⟨2024, 2, 29, by decide, by decide, by decide, by decide, by decide, by decide⟩

example : leapDayEve.next = leapDay := by decide

end Date

end Reckoner
