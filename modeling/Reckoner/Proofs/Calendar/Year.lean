import Mathlib.Data.List.Dedup
import Mathlib.Data.List.Sort
import Reckoner.Proofs.Calendar.Dated

/-!
# Calendar years

The years of dates in order are in order. The last day of a year is followed by a day of a later
year, and every other day by a day of the same year. So the days of a span of time fall into the
calendar years one after the other, and each year is closed by one day: its last one, or the last
day of the span.
-/

namespace Reckoner

namespace Date

theorem isLastDayOfYear_iff (date : Date) :
    date.isLastDayOfYear = true ↔ date.month = 12 ∧ date.day = 31 := by
  simp [isLastDayOfYear]

theorem year_le_of_le {earlier later : Date} (notLater : earlier ≤ later) :
    earlier.year ≤ later.year := by
  simp only [le_iff_not_lt, lt_iff] at notLater
  omega

/-- After the last day of a year, another year begins. -/
theorem year_lt_of_isLastDayOfYear {last later : Date} (isLast : last.isLastDayOfYear = true)
    (isLater : last < later) : last.year < later.year := by
  have := later.month_le
  have := later.day_le
  have := daysInMonth_le later.year later.month
  rw [isLastDayOfYear_iff] at isLast
  simp only [lt_iff] at isLater
  omega

/-- Within a year, the next day is a day of the same year. -/
theorem year_next {date : Date} (notLastDay : ¬date.isLastDayOfYear = true) :
    date.next.year = date.year := by
  have := date.month_le
  have := date.day_le
  rw [isLastDayOfYear_iff] at notLastDay
  simp only [next]
  split
  · rfl
  next monthEnds =>
  split
  · rfl
  next yearEnds =>
  have isDecember : date.month = 12 := by omega
  have decemberLength : daysInMonth date.year date.month = 31 := by
    rw [isDecember]
    rfl
  exact absurd ⟨isDecember, by omega⟩ notLastDay

/-- The last day of the year of a date. -/
def endOfYear (date : Date) : Date :=
  ⟨date.year, 12, 31, date.le_year, date.year_le, greatest.le_month, greatest.month_le,
    greatest.le_day, by simp [daysInMonth]⟩

theorem isLastDayOfYear_endOfYear (date : Date) : date.endOfYear.isLastDayOfYear = true :=
  rfl

theorem le_endOfYear (date : Date) : date ≤ date.endOfYear := by
  have := date.month_le
  have := date.day_le
  have := daysInMonth_le date.year date.month
  simp only [le_iff_not_lt, lt_iff, endOfYear]
  omega

/-! ## The years of a span of time -/

/-- The calendar years of the days after one date up to another. -/
def yearsUpTo (first last : Date) : List Int := ((first.daysUpTo last).map year).dedup

/-- Whether a day closes its year in a span of time that ends on a date. -/
def closesYear (day last : Date) : Bool := day.isLastDayOfYear || decide (day = last)

theorem closesYear_iff {day last : Date} :
    day.closesYear last = true ↔ day.isLastDayOfYear = true ∨ day = last := by
  rw [closesYear, Bool.or_eq_true, decide_eq_true_eq]

/-- The days after one date up to another that close a year of the span that ends on a last date. -/
def closingDays (first day last : Date) : List Date :=
  (first.daysUpTo day).filter fun closing => closing.closesYear last

theorem mem_yearsUpTo {first last : Date} {year : Int} :
    year ∈ first.yearsUpTo last ↔ ∃ day, (first < day ∧ day ≤ last) ∧ day.year = year := by
  simp only [yearsUpTo, List.mem_dedup, List.mem_map, mem_daysUpTo]

/-- The calendar years are listed in order. -/
theorem pairwise_yearsUpTo (first last : Date) : (first.yearsUpTo last).Pairwise (· < ·) := by
  have ordered : ((first.daysUpTo last).map year).Pairwise (· ≤ ·) := by
    rw [List.pairwise_map]
    exact (pairwise_daysUpTo first last).imp fun isEarlier => year_le_of_le (le_of_lt isEarlier)
  have both := (ordered.sublist (List.dedup_sublist _)).and (List.nodup_dedup _)
  exact both.imp fun isLess => lt_of_le_of_ne isLess.1 isLess.2

theorem pairwise_year_closingDays (first last : Date) :
    ((first.closingDays last last).map year).Pairwise (· < ·) := by
  rw [List.pairwise_map, closingDays, List.pairwise_filter]
  refine (pairwise_daysUpTo first last).imp_of_mem ?_
  intro earlier later _ laterMember isEarlier earlierCloses _
  rw [mem_daysUpTo] at laterMember
  rcases closesYear_iff.mp earlierCloses with isLastDay | isLast
  · exact year_lt_of_isLastDayOfYear isLastDay isEarlier
  · rw [isLast] at isEarlier
    exact absurd laterMember.2 (not_le.mpr isEarlier)

/-- Each calendar year of a span of time is closed by one of its days. -/
theorem map_year_closingDays (first last : Date) :
    (first.closingDays last last).map year = first.yearsUpTo last := by
  refine (pairwise_year_closingDays first last).eq_of_mem_iff (pairwise_yearsUpTo first last) ?_
  intro year
  simp only [mem_yearsUpTo, closingDays, List.mem_map, List.mem_filter, mem_daysUpTo]
  constructor
  · rintro ⟨day, ⟨inside, _⟩, sameYear⟩
    exact ⟨day, inside, sameYear⟩
  · rintro ⟨day, inside, sameYear⟩
    rcases le_total last day.endOfYear with endsFirst | yearEndsFirst
    · have notAfter : last.year ≤ day.endOfYear.year := year_le_of_le endsFirst
      have lastYear : last.year = day.year := le_antisymm notAfter (year_le_of_le inside.2)
      exact ⟨last, ⟨⟨lt_of_lt_of_le inside.1 inside.2, le_rfl⟩, closesYear_iff.mpr (Or.inr rfl)⟩,
        lastYear.trans sameYear⟩
    · exact ⟨day.endOfYear, ⟨⟨lt_of_lt_of_le inside.1 day.le_endOfYear, yearEndsFirst⟩,
        closesYear_iff.mpr (Or.inl day.isLastDayOfYear_endOfYear)⟩, sameYear⟩

/-! ## Things dated in the years -/

/-- Things in the order of their years are the things of one year after those of another. -/
theorem flatMap_filter_year {β : Type} {year : β → Int} {values : List β} {years : List Int}
    (ordered : values.Pairwise fun earlier later => year earlier ≤ year later)
    (increasing : years.Pairwise (· < ·)) (covered : ∀ value ∈ values, year value ∈ years) :
    (years.flatMap fun number => values.filter fun value => decide (year value = number)) =
      values := by
  induction years generalizing values with
  | nil =>
      rw [List.flatMap_nil]
      exact (List.eq_nil_iff_forall_not_mem.mpr fun value member =>
        List.not_mem_nil (covered value member)).symm
  | cons first rest ih =>
      rw [List.pairwise_cons] at increasing
      have notBefore : ∀ value ∈ values, first ≤ year value := by
        intro value member
        rcases List.mem_cons.mp (covered value member) with isFirst | isLater
        · exact le_of_eq isFirst.symm
        · exact le_of_lt (increasing.1 _ isLater)
      have firstStands : values.Pairwise fun earlier later =>
          decide (year later = first) = true → decide (year earlier = first) = true := by
        refine ordered.imp_of_mem ?_
        intro earlier later earlierMember _ isLe laterIsFirst
        rw [decide_eq_true_eq] at laterIsFirst ⊢
        exact le_antisymm (laterIsFirst ▸ isLe) (notBefore earlier earlierMember)
      have parts := takeWhile_eq_filter firstStands
      have laterCovered :
          ∀ value ∈ values.filter fun value => !decide (year value = first),
            year value ∈ rest := by
        intro value member
        rw [List.mem_filter, Bool.not_eq_true', decide_eq_false_iff_not] at member
        exact (List.mem_cons.mp (covered value member.1)).resolve_left member.2
      have laterEq : (rest.flatMap fun number =>
          values.filter fun value => decide (year value = number)) =
          values.filter fun value => !decide (year value = first) := by
        rw [← ih (ordered.filter _) increasing.2 laterCovered]
        refine List.flatMap_congr ?_
        intro number member
        rw [List.filter_filter]
        refine List.filter_congr ?_
        intro value _
        have isLater := increasing.1 number member
        rw [← decide_not, ← Bool.decide_and, decide_eq_decide]
        omega
      rw [List.flatMap_cons, laterEq, ← parts.1, ← parts.2, List.takeWhile_append_dropWhile]

end Date

end Reckoner
