import Mathlib.Data.List.Pairwise
import Reckoner.Proofs.Deposit.Occurrences

/-!
# Recurring transactions act once a month

The dates of a recurring transaction lie in different months, since each lies a number of months
after its first date. The exception is the end of the calendar. A transaction that goes on when the
calendar ends is moved to the last day of the calendar once, and if it has been there in that month
before, on an earlier day, it acts twice in it. This happens in no other month, and only in deposits
that end on that day.
-/

namespace Reckoner

namespace Deposit

open Date (greatest)

variable {anchor start finish date : Date} {recurrence : Recurrence} {months : Nat}

theorem monthIndex_eq_iff {first second : Date} :
    first.monthIndex = second.monthIndex ↔
      first.year = second.year ∧ first.month = second.month := by
  constructor
  · exact Date.eq_of_monthIndex_eq
  · rintro ⟨sameYear, sameMonth⟩
    rw [Date.monthIndex, Date.monthIndex, sameYear, sameMonth]

/-! ## The last occurrence -/

/-- Occurrences that are counted lie in different months, or the later one is the last day of the
calendar. -/
theorem monthIndex_lt_or_eq_greatest (recurs : 0 < months) {earlier later : Nat}
    (isLess : earlier < later) :
    (nthOccurrence anchor months earlier).monthIndex <
        (nthOccurrence anchor months later).monthIndex ∨
      nthOccurrence anchor months later = greatest := by
  rcases nthOccurrence_cases anchor months later with ⟨laterEq, _⟩ | ⟨isGreatest, _⟩
  · exact Or.inl (nthOccurrence_lt_of_monthIndex recurs isLess laterEq)
  · exact Or.inr isGreatest

/-- In a deposit that ends with the calendar, the search ends at the first occurrence that repeats
the last day of the calendar. -/
theorem occurrenceCount_greatest (anchor : Date) (recurs : 0 < months) :
    ∃ last, occurrenceCount anchor greatest months = last + 1 ∧
      nthOccurrence anchor months last = greatest ∧
      greatest.monthIndex < anchor.monthIndex + months * (last + 1 : Nat) := by
  have ends : endsBefore anchor greatest months (occurrenceCount anchor greatest months) = true :=
    leastFrom?_passes _ (endsBefore_greatestOccurrenceCount recurs)
  simp only [endsBefore, Bool.or_eq_true, Bool.and_eq_true, decide_eq_true_eq] at ends
  rcases ends with isAfter | ⟨isPos, repeats⟩
  · exact absurd isAfter (not_lt.mpr (Date.le_greatest _))
  · rcases Nat.exists_eq_succ_of_ne_zero (Nat.ne_of_gt isPos) with ⟨last, countEq⟩
    rw [countEq, Nat.succ_sub_one] at repeats
    rcases nthOccurrence_cases anchor months last.succ with ⟨monthEq, _⟩ | ⟨isGreatest, isMore⟩
    · have isLess := nthOccurrence_lt_of_monthIndex recurs (Nat.lt_succ_self last) monthEq
      rw [repeats] at isLess
      exact absurd isLess (lt_irrefl _)
    · exact ⟨last, countEq, repeats.trans isGreatest, isMore⟩

/-- The dates that are found in a deposit that ends with the calendar are those on which the
transaction happens, and the last day of the calendar in any case. A number that is not counted
would lead past the last month. -/
theorem mem_occurrencesUpTo_greatest (recurs : recurrence ≠ .once) :
    date ∈ occurrencesUpTo anchor greatest recurrence ↔
      OccursOn anchor recurrence date ∨ date = greatest := by
  have monthsPos := Recurrence.months_pos recurs
  rcases occurrenceCount_greatest anchor monthsPos with ⟨last, countEq, lastEq, isMore⟩
  rw [occurrencesUpTo, if_neg (Nat.ne_of_gt monthsPos), OccursOn, if_neg (Nat.ne_of_gt monthsPos),
    countEq]
  simp only [List.mem_map, List.mem_range]
  constructor
  · rintro ⟨number, _, rfl⟩
    rcases nthOccurrence_cases anchor recurrence.months number with inside | ⟨isGreatest, _⟩
    · exact Or.inl ⟨number, inside⟩
    · exact Or.inr isGreatest
  · rintro (⟨number, monthEq, dayEq⟩ | rfl)
    · refine ⟨number, ?_, nthOccurrence_eq monthEq dayEq⟩
      by_contra notCounted
      have moreMonths := Nat.mul_le_mul_left recurrence.months (Nat.le_of_not_lt notCounted)
      have := date.isMonthIndex_monthIndex.2
      omega
    · exact ⟨last, Nat.lt_succ_self last, lastEq⟩

/-! ## Months -/

/-- Whether no two dates lie in the same month of the same year. -/
def InDifferentMonths (dates : List Date) : Prop :=
  dates.Pairwise fun earlier later => ¬(earlier.year = later.year ∧ earlier.month = later.month)

variable {α : Type} {transaction : Transaction α}

/-- Whether a transaction happens in the last month of the calendar, but not on its last day, in a
deposit that ends on that day. -/
def Transaction.RepeatsAtEnd (transaction : Transaction α) (start finish : Date) : Prop :=
  finish = greatest ∧ ∃ date, OccursOn transaction.entry.date transaction.recurrence date ∧
    start ≤ date ∧ date < greatest ∧ date.year = greatest.year ∧ date.month = greatest.month

theorem pairwise_occurrences (start finish anchor : Date) (recurrence : Recurrence) :
    (occurrences start finish anchor recurrence).Pairwise (· < ·) :=
  pairwise_occurrencesUpTo.filter _

/-- A date in the month of an earlier one is the last day of the calendar. -/
theorem pairwise_occurrences_month (start finish anchor : Date) (recurs : recurrence ≠ .once) :
    (occurrences start finish anchor recurrence).Pairwise fun earlier later =>
      earlier.year = later.year ∧ earlier.month = later.month → later = greatest := by
  have monthsPos := Recurrence.months_pos recurs
  refine List.Pairwise.filter _ ?_
  rw [occurrencesUpTo, if_neg (Nat.ne_of_gt monthsPos), List.pairwise_map]
  refine List.pairwise_lt_range.imp ?_
  intro earlier later isLess sameMonth
  rcases monthIndex_lt_or_eq_greatest monthsPos isLess with isEarlier | isGreatest
  · rw [monthIndex_eq_iff.mpr sameMonth] at isEarlier
    exact absurd isEarlier (lt_irrefl _)
  · exact isGreatest

/-- Only the last of the dates may lie in the month of another one. -/
theorem inDifferentMonths_dropLast (start finish anchor : Date) (recurs : recurrence ≠ .once) :
    InDifferentMonths (occurrences start finish anchor recurrence).dropLast := by
  have increasing := pairwise_occurrences start finish anchor recurrence
  have months := pairwise_occurrences_month start finish anchor recurs
  rcases List.eq_nil_or_concat (occurrences start finish anchor recurrence) with
    isEmpty | ⟨before, last, isConcat⟩
  · rw [isEmpty]
    exact List.Pairwise.nil
  · rw [isConcat, List.concat_eq_append] at increasing months ⊢
    rw [List.dropLast_concat]
    rw [List.pairwise_append] at increasing months
    refine months.1.imp_of_mem ?_
    intro earlier later _ laterMember lastIfSame sameMonth
    have beforeLast := increasing.2.2 later laterMember last (List.mem_singleton_self last)
    rw [lastIfSame sameMonth] at beforeLast
    exact absurd beforeLast (not_lt.mpr last.le_greatest)

theorem mem_occurrences_greatest (recurs : recurrence ≠ .once) :
    date ∈ occurrences start greatest anchor recurrence ↔
      (OccursOn anchor recurrence date ∨ date = greatest) ∧ start ≤ date := by
  rw [occurrences, List.mem_filter, mem_occurrencesUpTo_greatest recurs, decide_eq_true_eq]

/-- The dates of a recurring transaction lie in different months, unless it has one in the month in
which the calendar ends and is moved to the last day from there. -/
theorem inDifferentMonths_iff (start finish : Date) (recurs : transaction.recurrence ≠ .once) :
    InDifferentMonths
        (occurrences start finish transaction.entry.date transaction.recurrence) ↔
      ¬transaction.RepeatsAtEnd start finish := by
  constructor
  · rintro different ⟨rfl, date, occurs, notBefore, beforeLast, sameMonth⟩
    have isSymmetric : Std.Symm fun first second : Date =>
        ¬(first.year = second.year ∧ first.month = second.month) :=
      ⟨fun _ _ notSame same => notSame ⟨same.1.symm, same.2.symm⟩⟩
    have dateMember : date ∈
        occurrences start greatest transaction.entry.date transaction.recurrence :=
      (mem_occurrences_greatest recurs).mpr ⟨Or.inl occurs, notBefore⟩
    have lastMember : greatest ∈
        occurrences start greatest transaction.entry.date transaction.recurrence :=
      (mem_occurrences_greatest recurs).mpr ⟨Or.inr rfl, start.le_greatest⟩
    exact different.forall dateMember lastMember (ne_of_lt beforeLast) sameMonth
  · intro notRepeated
    have increasing :=
      pairwise_occurrences start finish transaction.entry.date transaction.recurrence
    have months := pairwise_occurrences_month start finish transaction.entry.date recurs
    refine (increasing.and months).imp_of_mem ?_
    rintro earlier later earlierMember laterMember ⟨isLess, lastIfSame⟩ sameMonth
    have isLast := lastIfSame sameMonth
    rw [isLast] at isLess sameMonth laterMember
    have endsLast : finish = greatest :=
      le_antisymm finish.le_greatest (mem_occurrencesUpTo (List.mem_filter.mp laterMember).1)
    rw [endsLast] at earlierMember
    rcases (mem_occurrences_greatest recurs).mp earlierMember with ⟨occurs | isGreatest, notBefore⟩
    · exact notRepeated ⟨endsLast, earlier, occurs, notBefore, isLess, sameMonth⟩
    · exact absurd isGreatest (ne_of_lt isLess)

/-! ## All transactions -/

theorem map_date_entriesOf (start finish : Date) (transaction : Transaction α) (amount : α) :
    (entriesOf start finish transaction amount).map Entry.date =
      occurrences start finish transaction.entry.date transaction.recurrence := by
  rw [entriesOf, List.map_map]
  exact List.map_id _

theorem mergeSort_entriesOf (start finish : Date) (transaction : Transaction α) (amount : α) :
    ((entriesOf start finish transaction amount).mergeSort fun earlier later =>
      decide (earlier.date ≤ later.date)) = entriesOf start finish transaction amount := by
  apply List.mergeSort_of_pairwise
  rw [entriesOf, List.pairwise_map]
  exact (pairwise_occurrences _ _ _ _).imp fun isLess => decide_eq_true (le_of_lt isLess)

variable [Arithmetic α]

/-- A transaction alone is expanded to its dates in order. -/
theorem expand_fund (start finish : Date) (fund : Transaction α) :
    expand start finish [fund] [] =
      entriesOf start finish fund (Nat.cast 1 * fund.entry.amount) := by
  simp only [expand, List.flatMap_cons, List.flatMap_nil, List.append_nil, mergeSort_entriesOf]

theorem expand_withdrawal (start finish : Date) (withdrawal : Transaction α) :
    expand start finish [] [withdrawal] =
      entriesOf start finish withdrawal (-Nat.cast 1 * withdrawal.entry.amount) := by
  simp only [expand, List.flatMap_cons, List.flatMap_nil, List.append_nil, List.nil_append,
    mergeSort_entriesOf]

/-- The dated amounts of a deposit are those of its transactions, each alone, in a stable order by
date. Those of a recurring transaction lie in different months just if it does not happen in the
last month of the calendar before the last day, in a deposit that ends on that day, and in any case
all but the last of them do. -/
theorem recurring_in_different_months (start finish : Date) (transaction : Transaction α)
    (recurs : transaction.recurrence ≠ .once) (funds withdrawals : List (Transaction α)) :
    (∀ alone ∈ [expand start finish [transaction] [], expand start finish [] [transaction]],
      (InDifferentMonths (alone.map Entry.date) ↔ ¬transaction.RepeatsAtEnd start finish) ∧
        InDifferentMonths (alone.map Entry.date).dropLast) ∧
      Date.IsStableSort Entry.date (expand start finish funds withdrawals)
        ((funds.flatMap fun fund => expand start finish [fund] []) ++
          withdrawals.flatMap fun withdrawal => expand start finish [] [withdrawal]) := by
  simp only [expand_fund, expand_withdrawal]
  refine ⟨?_, Date.isStableSort_mergeSort Entry.date _⟩
  intro alone member
  have dates : alone.map Entry.date =
      occurrences start finish transaction.entry.date transaction.recurrence := by
    rw [List.mem_cons, List.mem_singleton] at member
    rcases member with rfl | rfl
    · exact map_date_entriesOf _ _ _ _
    · exact map_date_entriesOf _ _ _ _
  rw [dates]
  exact ⟨inDifferentMonths_iff start finish recurs,
    inDifferentMonths_dropLast start finish transaction.entry.date recurs⟩

/-- A day in the last month of the calendar. -/
def lastDecember : Date := (Date.ofTriple? 9999 12 15).get (by decide)

/-- A fund for the middle of every month up to the end of the calendar. -/
def untilTheEnd : Transaction Float := ⟨⟨lastDecember, 100.0⟩, .monthly⟩

/-- The fund acts once a month in a deposit that ends a day later, and not in one that ends with the
calendar. -/
theorem recurring_in_different_months_until_the_end :
    untilTheEnd.recurrence ≠ .once ∧
      InDifferentMonths
        ((expand lastDecember lastDecember.next [untilTheEnd] []).map Entry.date) ∧
      ¬InDifferentMonths ((expand lastDecember greatest [untilTheEnd] []).map Entry.date) := by
  have recurs : untilTheEnd.recurrence ≠ .once := by decide
  have beforeTheEnd := recurring_in_different_months lastDecember lastDecember.next untilTheEnd
    recurs [] []
  have atTheEnd := recurring_in_different_months lastDecember greatest untilTheEnd recurs [] []
  have notRepeated : ¬untilTheEnd.RepeatsAtEnd lastDecember lastDecember.next := by
    rintro ⟨isGreatest, _⟩
    exact absurd isGreatest (by decide)
  have repeated : untilTheEnd.RepeatsAtEnd lastDecember greatest :=
    ⟨rfl, lastDecember, by decide, le_rfl, by decide, rfl, rfl⟩
  refine ⟨recurs, (beforeTheEnd.1 _ List.mem_cons_self).1.mpr notRepeated, ?_⟩
  intro different
  exact (atTheEnd.1 _ List.mem_cons_self).1.mp different repeated

/-- Without the exception the statement fails: in a deposit that ends with the calendar, a fund for
the middle of the last month is also dated on its last day. -/
theorem recurring_twice_in_last_month :
    untilTheEnd.recurrence ≠ .once ∧ lastDecember ≤ greatest ∧
      (expand lastDecember greatest [untilTheEnd] []).map Entry.date = [lastDecember, greatest] ∧
      lastDecember.year = greatest.year ∧ lastDecember.month = greatest.month := by
  rw [expand_fund, map_date_entriesOf]
  decide

end Deposit

end Reckoner
