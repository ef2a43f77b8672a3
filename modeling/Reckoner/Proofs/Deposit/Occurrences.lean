import Mathlib.Data.List.Sort
import Reckoner.Proofs.Deposit.Timetable

/-!
# The dates of transactions

A transaction that happens once happens on its own date. A recurring one happens in every month that
lies a multiple of its step after the month of its first date, on the day of that date or on the
last day of a shorter month. The search for its dates loses none of them and repeats none: moves by
more months lead to later dates as long as the calendar does not end, and it does not end within a
deposit that ends before the last day of the calendar.

So the dated amounts of a deposit are the amounts of its transactions on exactly those of its days,
sorted by date without changing the order on one day.
-/

namespace Reckoner

namespace Deposit

open Date (greatest)

/-- Whether a transaction with a first date happens on a date. -/
def OccursOn (anchor : Date) (recurrence : Recurrence) (date : Date) : Prop :=
  if recurrence.months = 0 then date = anchor
  else ∃ number : Nat, date.monthIndex = anchor.monthIndex + recurrence.months * number ∧
    date.day = min anchor.day (daysInMonth date.year date.month)

theorem occursOn_iff {anchor date : Date} {recurrence : Recurrence} :
    OccursOn anchor recurrence date ↔
      if recurrence.months = 0 then date = anchor
      else (anchor.monthIndex ≤ date.monthIndex ∧
          (recurrence.months : Int) ∣ date.monthIndex - anchor.monthIndex) ∧
        date.day = min anchor.day (daysInMonth date.year date.month) := by
  rw [OccursOn]
  split
  · rfl
  · constructor
    · rintro ⟨number, monthEq, dayEq⟩
      have notNegative : (0 : Int) ≤ recurrence.months * number :=
        Int.mul_nonneg (Int.natCast_nonneg _) (Int.natCast_nonneg _)
      exact ⟨⟨by omega, ⟨number, by omega⟩⟩, dayEq⟩
    · rintro ⟨⟨notEarlier, number, distanceEq⟩, dayEq⟩
      next recurs =>
      have monthsPos : (0 : Int) < recurrence.months := by omega
      have notNegative : 0 ≤ number :=
        Int.nonneg_of_mul_nonneg_right (by omega) monthsPos
      refine ⟨number.toNat, ?_, dayEq⟩
      rw [Int.toNat_of_nonneg notNegative]
      omega

instance (anchor : Date) (recurrence : Recurrence) (date : Date) :
    Decidable (OccursOn anchor recurrence date) :=
  decidable_of_iff' _ occursOn_iff

/-- The dates within a deposit on which a transaction happens, in order. -/
def Transaction.datesWithin {α : Type} (transaction : Transaction α) (start finish : Date) :
    List Date :=
  (start :: start.daysUpTo finish).filter fun day =>
    decide (OccursOn transaction.entry.date transaction.recurrence day)

variable {anchor start finish date : Date} {recurrence : Recurrence} {months number : Nat}

theorem Recurrence.months_pos (recurs : recurrence ≠ .once) : 0 < recurrence.months := by
  cases recurrence with
  | once => exact absurd rfl recurs
  | _ => decide

/-! ## Occurrences by their numbers -/

/-- An occurrence lies in the month of its number, or the calendar ends before. -/
theorem nthOccurrence_cases (anchor : Date) (months number : Nat) :
    ((nthOccurrence anchor months number).monthIndex = anchor.monthIndex + months * number ∧
        (nthOccurrence anchor months number).day =
          min anchor.day (daysInMonth (nthOccurrence anchor months number).year
            (nthOccurrence anchor months number).month)) ∨
      (nthOccurrence anchor months number = greatest ∧
        greatest.monthIndex < anchor.monthIndex + months * number) := by
  have moved := addMonths_clamp_cases anchor (months * number)
  rw [Int.natCast_mul] at moved
  exact moved

/-- An occurrence that is not after the end of the deposit lies in the month of its number. -/
theorem nthOccurrence_of_le (beforeEnd : finish < greatest)
    (notAfter : nthOccurrence anchor months number ≤ finish) :
    (nthOccurrence anchor months number).monthIndex = anchor.monthIndex + months * number ∧
      (nthOccurrence anchor months number).day =
        min anchor.day (daysInMonth (nthOccurrence anchor months number).year
          (nthOccurrence anchor months number).month) := by
  rcases nthOccurrence_cases anchor months number with inside | ⟨isGreatest, _⟩
  · exact inside
  · rw [isGreatest] at notAfter
    exact absurd notAfter (not_le.mpr beforeEnd)

/-- An occurrence that lies in the month of its number is later than all before it, and they lie in
earlier months. -/
theorem nthOccurrence_lt_of_monthIndex (recurs : 0 < months) {earlier later : Nat}
    (isLess : earlier < later)
    (laterEq : (nthOccurrence anchor months later).monthIndex =
      anchor.monthIndex + months * later) :
    (nthOccurrence anchor months earlier).monthIndex <
      (nthOccurrence anchor months later).monthIndex := by
  have fewerMonths : months * earlier < months * later := Nat.mul_lt_mul_of_pos_left isLess recurs
  rcases nthOccurrence_cases anchor months earlier with ⟨earlierEq, _⟩ | ⟨_, isMore⟩
  · rw [laterEq, earlierEq]
    omega
  · have := (nthOccurrence anchor months later).isMonthIndex_monthIndex.2
    omega

/-- Later occurrences have later dates. -/
theorem nthOccurrence_lt_nthOccurrence (beforeEnd : finish < greatest) (recurs : 0 < months)
    {earlier later : Nat} (isLess : earlier < later)
    (notAfter : nthOccurrence anchor months later ≤ finish) :
    nthOccurrence anchor months earlier < nthOccurrence anchor months later :=
  Date.lt_of_monthIndex_lt
    (nthOccurrence_lt_of_monthIndex recurs isLess (nthOccurrence_of_le beforeEnd notAfter).1)

/-- The calendar ends before as many occurrences as it has months. -/
theorem nthOccurrence_eq_greatest (anchor : Date) (recurs : 0 < months)
    (isLarge : greatestOccurrenceCount ≤ number + 2) :
    nthOccurrence anchor months number = greatest := by
  have manyMonths := Nat.le_mul_of_pos_left number recurs
  have countEq : greatestOccurrenceCount = 239990 := by decide
  have firstMonth : Date.least.monthIndex = -119988 := by decide
  have lastMonth : greatest.monthIndex = 119999 := by decide
  rcases nthOccurrence_cases anchor months number with ⟨monthEq, _⟩ | ⟨isGreatest, _⟩
  · have := anchor.isMonthIndex_monthIndex.1
    have := (nthOccurrence anchor months number).isMonthIndex_monthIndex.2
    omega
  · exact isGreatest

/-- The next occurrence repeats the last day of the calendar. -/
theorem endsBefore_of_le (anchor finish : Date) (recurs : 0 < months)
    (isLarge : greatestOccurrenceCount ≤ number + 1) :
    endsBefore anchor finish months number = true := by
  have countEq : greatestOccurrenceCount = 239990 := by decide
  have isPos : 0 < number := by omega
  have isGreatest : nthOccurrence anchor months number = greatest :=
    nthOccurrence_eq_greatest anchor recurs (by omega)
  have wasGreatest : nthOccurrence anchor months (number - 1) = greatest :=
    nthOccurrence_eq_greatest anchor recurs (by omega)
  rw [endsBefore, isGreatest, wasGreatest]
  simp [isPos]

/-- The search is long enough: by its end, the calendar has ended. -/
theorem endsBefore_greatestOccurrenceCount (recurs : 0 < months) :
    endsBefore anchor finish months greatestOccurrenceCount = true :=
  endsBefore_of_le anchor finish recurs (Nat.le_succ _)

/-- The first occurrence that is not counted lies after the end of the deposit. It does not repeat
one within the deposit, since no month before the end is repeated. -/
theorem finish_lt_nthOccurrence_count (beforeEnd : finish < greatest) (recurs : 0 < months) :
    finish < nthOccurrence anchor months (occurrenceCount anchor finish months) := by
  have ends : endsBefore anchor finish months (occurrenceCount anchor finish months) = true :=
    leastFrom?_passes _ (endsBefore_greatestOccurrenceCount recurs)
  simp only [endsBefore, Bool.or_eq_true, Bool.and_eq_true, decide_eq_true_eq] at ends
  rcases ends with isLater | ⟨isPos, repeats⟩
  · exact isLater
  · by_contra notLater
    have isLess := nthOccurrence_lt_nthOccurrence beforeEnd recurs
      (Nat.sub_lt isPos Nat.one_pos) (not_lt.mp notLater)
    exact absurd repeats (ne_of_lt isLess)

/-- The occurrences that are counted are those up to the end of the deposit. -/
theorem lt_occurrenceCount_iff (beforeEnd : finish < greatest) (recurs : 0 < months) :
    number < occurrenceCount anchor finish months ↔
      nthOccurrence anchor months number ≤ finish := by
  constructor
  · exact nthOccurrence_le_finish
  · intro notAfter
    by_contra notCounted
    have countLater : finish < nthOccurrence anchor months (occurrenceCount anchor finish months) :=
      finish_lt_nthOccurrence_count beforeEnd recurs
    rcases Nat.eq_or_lt_of_le (Nat.le_of_not_lt notCounted) with same | isLess
    · rw [same] at countLater
      exact absurd notAfter (not_le.mpr countLater)
    · have := nthOccurrence_lt_nthOccurrence beforeEnd recurs isLess notAfter
      exact absurd (le_trans (le_of_lt this) notAfter) (not_le.mpr countLater)

/-- What lies in the month of a number and on the day is the occurrence of that number. -/
theorem nthOccurrence_eq (monthEq : date.monthIndex = anchor.monthIndex + months * number)
    (dayEq : date.day = min anchor.day (daysInMonth date.year date.month)) :
    nthOccurrence anchor months number = date := by
  rcases nthOccurrence_cases anchor months number with ⟨movedMonth, movedDay⟩ | ⟨_, isMore⟩
  · rcases Date.eq_of_monthIndex_eq (movedMonth.trans monthEq.symm) with ⟨sameYear, sameMonth⟩
    rw [sameYear, sameMonth, ← dayEq] at movedDay
    exact Date.eq_of_parts sameYear sameMonth movedDay
  · have := date.isMonthIndex_monthIndex.2
    omega

/-- An occurrence that is counted and followed by another one is not the last day of the calendar,
since there the next one would repeat it. -/
theorem nthOccurrence_ne_greatest (counted : number + 1 < occurrenceCount anchor finish months) :
    nthOccurrence anchor months number ≠ greatest := by
  intro isGreatest
  have notEarlier : nthOccurrence anchor months number ≤
      nthOccurrence anchor months (number + 1) := by
    have moved := addMonths_clamp_le anchor (Nat.mul_le_mul_left months (Nat.le_succ number))
    rw [Int.natCast_mul, Int.natCast_mul] at moved
    exact moved
  have repeats : nthOccurrence anchor months number = nthOccurrence anchor months (number + 1) := by
    rw [isGreatest] at notEarlier ⊢
    exact le_antisymm notEarlier (Date.le_greatest _)
  have fails : endsBefore anchor finish months (number + 1) = false :=
    leastFrom?_fails (Nat.le_add_left _ _) (Nat.zero_le _) counted
  simp [endsBefore, repeats] at fails

/-- Of the occurrences that are counted, later ones have later dates, whenever the deposit ends. -/
theorem nthOccurrence_lt_of_counted (recurs : 0 < months) {earlier later : Nat}
    (isLess : earlier < later) (counted : later < occurrenceCount anchor finish months) :
    nthOccurrence anchor months earlier < nthOccurrence anchor months later := by
  rcases nthOccurrence_cases anchor months later with ⟨laterEq, _⟩ | ⟨isGreatest, _⟩
  · exact Date.lt_of_monthIndex_lt (nthOccurrence_lt_of_monthIndex recurs isLess laterEq)
  · rw [isGreatest]
    have isFollowed : earlier + 1 < occurrenceCount anchor finish months :=
      Nat.lt_of_le_of_lt isLess counted
    exact lt_of_le_of_ne (Date.le_greatest _) (nthOccurrence_ne_greatest isFollowed)

/-! ## The dates within a deposit -/

/-- The dates that are found are those on which the transaction happens. -/
theorem mem_occurrencesUpTo_iff (beforeEnd : finish < greatest) :
    date ∈ occurrencesUpTo anchor finish recurrence ↔
      OccursOn anchor recurrence date ∧ date ≤ finish := by
  rw [occurrencesUpTo, OccursOn]
  split
  · split
    · next inside =>
      rw [List.mem_singleton]
      exact (and_iff_left_of_imp fun isAnchor => isAnchor ▸ inside).symm
    · next outside =>
      simp only [List.not_mem_nil, false_iff]
      rintro ⟨rfl, inside⟩
      exact outside inside
  · next recurs =>
    have recursPos := Nat.pos_of_ne_zero recurs
    simp only [List.mem_map, List.mem_range, lt_occurrenceCount_iff beforeEnd recursPos]
    constructor
    · rintro ⟨number, notAfter, rfl⟩
      exact ⟨⟨number, nthOccurrence_of_le beforeEnd notAfter⟩, notAfter⟩
    · rintro ⟨⟨number, monthEq, dayEq⟩, notAfter⟩
      have found := nthOccurrence_eq monthEq dayEq
      exact ⟨number, found ▸ notAfter, found⟩

/-- The dates that are found increase. -/
theorem pairwise_occurrencesUpTo : (occurrencesUpTo anchor finish recurrence).Pairwise (· < ·) := by
  rw [occurrencesUpTo]
  split
  · split
    · exact List.pairwise_singleton _ _
    · exact List.Pairwise.nil
  · next recurs =>
    rw [List.pairwise_map]
    refine List.pairwise_lt_range.imp_of_mem ?_
    intro earlier later _ laterMember isLess
    exact nthOccurrence_lt_of_counted (Nat.pos_of_ne_zero recurs) isLess
      (List.mem_range.mp laterMember)

variable {α : Type} {transaction : Transaction α}

theorem mem_datesWithin (notLater : start ≤ finish) :
    date ∈ transaction.datesWithin start finish ↔
      OccursOn transaction.entry.date transaction.recurrence date ∧ start ≤ date ∧
        date ≤ finish := by
  simp only [Transaction.datesWithin, List.mem_filter, List.mem_cons, Date.mem_daysUpTo,
    decide_eq_true_eq]
  constructor
  · rintro ⟨rfl | ⟨isLater, inside⟩, occurs⟩
    · exact ⟨occurs, le_rfl, notLater⟩
    · exact ⟨occurs, le_of_lt isLater, inside⟩
  · rintro ⟨occurs, notEarlier, inside⟩
    rcases lt_or_eq_of_le notEarlier with isLater | isStart
    · exact ⟨Or.inr ⟨isLater, inside⟩, occurs⟩
    · exact ⟨Or.inl isStart.symm, occurs⟩

theorem pairwise_datesWithin (transaction : Transaction α) (start finish : Date) :
    (transaction.datesWithin start finish).Pairwise (· < ·) := by
  refine List.Pairwise.filter _ (List.pairwise_cons.mpr ⟨?_, Date.pairwise_daysUpTo start finish⟩)
  intro day member
  exact (Date.mem_daysUpTo.mp member).1

/-- The dates of a transaction within a deposit are the days of the deposit on which it happens. -/
theorem occurrences_eq_datesWithin (notLater : start ≤ finish) (beforeEnd : finish < greatest)
    (transaction : Transaction α) :
    occurrences start finish transaction.entry.date transaction.recurrence =
      transaction.datesWithin start finish := by
  refine (pairwise_occurrencesUpTo.filter _).eq_of_mem_iff
    (pairwise_datesWithin transaction start finish) ?_
  intro date
  rw [mem_datesWithin notLater, List.mem_filter, mem_occurrencesUpTo_iff beforeEnd,
    decide_eq_true_eq, and_assoc, and_comm (a := date ≤ finish)]

/-! ## All transactions -/

/-- The amount of a transaction on each of its dates within a deposit. -/
def Transaction.entriesWithin (transaction : Transaction α) (amount : α) (start finish : Date) :
    List (Entry α) :=
  (transaction.datesWithin start finish).map fun date => ⟨date, amount⟩

variable [Arithmetic α]

/-- In a deposit that ends before the last day of the calendar, the dates of a transaction are the
days of the deposit on which it happens, each once and in order. The dated amounts are those of all
transactions on these dates, funds before withdrawals and positive where withdrawals are negative,
in a stable order by date. -/
theorem expand_sorts_datesWithin (notLater : start ≤ finish) (beforeEnd : finish < greatest)
    (funds withdrawals : List (Transaction α)) :
    (∀ transaction : Transaction α,
      (transaction.datesWithin start finish).Pairwise (· < ·) ∧
        ∀ date, date ∈ transaction.datesWithin start finish ↔
          OccursOn transaction.entry.date transaction.recurrence date ∧ start ≤ date ∧
            date ≤ finish) ∧
      Date.IsStableSort Entry.date (expand start finish funds withdrawals)
        ((funds.flatMap fun fund =>
            fund.entriesWithin (Nat.cast 1 * fund.entry.amount) start finish) ++
          withdrawals.flatMap fun withdrawal =>
            withdrawal.entriesWithin (-Nat.cast 1 * withdrawal.entry.amount) start finish) := by
  refine ⟨fun transaction => ⟨pairwise_datesWithin transaction start finish,
    fun date => mem_datesWithin notLater⟩, ?_⟩
  have entriesEq (transaction : Transaction α) (amount : α) :
      entriesOf start finish transaction amount =
        transaction.entriesWithin amount start finish := by
    rw [entriesOf, Transaction.entriesWithin, occurrences_eq_datesWithin notLater beforeEnd]
  simp only [expand, entriesEq]
  exact Date.isStableSort_mergeSort Entry.date _

/-- The last day of a year. -/
def yearEnd : Date := (Date.ofTriple? 2023 12 31).get (by decide)

/-- A fund for the end of every month. -/
def monthEnds : Transaction Float := ⟨⟨yearEnd, 100.0⟩, .monthly⟩

/-- A fund that started before the deposit and a withdrawal on the same leap day, the only day of
the deposit on which anything happens. -/
theorem expand_sorts_datesWithin_on_leap_day :
    Date.leapDayEve ≤ Date.leapDay ∧ Date.leapDay < greatest ∧
      Date.leapDay ∈ monthEnds.datesWithin Date.leapDayEve Date.leapDay ∧
      Date.IsStableSort Entry.date
        (expand Date.leapDayEve Date.leapDay [monthEnds] [⟨⟨Date.leapDay, 50.0⟩, .once⟩])
        ([monthEnds].flatMap (fun fund =>
            fund.entriesWithin (Nat.cast 1 * fund.entry.amount) Date.leapDayEve Date.leapDay) ++
          [⟨⟨Date.leapDay, 50.0⟩, .once⟩].flatMap fun withdrawal : Transaction Float =>
            withdrawal.entriesWithin (-Nat.cast 1 * withdrawal.entry.amount) Date.leapDayEve
              Date.leapDay) := by
  have notLater : Date.leapDayEve ≤ Date.leapDay := by decide
  have beforeEnd : Date.leapDay < greatest := by decide
  have ⟨dates, sorted⟩ := expand_sorts_datesWithin notLater beforeEnd [monthEnds]
    [⟨⟨Date.leapDay, 50.0⟩, .once⟩]
  exact ⟨notLater, beforeEnd, ((dates monthEnds).2 Date.leapDay).mpr
    ⟨by decide, notLater, le_rfl⟩, sorted⟩

end Deposit

end Reckoner
