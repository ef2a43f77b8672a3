import Reckoner.Proofs.Deposit.Occurrences

/-!
# The searches of a timetable end

The dates of a timetable are found by going from number to number until a date says that the search
is over. Such a search has no bound of its own. It ends because the numbers lead to the end of the
calendar: a day more gives a greater day number, also where day numbers do not count days, and a
month more gives a greater month index, so payouts reach the last day of the calendar, and
occurrences reach it and then repeat it. A search so found to end has the dates of the timetable,
which bounds its searches by the size of the calendar.
-/

namespace Reckoner

namespace Deposit

open Date (greatest least)

/-! ## Rounds -/

/-- What one round of a search leads to. -/
inductive Round (State Result : Type) where
  /-- The search goes on with a new state. -/
  | next (state : State)
  /-- The search is over. -/
  | done (result : Result)

variable {State Result : Type}

/-- Whether a search ends with a result after a number of rounds, the last of which it starts in the
second state if the first one starts in the first state. -/
inductive EndsAfter (round : State → Round State Result) : Nat → State → State → Result → Prop
  | last {state : State} {result : Result} (isDone : round state = .done result) :
      EndsAfter round 1 state state result
  | next {rounds : Nat} {state following lastState : State} {result : Result}
      (goesOn : round state = .next following)
      (ends : EndsAfter round rounds following lastState result) :
      EndsAfter round (rounds + 1) state lastState result

/-- A search that is led from state to state ends where it is first done. -/
theorem endsAfter_of_passes {round : State → Round State Result} (state : Nat → State)
    {result : Result} {passed : Nat}
    (passes : ∀ earlier < passed, round (state earlier) = .next (state (earlier + 1)))
    (isDone : round (state passed) = .done result) :
    EndsAfter round (passed + 1) (state 0) (state passed) result := by
  induction passed generalizing state with
  | zero => exact .last isDone
  | succ passed ih =>
      refine .next (passes 0 (Nat.succ_pos passed))
        (ih (fun earlier => state (earlier + 1)) ?_ isDone)
      intro earlier isLess
      exact passes (earlier + 1) (Nat.succ_lt_succ isLess)

/-! ## Payouts -/

/-- A search for payouts: the number of the next one and the dates found before. -/
structure PayoutSearch where
  number : Nat
  dates : List Date

/-- A round looks at one payout. If it is not before the end of the deposit, that end is the last
payout; otherwise the next one is looked at. -/
def PayoutSearch.round (start finish : Date) (step : PayoutStep) (search : PayoutSearch) :
    Round PayoutSearch (List Date) :=
  let date := nthPayout start step search.number
  if finish ≤ date then .done (search.dates ++ [finish])
  else .next ⟨search.number + 1, search.dates ++ [date]⟩

variable {start finish : Date} {step : PayoutStep} {number passed : Nat}

/-- The search after it has passed a number of payouts. -/
def PayoutSearch.after (start : Date) (step : PayoutStep) (passed : Nat) : PayoutSearch :=
  ⟨passed + 1, (List.range' 1 passed).map (nthPayout start step)⟩

theorem PayoutSearch.round_after_of_lt (isBefore : nthPayout start step (passed + 1) < finish) :
    PayoutSearch.round start finish step (after start step passed) =
      .next (after start step (passed + 1)) := by
  rw [PayoutSearch.round, after, if_neg (not_le.mpr isBefore), after, List.range'_1_concat,
    List.map_append, Nat.add_comm 1 passed]
  rfl

theorem PayoutSearch.round_after_of_le (reaches : finish ≤ nthPayout start step (passed + 1)) :
    PayoutSearch.round start finish step (after start step passed) =
      .done ((List.range' 1 passed).map (nthPayout start step) ++ [finish]) := if_pos reaches

theorem lastPayoutNumber_mem (start finish : Date) (frequency : PayoutFrequency) :
    1 ≤ lastPayoutNumber start finish frequency.step ∧
      lastPayoutNumber start finish frequency.step ≤ greatestPayoutCount := by
  have isPos : 1 ≤ greatestPayoutCount := by decide
  have reached := finish_le_nthPayout_greatestCount start finish frequency.count_step_pos
  exact ⟨le_leastFrom? _ le_rfl isPos,
    leastFrom?_le (Nat.le_add_left _ _) isPos (decide_eq_true reached)⟩

theorem payoutSearch_ends (start finish : Date) (frequency : PayoutFrequency) :
    ∃ rounds last,
      EndsAfter (PayoutSearch.round start finish frequency.step) rounds ⟨1, []⟩ last
          (payoutDates start finish frequency) ∧
        rounds ≤ greatestPayoutCount ∧ last.number ≤ rounds := by
  have ⟨isPos, isLe⟩ := lastPayoutNumber_mem start finish frequency
  have reaches := finish_le_nthPayout_last start finish frequency.count_step_pos
  rcases Nat.exists_eq_add_of_le' isPos with ⟨passed, lastEq⟩
  rw [payoutDates, lastEq, Nat.add_sub_cancel]
  rw [lastEq] at isLe reaches
  refine ⟨passed + 1, PayoutSearch.after start frequency.step passed,
    endsAfter_of_passes (PayoutSearch.after start frequency.step) ?_
      (PayoutSearch.round_after_of_le reaches), isLe, le_rfl⟩
  intro earlier isLess
  refine PayoutSearch.round_after_of_lt (nthPayout_lt_finish (Nat.le_add_left 1 earlier) ?_)
  rw [lastEq]
  exact Nat.succ_lt_succ isLess

/-! ## Occurrences -/

variable {α : Type} {transaction : Transaction α} {amount : α}

/-- A search for the occurrences of a transaction: the number of the next one, the date of the one
before, if there is one, and the dated amounts found before. -/
structure OccurrenceSearch (α : Type) where
  number : Nat
  previous : Option Date
  entries : List (Entry α)

/-- A round looks at one occurrence. The search is over if it is after the end of the deposit or
repeats the one before. Otherwise it counts unless it is before the start, and the next one is
looked at. -/
def OccurrenceSearch.round (start finish : Date) (transaction : Transaction α) (amount : α)
    (search : OccurrenceSearch α) : Round (OccurrenceSearch α) (List (Entry α)) :=
  let date := nthOccurrence transaction.entry.date transaction.recurrence.months search.number
  if finish < date ∨ search.previous = some date then .done search.entries
  else
    .next ⟨search.number + 1, some date,
      if start ≤ date then search.entries ++ [⟨date, amount⟩] else search.entries⟩

/-- The date of the occurrence before that of a number, if there is one. -/
def previousOccurrence (anchor : Date) (months : Nat) : Nat → Option Date
  | 0 => none
  | number + 1 => some (nthOccurrence anchor months number)

theorem endsBefore_iff {anchor : Date} {months : Nat} :
    endsBefore anchor finish months number = true ↔
      finish < nthOccurrence anchor months number ∨
        previousOccurrence anchor months number = some (nthOccurrence anchor months number) := by
  cases number with
  | zero => simp [endsBefore, previousOccurrence]
  | succ number => simp [endsBefore, previousOccurrence]

/-- The dated amounts of the occurrences with the given numbers that are not before the start. -/
def entriesOfNumbers (start : Date) (transaction : Transaction α) (amount : α)
    (numbers : List Nat) :
    List (Entry α) :=
  ((numbers.map (nthOccurrence transaction.entry.date transaction.recurrence.months)).filter
    fun date => decide (start ≤ date)).map fun date => ⟨date, amount⟩

theorem append_entriesOfNumbers_range_succ (entries : List (Entry α)) (number : Nat) :
    entries ++ entriesOfNumbers start transaction amount (List.range (number + 1)) =
      let date := nthOccurrence transaction.entry.date transaction.recurrence.months number
      let earlier := entries ++ entriesOfNumbers start transaction amount (List.range number)
      if start ≤ date then earlier ++ [⟨date, amount⟩] else earlier := by
  simp only [entriesOfNumbers, List.range_succ, List.map_append, List.filter_append, List.map_cons,
    List.map_nil, List.filter_cons, List.filter_nil, decide_eq_true_eq]
  split
  · rw [List.map_cons, List.map_nil, List.append_assoc]
  · rw [List.map_nil, List.append_nil]

theorem entriesOf_eq (recurs : transaction.recurrence ≠ .once) :
    entriesOf start finish transaction amount =
      entriesOfNumbers start transaction amount
        (List.range
          (occurrenceCount transaction.entry.date finish transaction.recurrence.months)) := by
  have monthsPos := Recurrence.months_pos recurs
  rw [entriesOf, occurrences, occurrencesUpTo, if_neg (Nat.ne_of_gt monthsPos)]
  rfl

/-- The search after it has passed a number of occurrences. -/
def OccurrenceSearch.after (start : Date) (transaction : Transaction α) (amount : α)
    (entries : List (Entry α)) (passed : Nat) : OccurrenceSearch α :=
  ⟨passed, previousOccurrence transaction.entry.date transaction.recurrence.months passed,
    entries ++ entriesOfNumbers start transaction amount (List.range passed)⟩

theorem OccurrenceSearch.after_zero (entries : List (Entry α)) :
    after start transaction amount entries 0 = ⟨0, none, entries⟩ := by
  rw [after, List.range_zero, entriesOfNumbers, List.map_nil, List.filter_nil, List.map_nil,
    List.append_nil, previousOccurrence]

theorem OccurrenceSearch.round_after_of_goesOn (entries : List (Entry α))
    (goesOn :
      endsBefore transaction.entry.date finish transaction.recurrence.months passed = false) :
    OccurrenceSearch.round start finish transaction amount
        (after start transaction amount entries passed) =
      .next (after start transaction amount entries (passed + 1)) := by
  have notDone := mt endsBefore_iff.mpr (Bool.eq_false_iff.mp goesOn)
  rw [after, after, append_entriesOfNumbers_range_succ]
  exact if_neg notDone

theorem OccurrenceSearch.round_after_of_ends (entries : List (Entry α))
    (ends : endsBefore transaction.entry.date finish transaction.recurrence.months passed = true) :
    OccurrenceSearch.round start finish transaction amount
        (after start transaction amount entries passed) =
      .done (entries ++ entriesOfNumbers start transaction amount (List.range passed)) :=
  if_pos (endsBefore_iff.mp ends)

theorem occurrenceCount_lt (anchor finish : Date) {months : Nat} (recurs : 0 < months) :
    occurrenceCount anchor finish months < greatestOccurrenceCount := by
  have countEq : greatestOccurrenceCount = 239990 := by decide
  have ends : endsBefore anchor finish months 239989 = true :=
    endsBefore_of_le anchor finish recurs (by omega)
  have isLe : occurrenceCount anchor finish months ≤ 239989 :=
    leastFrom?_le (Nat.le_add_left _ _) (Nat.zero_le _) ends
  omega

theorem occurrenceSearch_ends (start finish : Date) (recurs : transaction.recurrence ≠ .once)
    (amount : α) (entries : List (Entry α)) :
    ∃ rounds last,
      EndsAfter (OccurrenceSearch.round start finish transaction amount) rounds
        ⟨0, none, entries⟩ last
          (entries ++ entriesOf start finish transaction amount) ∧
        rounds ≤ greatestOccurrenceCount ∧ last.number ≤ rounds := by
  have monthsPos := Recurrence.months_pos recurs
  have isLess := occurrenceCount_lt transaction.entry.date finish monthsPos
  have ends : endsBefore transaction.entry.date finish transaction.recurrence.months
      (occurrenceCount transaction.entry.date finish transaction.recurrence.months) = true :=
    leastFrom?_passes _ (endsBefore_greatestOccurrenceCount monthsPos)
  rw [entriesOf_eq recurs]
  have passes : ∀ earlier <
      occurrenceCount transaction.entry.date finish transaction.recurrence.months,
      OccurrenceSearch.round start finish transaction amount
          (OccurrenceSearch.after start transaction amount entries earlier) =
        .next (OccurrenceSearch.after start transaction amount entries (earlier + 1)) := by
    intro earlier isCounted
    exact OccurrenceSearch.round_after_of_goesOn entries
      (leastFrom?_fails (Nat.le_add_left _ _) (Nat.zero_le earlier) isCounted)
  have endsAfter := endsAfter_of_passes _ passes (OccurrenceSearch.round_after_of_ends entries ends)
  rw [OccurrenceSearch.after_zero] at endsAfter
  exact ⟨_, _, endsAfter, isLess, Nat.le_succ _⟩

/-! ## Both searches -/

/-- For any start and end, in whatever order, and any frequency, the search for payouts ends with
the payout dates of the timetable, after no more rounds than the calendar has day numbers. The
search for the occurrences of a recurring transaction ends with its dated amounts, after at most two
rounds more than the calendar has months; a transaction that happens once needs no search. The
numbers that the searches go through stay below the greatest 32-bit number. -/
theorem searches_end (start finish : Date) (frequency : PayoutFrequency)
    (transaction : Transaction α) (recurs : transaction.recurrence ≠ .once) (amount : α)
    (entries : List (Entry α)) :
    (∃ rounds last,
      EndsAfter (PayoutSearch.round start finish frequency.step) rounds ⟨1, []⟩ last
          (payoutDates start finish frequency) ∧
        rounds ≤ greatest.dayNumber - least.dayNumber + 1 ∧ last.number < Offset.greatest) ∧
      ∃ rounds last,
        EndsAfter (OccurrenceSearch.round start finish transaction amount) rounds
            ⟨0, none, entries⟩ last (entries ++ entriesOf start finish transaction amount) ∧
          rounds ≤ 12 * 19999 + 2 ∧ last.number < Offset.greatest := by
  have dayNumbers : greatest.dayNumber - least.dayNumber + 1 = greatestPayoutCount := by decide
  have manyPayouts : greatestPayoutCount < Offset.greatest := by decide
  have manyOccurrences : greatestOccurrenceCount < Offset.greatest := by decide
  constructor
  · rcases payoutSearch_ends start finish frequency with ⟨rounds, last, ends, isLe, numberLe⟩
    exact ⟨rounds, last, ends, by omega, by omega⟩
  · rcases occurrenceSearch_ends start finish recurs amount entries with
      ⟨rounds, last, ends, isLe, numberLe⟩
    exact ⟨rounds, last, ends, isLe, by omega⟩

/-- A monthly fund from the first day of the calendar on. -/
def fromTheStart : Transaction Float := ⟨⟨least, 100.0⟩, .monthly⟩

/-- Daily payouts and a monthly fund over the whole calendar, of which the first half has days that
day numbers do not count. -/
theorem searches_end_over_whole_calendar :
    fromTheStart.recurrence ≠ .once ∧
      (∃ rounds last,
        EndsAfter (PayoutSearch.round least greatest PayoutFrequency.daily.step) rounds ⟨1, []⟩ last
            (payoutDates least greatest .daily) ∧
          rounds ≤ greatest.dayNumber - least.dayNumber + 1 ∧ last.number < Offset.greatest) ∧
      ∃ rounds last,
        EndsAfter (OccurrenceSearch.round least greatest fromTheStart 100.0) rounds
          ⟨0, none, []⟩ last
            (entriesOf least greatest fromTheStart 100.0) ∧
          rounds ≤ 12 * 19999 + 2 ∧ last.number < Offset.greatest := by
  have recurs : fromTheStart.recurrence ≠ .once := by decide
  have ends := searches_end least greatest .daily fromTheStart recurs 100.0 []
  rw [List.nil_append] at ends
  exact ⟨recurs, ends⟩

end Deposit

end Reckoner
