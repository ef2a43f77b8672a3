import Reckoner.Calendar.Month
import Reckoner.Deposit.Conditions

/-!
# The timetable of a deposit

The date on which a deposit ends, the dates on which it pays interest out, and the dated amounts
that its scheduled transactions amount to.

Regular dates are always measured from their first date, so a month that is too short for the day
does not move the later dates. Both searches for the end of a regular sequence are bounded by the
size of the calendar.
-/

namespace Reckoner

namespace Deposit

/-- The last day of a deposit. -/
def finishDate (start : Date) (term : Nat) (unit : TermUnit) : Date :=
  let count := Offset.clamp term
  match unit with
  | .day => start.addDays count
  | .month => start.addMonths count
  | .year => start.addYears count

/-- The date of a payout by its number, ignoring the end of the deposit. -/
def nthPayout (start : Date) (step : PayoutStep) (number : Nat) : Date :=
  match step with
  | .days count => start.addDays (Offset.clamp (count * number))
  | .months count => start.addMonths (Offset.clamp (count * number))

/-- The least number from `first` on that passes the test, among the next `fuel` numbers. -/
def leastFrom? (test : Nat → Bool) : (fuel first : Nat) → Option Nat
  | 0, _ => none
  | fuel + 1, first => if test first then some first else leastFrom? test fuel (first + 1)

/-- The number of days of the calendar, which bounds the number of payouts. -/
def greatestPayoutCount : Nat :=
  (Date.greatest.dayNumber - Date.least.dayNumber + 1).toNat

/-- The number of the first payout that would not be before the end of the deposit. -/
def lastPayoutNumber (start finish : Date) (step : PayoutStep) : Nat :=
  let isLast (number : Nat) := decide (finish ≤ nthPayout start step number)
  (leastFrom? isLast greatestPayoutCount 1).getD greatestPayoutCount

/-- The payout dates of a deposit; the last of them is the end of the deposit, also if the period
that it closes is cut short. -/
def payoutDates (start finish : Date) (frequency : PayoutFrequency) : List Date :=
  let last := lastPayoutNumber start finish frequency.step
  (List.range' 1 (last - 1)).map (nthPayout start frequency.step) ++ [finish]

/-- The date of an occurrence of a recurring transaction by its number, counted from 0. -/
def nthOccurrence (anchor : Date) (months number : Nat) : Date :=
  anchor.addMonths (Offset.clamp (months * number))

/-- Whether a recurring transaction has ended before an occurrence: that occurrence lies after the
end of the deposit, or it repeats the one before because the calendar has ended. -/
def endsBefore (anchor finish : Date) (months number : Nat) : Bool :=
  decide (finish < nthOccurrence anchor months number) ||
    (decide (0 < number) &&
      decide (nthOccurrence anchor months (number - 1) = nthOccurrence anchor months number))

/-- The number of months of the calendar and some to spare, which bounds the number of
occurrences. -/
def greatestOccurrenceCount : Nat := 12 * 19999 + 2

/-- The number of occurrences of a recurring transaction up to the end of a deposit. -/
def occurrenceCount (anchor finish : Date) (months : Nat) : Nat :=
  (leastFrom? (endsBefore anchor finish months) greatestOccurrenceCount 0).getD
    greatestOccurrenceCount

/-- The dates of a transaction that are not after the end of a deposit. -/
def occurrencesUpTo (anchor finish : Date) (recurrence : Recurrence) : List Date :=
  if recurrence.months = 0 then if anchor ≤ finish then [anchor] else []
  else
    (List.range (occurrenceCount anchor finish recurrence.months)).map
      (nthOccurrence anchor recurrence.months)

/-- The dates of a transaction within a deposit, both ends included. -/
def occurrences (start finish : Date) (anchor : Date) (recurrence : Recurrence) : List Date :=
  (occurrencesUpTo anchor finish recurrence).filter fun date => decide (start ≤ date)

/-- The dated amounts of a transaction within a deposit, for an amount that carries its sign. -/
def entriesOf {α : Type} (start finish : Date) (transaction : Transaction α) (amount : α) :
    List (Entry α) :=
  (occurrences start finish transaction.entry.date transaction.recurrence).map fun date =>
    ⟨date, amount⟩

/-- The dated amounts of all transactions in chronological order. Funds are positive and withdrawals
negative; on the same date funds come first, and each list keeps its order. -/
def expand {α : Type} [Arithmetic α] (start finish : Date)
    (funds withdrawals : List (Transaction α)) : List (Entry α) :=
  let one : α := Nat.cast 1
  let paidIn := funds.flatMap fun transaction =>
    entriesOf start finish transaction (one * transaction.entry.amount)
  let takenOut := withdrawals.flatMap fun transaction =>
    entriesOf start finish transaction (-one * transaction.entry.amount)
  (paidIn ++ takenOut).mergeSort fun earlier later => decide (earlier.date ≤ later.date)

end Deposit

end Reckoner
