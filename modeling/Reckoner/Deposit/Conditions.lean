import Reckoner.Arithmetic
import Reckoner.Violation

/-!
# Conditions of a deposit

What a deposit is simulated from, and when it is refused. Withdrawals that exceed the balance are no
reason to refuse the conditions; the simulation reports them.
-/

namespace Reckoner

namespace Deposit

/-- The longest term in a unit that is accepted. -/
def greatestTerm : TermUnit → Nat
  | .day => 18250
  | .month => 600
  | .year => 50

/-- An amount on a date. -/
structure Entry (α : Type) where
  date : Date
  amount : α

/-- A scheduled movement of money. Its amount is positive; whether it is paid in or taken out is
decided by the list that it belongs to. -/
structure Transaction (α : Type) where
  /-- The first occurrence. -/
  entry : Entry α
  recurrence : Recurrence := default

/-- The conditions of a deposit; all rates are yearly rates in percent. -/
structure Conditions (α : Type) where
  sum : α
  rate : α
  term : Nat
  termUnit : TermUnit
  /-- Whether interest paid out is added to the balance. -/
  capitalization : Bool
  payoutFrequency : PayoutFrequency
  taxRate : α
  /-- The rate that sets how much interest a year is free of tax. -/
  keyRate : α
  /-- What earlier periods have left of the interest that is free of tax. -/
  nonTaxableRemainder : α
  startDate : Date
  funds : List (Transaction α)
  withdrawals : List (Transaction α)

namespace Conditions

variable {α : Type} [Arithmetic α]

/-- The first transaction whose amount is not positive, funds before withdrawals. -/
def nonPositiveTransaction? (conditions : Conditions α) : Option (Transaction α) :=
  (conditions.funds ++ conditions.withdrawals).find? fun transaction =>
    Arithmetic.isNaN transaction.entry.amount ||
      Arithmetic.le transaction.entry.amount (Nat.cast 0)

/-- Whether a value is below zero or no number. -/
def isNegative (value : α) : Bool := Arithmetic.isNaN value || Arithmetic.lt value (Nat.cast 0)

/-- The first reason to refuse the conditions, if there is one. -/
def violation? (conditions : Conditions α) : Option (Violation α) :=
  if Arithmetic.isNaN conditions.sum || Arithmetic.le conditions.sum (Nat.cast 0) then
    some (.nonPositiveSum conditions.sum)
  else if isNegative conditions.rate then some (.negativeRate conditions.rate)
  else if conditions.term = 0 then some .nonPositiveTerm
  else if greatestTerm conditions.termUnit < conditions.term then
    some (.termTooLong conditions.term (greatestTerm conditions.termUnit) conditions.termUnit)
  else if !(Arithmetic.le (Nat.cast 0) conditions.taxRate &&
      Arithmetic.le conditions.taxRate (Nat.cast 100)) then
    some (.taxRateOutOfRange conditions.taxRate)
  else if isNegative conditions.keyRate then some (.negativeKeyRate conditions.keyRate)
  else if isNegative conditions.nonTaxableRemainder then
    some (.negativeRemainder conditions.nonTaxableRemainder)
  else
    match conditions.nonPositiveTransaction? with
    | some transaction =>
        some (.nonPositiveTransaction transaction.entry.date transaction.entry.amount)
    | none =>
        if conditions.payoutFrequency.fitsInto conditions.termUnit conditions.term then none
        else some (.incompatiblePayoutFrequency conditions.payoutFrequency conditions.termUnit)

end Conditions

end Deposit

end Reckoner
