import Reckoner.Arithmetic
import Reckoner.Violation

/-!
# Conditions of a loan

What a repayment schedule is computed from, and when it is refused.
-/

namespace Reckoner

namespace Loan

/-- The unit that the term of a loan is counted in; months if nothing else is said. -/
inductive TermUnit where
  | month
  | year
  deriving DecidableEq, Repr

namespace TermUnit

instance : Inhabited TermUnit := ⟨month⟩

instance : Choice TermUnit where
  all := [month, year]
  name
    | month => "Month"
    | year => "Year"
  code
    | month => 0
    | year => 1

/-- The unit among those of all terms. -/
def toTermUnit : TermUnit → Reckoner.TermUnit
  | month => .month
  | year => .year

/-- The longest term that is accepted. -/
def greatestTerm : TermUnit → Nat
  | month => 600
  | year => 50

end TermUnit

/-- How a loan is repaid; by equal payments if nothing else is said. -/
inductive Amortization where
  /-- Equal payments. -/
  | annuity
  /-- Equal portions of the principal, with interest on what is still owed. -/
  | differentiated
  deriving DecidableEq, Repr

namespace Amortization

instance : Inhabited Amortization := ⟨annuity⟩

instance : Choice Amortization where
  all := [annuity, differentiated]
  name
    | annuity => "Annuity"
    | differentiated => "Differentiated"
  code
    | annuity => 0
    | differentiated => 1

end Amortization

/-- The conditions of a loan; the rate is a yearly rate in percent. -/
structure Conditions (α : Type) where
  sum : α
  rate : α
  term : Nat
  termUnit : TermUnit := default
  amortization : Amortization := default

namespace Conditions

variable {α : Type} [Arithmetic α]

/-- The number of months of a year. -/
def monthsInYear : Nat := 12

/-- The greatest number of months that is counted; longer terms count as this many. -/
def greatestMonths : Nat := Nat.pow 2 32 - 1

/-- The number of monthly payments. -/
def months (conditions : Conditions α) : Nat :=
  match conditions.termUnit with
  | .month => conditions.term
  | .year => min (conditions.term * monthsInYear) greatestMonths

/-- The monthly rate as a fraction. -/
def monthlyRate (conditions : Conditions α) : α :=
  conditions.rate / (Nat.cast monthsInYear * Nat.cast 100)

/-- The first reason to refuse the conditions, if there is one. -/
def violation? (conditions : Conditions α) : Option (Violation α) :=
  if Arithmetic.isNaN conditions.sum || Arithmetic.le conditions.sum (Nat.cast 0) then
    some (.nonPositiveSum conditions.sum)
  else if Arithmetic.isNaN conditions.rate || Arithmetic.lt conditions.rate (Nat.cast 0) then
    some (.negativeRate conditions.rate)
  else if conditions.term = 0 then some .nonPositiveTerm
  else if conditions.termUnit.greatestTerm < conditions.term then
    some (.termTooLong conditions.term conditions.termUnit.greatestTerm
      conditions.termUnit.toTermUnit)
  else none

end Conditions

end Loan

end Reckoner
