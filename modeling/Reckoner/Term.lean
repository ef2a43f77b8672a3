import Reckoner.Choice

/-!
# Units of a term

Terms are counted in days, months or years. Where a term is only estimated, a month has 30 days and
a year 365 days.
-/

namespace Reckoner

/-- The unit that a term is counted in; months if nothing else is said. -/
inductive TermUnit where
  | day
  | month
  | year
  deriving DecidableEq, Repr

namespace TermUnit

instance : Inhabited TermUnit := ⟨month⟩

instance : Choice TermUnit where
  all := [day, month, year]
  name
    | day => "Day"
    | month => "Month"
    | year => "Year"
  code
    | day => 0
    | month => 1
    | year => 2

/-- The unit as messages name it. -/
def plural : TermUnit → String
  | day => "days"
  | month => "months"
  | year => "years"

/-- The days of an average month. -/
def daysInAverageMonth : Nat := 30

/-- The days of an average year, over which an annual rate is spread. -/
def daysInAverageYear : Nat := 365

/-- The estimated number of days of a unit. -/
def approximateDays : TermUnit → Nat
  | day => 1
  | month => daysInAverageMonth
  | year => daysInAverageYear

end TermUnit

end Reckoner
