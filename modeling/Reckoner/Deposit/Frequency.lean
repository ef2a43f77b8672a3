import Reckoner.Term

/-!
# Frequencies

How often a deposit pays interest out, and how often a scheduled transaction recurs.
-/

namespace Reckoner

namespace Deposit

/-- The distance between two payouts. -/
inductive PayoutStep where
  | days (count : Nat)
  | months (count : Nat)
  deriving DecidableEq, Repr

/-- How often interest is paid out; every month if nothing else is said. -/
inductive PayoutFrequency where
  | daily
  | weekly
  | monthly
  | quarterly
  | semiAnnual
  | annual
  deriving DecidableEq, Repr

namespace PayoutFrequency

instance : Inhabited PayoutFrequency := ⟨monthly⟩

instance : Choice PayoutFrequency where
  all := [daily, weekly, monthly, quarterly, semiAnnual, annual]
  name
    | daily => "Daily"
    | weekly => "Weekly"
    | monthly => "Monthly"
    | quarterly => "Quarterly"
    | semiAnnual => "SemiAnnual"
    | annual => "Annual"
  code
    | daily => 0
    | weekly => 1
    | monthly => 2
    | quarterly => 3
    | semiAnnual => 6
    | annual => 12

/-- The frequency as messages name it. -/
def adjective : PayoutFrequency → String
  | daily => "daily"
  | weekly => "weekly"
  | monthly => "monthly"
  | quarterly => "quarterly"
  | semiAnnual => "semiannual"
  | annual => "annual"

/-- The distance between two payouts. -/
def step : PayoutFrequency → PayoutStep
  | daily => .days 1
  | weekly => .days 7
  | monthly => .months 1
  | quarterly => .months 3
  | semiAnnual => .months 6
  | annual => .months 12

/-- The estimated number of days between two payouts. -/
def approximateDays (frequency : PayoutFrequency) : Nat :=
  match frequency.step with
  | .days count => count
  | .months count => count * TermUnit.daysInAverageMonth

/-- Whether a payout period fits at least once into a term, by the estimated number of days. -/
def fitsInto (frequency : PayoutFrequency) (unit : TermUnit) (term : Nat) : Bool :=
  decide (frequency.approximateDays ≤ term * unit.approximateDays)

end PayoutFrequency

/-- How often a transaction recurs; it happens once if nothing else is said. -/
inductive Recurrence where
  | once
  | monthly
  | everyTwoMonths
  | quarterly
  | semiAnnual
  | annual
  deriving DecidableEq, Repr

namespace Recurrence

instance : Inhabited Recurrence := ⟨once⟩

/-- The number of months between two occurrences, zero for a transaction that happens once. -/
def months : Recurrence → Nat
  | once => 0
  | monthly => 1
  | everyTwoMonths => 2
  | quarterly => 3
  | semiAnnual => 6
  | annual => 12

instance : Choice Recurrence where
  all := [once, monthly, everyTwoMonths, quarterly, semiAnnual, annual]
  name
    | once => "Once"
    | monthly => "Monthly"
    | everyTwoMonths => "EveryTwoMonths"
    | quarterly => "Quarterly"
    | semiAnnual => "SemiAnnual"
    | annual => "Annual"
  code recurrence := recurrence.months

end Recurrence

end Deposit

end Reckoner
