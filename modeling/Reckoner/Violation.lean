import Reckoner.Calendar.Date
import Reckoner.Decimal.Shortest
import Reckoner.Deposit.Frequency

/-!
# Violations of conditions

The reasons why the conditions of a loan or a deposit are refused, with the values that offend and
the message that reports them.
-/

namespace Reckoner

/-- Why conditions are refused. -/
inductive Violation (α : Type) where
  | nonPositiveSum (sum : α)
  | negativeRate (rate : α)
  | nonPositiveTerm
  | termTooLong (term greatest : Nat) (unit : TermUnit)
  | taxRateOutOfRange (rate : α)
  | negativeKeyRate (rate : α)
  | negativeRemainder (remainder : α)
  | nonPositiveTransaction (date : Date) (amount : α)
  | incompatiblePayoutFrequency (frequency : Deposit.PayoutFrequency) (unit : TermUnit)

namespace Violation

variable {α : Type}

/-- The short name of the reason. -/
def kind : Violation α → String
  | nonPositiveSum _ => "NonPositiveSum"
  | negativeRate _ => "NegativeRate"
  | nonPositiveTerm => "NonPositiveTerm"
  | termTooLong _ _ _ => "TermTooLong"
  | taxRateOutOfRange _ => "TaxRateOutOfRange"
  | negativeKeyRate _ => "NegativeKeyRate"
  | negativeRemainder _ => "NegativeRemainder"
  | nonPositiveTransaction _ _ => "NonPositiveTransaction"
  | incompatiblePayoutFrequency _ _ => "IncompatiblePayoutFrequency"

/-- A float as messages show it: the shortest decimal that reads back, never with an exponent. -/
def shown (value : Float) : String := String.ofList (Decimal.plainText value)

/-- The message that reports a violation. -/
def message : Violation Float → String
  | nonPositiveSum sum => "sum must be positive (got " ++ shown sum ++ ")"
  | negativeRate rate => "interest rate must not be negative (got " ++ shown rate ++ ")"
  | nonPositiveTerm => "term must be positive"
  | termTooLong term greatest unit =>
      "term of " ++ toString term ++ " " ++ unit.plural ++ " exceeds the maximum of " ++
        toString greatest ++ " " ++ unit.plural
  | taxRateOutOfRange rate => "tax rate must be within 0..=100 (got " ++ shown rate ++ ")"
  | negativeKeyRate rate => "key rate must not be negative (got " ++ shown rate ++ ")"
  | negativeRemainder remainder =>
      "non-taxable remainder must not be negative (got " ++ shown remainder ++ ")"
  | nonPositiveTransaction date amount =>
      "transaction on " ++ String.ofList date.text ++ " must have a positive amount (got " ++
        shown amount ++ ")"
  | incompatiblePayoutFrequency frequency unit =>
      frequency.adjective ++ " payouts do not fit into a term measured in " ++ unit.plural

end Violation

end Reckoner
