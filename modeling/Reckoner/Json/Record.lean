import Reckoner.Deposit.Simulation
import Reckoner.Expression.Evaluation
import Reckoner.Json.Writer
import Reckoner.Loan.Schedule

/-!
# Records as JSON documents

Conditions, schedules, outcomes and tabulations as documents with their fields in the order of their
definition.
-/

namespace Reckoner

namespace Json

/-- A float. -/
def ofFloat (value : Float) : Document Scalar := .scalar (.ofFloat value)

/-- A natural number. -/
def ofNat (value : Nat) : Document Scalar := .scalar (.ofNat value)

/-- A truth value. -/
def ofBool (value : Bool) : Document Scalar := .scalar (.flag value)

/-- A text. -/
def ofString (value : String) : Document Scalar := .scalar (.text value)

/-- A choice, by its name. -/
def ofChoice {α : Type} [Choice α] (value : α) : Document Scalar := ofString (Choice.name value)

/-- A date, by its written form. -/
def ofDate (date : Date) : Document Scalar := ofString (String.ofList date.text)

/-- Fields with texts as their names. -/
def ofFields (entries : List (String × Document Scalar)) : Document Scalar :=
  .fields (entries.map fun (name, value) => (ofString name, value))

/-- A list. -/
def ofList {α : Type} (encode : α → Document Scalar) (items : List α) : Document Scalar :=
  .list (items.map encode)

/-- The conditions of a loan. -/
def ofLoan (conditions : Loan.Conditions Float) : Document Scalar :=
  ofFields [
    ("sum", ofFloat conditions.sum),
    ("rate", ofFloat conditions.rate),
    ("term", ofNat conditions.term),
    ("term_unit", ofChoice conditions.termUnit),
    ("kind", ofChoice conditions.amortization)]

/-- A dated amount. -/
def ofEntry (entry : Deposit.Entry Float) : Document Scalar :=
  ofFields [("date", ofDate entry.date), ("amount", ofFloat entry.amount)]

/-- A transaction. -/
def ofTransaction (transaction : Deposit.Transaction Float) : Document Scalar :=
  ofFields [("payout", ofEntry transaction.entry), ("frequency", ofChoice transaction.recurrence)]

/-- The conditions of a deposit. -/
def ofDeposit (conditions : Deposit.Conditions Float) : Document Scalar :=
  ofFields [
    ("sum", ofFloat conditions.sum),
    ("rate", ofFloat conditions.rate),
    ("term", ofNat conditions.term),
    ("term_unit", ofChoice conditions.termUnit),
    ("capitalization", ofBool conditions.capitalization),
    ("payout_frequency", ofChoice conditions.payoutFrequency),
    ("tax_rate", ofFloat conditions.taxRate),
    ("key_rate", ofFloat conditions.keyRate),
    ("non_taxable_remainder", ofFloat conditions.nonTaxableRemainder),
    ("start_date", ofDate conditions.startDate),
    ("funds", ofList ofTransaction conditions.funds),
    ("withdrawals", ofList ofTransaction conditions.withdrawals)]

/-- One payment of a loan. -/
def ofInstalment (instalment : Loan.Instalment Float) : Document Scalar :=
  ofFields [
    ("number", ofNat instalment.number),
    ("payment", ofFloat instalment.payment),
    ("principal", ofFloat instalment.principal),
    ("interest", ofFloat instalment.interest),
    ("remaining", ofFloat instalment.remaining)]

/-- The schedule of a loan. -/
def ofSchedule (schedule : Loan.Schedule Float) : Document Scalar :=
  ofFields [
    ("total", ofFloat schedule.total),
    ("overpay", ofFloat schedule.overpay),
    ("payments", ofList ofFloat schedule.payments),
    ("periods", ofList ofInstalment schedule.instalments)]

/-- The outcome of a deposit. -/
def ofOutcome (outcome : Deposit.Outcome Float) : Document Scalar :=
  ofFields [
    ("payouts", ofList ofEntry outcome.payouts),
    ("pay_dates", ofList ofDate outcome.payoutDates),
    ("payments", ofList ofFloat outcome.payments),
    ("taxes", ofList ofFloat outcome.taxes),
    ("transactions", ofList ofEntry outcome.entries),
    ("start_date", ofDate outcome.startDate),
    ("finish_date", ofDate outcome.finishDate),
    ("effective_rate", ofFloat outcome.effectiveRate),
    ("interest_total", ofFloat outcome.interestTotal),
    ("tax_total", ofFloat outcome.taxTotal),
    ("total", ofFloat outcome.total)]

/-- A point of a tabulation. A point without value has the reason as a field of its own. -/
def ofPoint (point : Expression.Point) : Document Scalar :=
  ofFields (("x", ofFloat point.position) ::
    match point.value with
    | .ok value => [("y", ofFloat value)]
    | .error fault => [("y", .scalar .null), ("error", ofString fault.description)])

/-- A tabulation. -/
def ofTabulation (points : List Expression.Point) : Document Scalar := ofList ofPoint points

end Json

end Reckoner
