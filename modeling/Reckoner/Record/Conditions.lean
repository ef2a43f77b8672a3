import Reckoner.Calendar.DateText
import Reckoner.Deposit.Conditions
import Reckoner.Loan.Conditions
import Reckoner.Record.Reading

/-!
# Conditions as records

The names of the fields of conditions, which of them must be written, and what the others are if
they are left out. The first day of a deposit must be written although it follows fields that may be
left out.
-/

namespace Reckoner

namespace Record

variable {Scalar : Type}

/-- A date, written as a text. -/
def date (dialect : Dialect Scalar) : Part Scalar Date :=
  scalar fun value => (dialect.text? value).bind fun text => Date.ofText? text.toList

/-- The fields of the conditions of a loan. -/
def loanNames : List String := ["sum", "rate", "term", "term_unit", "kind"]

/-- The conditions of a loan. -/
def loan (dialect : Dialect Scalar) : Part Scalar (Loan.Conditions Float) := fun document => do
  let slots ← slots? dialect loanNames document
  return {
    sum := ← required slots "sum" (real dialect)
    rate := ← required slots "rate" (real dialect)
    term := ← required slots "term" (natural dialect)
    termUnit := ← optional slots "term_unit" (choice dialect) default
    amortization := ← optional slots "kind" (choice dialect) default }

/-- The fields of a dated amount. -/
def entryNames : List String := ["date", "amount"]

/-- A dated amount. -/
def entry (dialect : Dialect Scalar) : Part Scalar (Deposit.Entry Float) := fun document => do
  let slots ← slots? dialect entryNames document
  return {
    date := ← required slots "date" (date dialect)
    amount := ← required slots "amount" (real dialect) }

/-- The fields of a transaction. -/
def transactionNames : List String := ["payout", "frequency"]

/-- A transaction. -/
def transaction (dialect : Dialect Scalar) : Part Scalar (Deposit.Transaction Float) :=
  fun document => do
    let slots ← slots? dialect transactionNames document
    return {
      entry := ← required slots "payout" (entry dialect)
      recurrence := ← optional slots "frequency" (choice dialect) default }

/-- The fields of the conditions of a deposit. -/
def depositNames : List String :=
  ["sum", "rate", "term", "term_unit", "capitalization", "payout_frequency", "tax_rate", "key_rate",
    "non_taxable_remainder", "start_date", "funds", "withdrawals"]

/-- The conditions of a deposit. -/
def deposit (dialect : Dialect Scalar) : Part Scalar (Deposit.Conditions Float) :=
  fun document => do
  let slots ← slots? dialect depositNames document
  return {
    sum := ← required slots "sum" (real dialect)
    rate := ← required slots "rate" (real dialect)
    term := ← required slots "term" (natural dialect)
    termUnit := ← optional slots "term_unit" (choice dialect) default
    capitalization := ← optional slots "capitalization" (flag dialect) false
    payoutFrequency := ← optional slots "payout_frequency" (choice dialect) default
    taxRate := ← optional slots "tax_rate" (real dialect) 0
    keyRate := ← optional slots "key_rate" (real dialect) 0
    nonTaxableRemainder := ← optional slots "non_taxable_remainder" (real dialect) 0
    startDate := ← required slots "start_date" (date dialect)
    funds := ← optional slots "funds" (listOf dialect (transaction dialect)) []
    withdrawals := ← optional slots "withdrawals" (listOf dialect (transaction dialect)) [] }

end Record

end Reckoner
