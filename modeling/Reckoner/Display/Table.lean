import Reckoner.Deposit.Simulation
import Reckoner.Display.Number
import Reckoner.Expression.Evaluation
import Reckoner.Loan.Schedule

/-!
# Results as text

The tables in which tabulations, repayment schedules and outcomes of deposits are shown. Every line
ends with a line feed.
-/

namespace Reckoner

namespace Display

/-- Lines of text. -/
def lines (contents : List (List Char)) : List Char :=
  contents.flatMap fun content => content ++ ['\n']

/-- One line with columns that have two blanks between them. -/
def row (columns : List (List Char)) : List Char := [' ', ' '].intercalate columns

/-- The value of a point, or why it has none. -/
def pointValue : Except Expression.Fault Float → List Char
  | .ok value => number value
  | .error fault => "- (".toList ++ fault.description.toList ++ [')']

/-- A tabulation, one point a line. -/
def tabulation (points : List Expression.Point) : List Char :=
  lines (points.map fun point =>
    row [alignRight 14 (number point.position), pointValue point.value])

/-- One line of a repayment schedule. -/
def scheduleRow (columns : List (List Char)) : List Char :=
  row ((columns.zip [5, 14, 14, 14, 16]).map fun (text, width) => alignRight width text)

/-- The columns of one payment of a loan. -/
def instalmentColumns (instalment : Loan.Instalment Float) : List (List Char) :=
  [Digits.ofNat instalment.number, amount instalment.payment, amount instalment.principal,
    amount instalment.interest, amount instalment.remaining]

/-- The headings of a repayment schedule. -/
def scheduleHeadings : List (List Char) :=
  ["#", "payment", "principal", "interest", "remaining"].map String.toList

/-- A repayment schedule: the payments, and what they come to. -/
def schedule (schedule : Loan.Schedule Float) : List Char :=
  lines (
    scheduleRow scheduleHeadings ::
    schedule.instalments.map (fun instalment => scheduleRow (instalmentColumns instalment)) ++ [
      "total:   ".toList ++ amount schedule.total,
      "overpay: ".toList ++ amount schedule.overpay])

/-- A dated amount. -/
def entryRow (entry : Deposit.Entry Float) : List Char :=
  row [entry.date.text, alignRight 14 (amount entry.amount)]

/-- The outcome of a deposit: its payouts, its transactions if there are any, and what they come
to. -/
def outcome (outcome : Deposit.Outcome Float) : List Char :=
  let period := outcome.startDate.text ++ " .. ".toList ++ outcome.finishDate.text
  let transactions :=
    if outcome.entries.isEmpty then [] else "transactions:".toList :: outcome.entries.map entryRow
  lines (period :: outcome.payouts.map entryRow ++ transactions ++ [
    "interest:       ".toList ++ amount outcome.interestTotal,
    "tax:            ".toList ++ amount outcome.taxTotal,
    "effective rate: ".toList ++ rate outcome.effectiveRate,
    "total:          ".toList ++ amount outcome.total])

end Display

end Reckoner
