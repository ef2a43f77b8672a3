import Reckoner.Json.Reader
import Reckoner.Main
import Reckoner.Proofs.Deposit.Taxation
import Reckoner.Proofs.Expression.Evaluation
import Reckoner.Proofs.Expression.Offence
import Reckoner.Proofs.Expression.Substitution
import Reckoner.Proofs.Expression.Waiting
import Reckoner.Proofs.Deposit.Comparison
import Reckoner.Proofs.Deposit.Causality
import Reckoner.Proofs.Deposit.Acceptance
import Reckoner.Proofs.Deposit.Monotonicity
import Reckoner.Proofs.Deposit.Capitalization
import Reckoner.Proofs.Loan.Annuity
import Reckoner.Proofs.Expression.Modes
import Reckoner.Proofs.Expression.Rendering
import Reckoner.Proofs.Expression.Tabulation
import Reckoner.Proofs.Expression.Binding
import Reckoner.Proofs.Calendar.Moving
import Reckoner.Proofs.Deposit.Occurrences
import Reckoner.Proofs.Calendar.DateText
import Reckoner.Proofs.Json.Scalars
import Reckoner.Proofs.Json.Documents
import Reckoner.Proofs.Json.Written
import Reckoner.Proofs.Record.Fields
import Reckoner.Proofs.Record.Conditions
import Reckoner.Proofs.Record.Survival
import Reckoner.Proofs.Deposit.Allowance
import Reckoner.Proofs.Deposit.RegularDates
import Reckoner.Proofs.Calendar.MonthSpan
import Reckoner.Proofs.Deposit.FirstPeriod
import Reckoner.Proofs.Deposit.Recurring
import Reckoner.Proofs.Deposit.Overdrafts
import Reckoner.Proofs.Deposit.Principal
import Reckoner.Proofs.Deposit.EffectiveRate
import Reckoner.Proofs.Loan.EqualPayments
import Reckoner.Proofs.Calendar.MonthMoves
import Reckoner.Proofs.Loan.EqualPortions
import Reckoner.Proofs.Binary64.Accuracy
import Reckoner.Proofs.Binary64.Operations
import Reckoner.Proofs.Binary64.Values
import Reckoner.Proofs.Loan.Divisor
import Reckoner.Proofs.Log.WholeLines
import Reckoner.Proofs.Log.BoundedSize
import Reckoner.Proofs.Deposit.Searches
import Reckoner.Proofs.Digits
import Reckoner.Proofs.Display.Amounts
import Reckoner.Proofs.Display.Numbers
