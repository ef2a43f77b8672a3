import Reckoner.CommandLine.Command
import Reckoner.ConditionsFile
import Reckoner.Display.Table
import Reckoner.Json.Record
import Reckoner.Log.Event

/-!
# Reports of commands

What a command comes to: the text that it prints or the reason why it has none, and the log events
on the way. Files are read by a function that is handed in, so a report depends on nothing else.
-/

namespace Reckoner

namespace CommandLine

/-- Why a command prints nothing. -/
inductive Failure where
  | expression (fault : Expression.Fault)
  | conditions (fault : ConditionsFile.Fault)

/-- The message that reports a failure. -/
def Failure.message : Failure → String
  | expression fault => "error " ++ toString fault.code ++ ": " ++ fault.description
  | conditions fault => fault.message

/-- What a command comes to. -/
structure Report where
  events : List Log.Event
  result : Except Failure (List Char)

/-- How results are written. -/
inductive Format where
  | text
  | json
  deriving DecidableEq, Repr

namespace Report

/-- An event that is of interest when calculations are debugged. -/
def debugEvent (source : Log.Source) (message : String) : Log.Event := ⟨source, .debug, message⟩

/-- An event of a command that is of interest in every run. -/
def infoEvent (message : String) : Log.Event := ⟨.commands, .info, message⟩

/-- The event of an overdrawn account. -/
def overdraftEvent (overdraft : Deposit.Overdraft Float) : Log.Event where
  source := .deposits
  level := .warn
  message :=
    "Withdrawal exceeds the available balance date=" ++ String.ofList overdraft.entry.date.text

/-- The value of an expression as it is printed. -/
def writtenValue (format : Format) (value : Float) : List Char :=
  match format with
  | .text => Display.number value
  | .json => Json.compact (Json.ofFields [("result", Json.ofFloat value)])

/-- A tabulation as it is printed. -/
def writtenTabulation (format : Format) (points : List Expression.Point) : List Char :=
  match format with
  | .text => Display.tabulation points
  | .json => Json.indented (Json.ofTabulation points)

/-- A repayment schedule as it is printed. -/
def writtenSchedule (format : Format) (schedule : Loan.Schedule Float) : List Char :=
  match format with
  | .text => Display.schedule schedule
  | .json => Json.indented (Json.ofSchedule schedule)

/-- The outcome of a deposit as it is printed. -/
def writtenOutcome (format : Format) (outcome : Deposit.Outcome Float) : List Char :=
  match format with
  | .text => Display.outcome outcome
  | .json => Json.indented (Json.ofOutcome outcome)

/-- The report of an expression. -/
def ofEvaluation (format : Format) (text : String) : Report :=
  let begun := debugEvent .expressions "Evaluating expression"
  match Expression.evaluateText text.toList with
  | .ok value => ⟨[begun], .ok (writtenValue format value)⟩
  | .error fault =>
      ⟨[begun, debugEvent .expressions "Expression rejected"], .error (.expression fault)⟩

/-- The report of an expression with a value for its unknown. -/
def ofEquation (format : Format) (text : String) (unknown : Float) : Report where
  events := [debugEvent .expressions "Evaluating equation"]
  result :=
    match Expression.evaluateEquation text.toList unknown with
    | .ok value => .ok (writtenValue format value)
    | .error fault => .error (.expression fault)

/-- The report of a tabulation. -/
def ofTabulation (format : Format) (text : String) (first last : Float) (steps : Nat) : Report :=
  match Expression.tabulate text.toList first last steps with
  | .ok points =>
      ⟨[debugEvent .expressions "Tabulated equation"], .ok (writtenTabulation format points)⟩
  | .error fault => ⟨[], .error (.expression fault)⟩

/-- The report of a loan. -/
def ofLoan (format : Format) (conditions : Loan.Conditions Float) : Report where
  events :=
    [debugEvent .loans "Calculating credit schedule", debugEvent .loans "Credit schedule ready",
      infoEvent "Credit schedule calculated"]
  result := .ok (writtenSchedule format conditions.schedule)

/-- The report of a deposit. -/
def ofDeposit (format : Format) (conditions : Deposit.Conditions Float) : Report :=
  let outcome := conditions.simulate
  { events :=
      debugEvent .deposits "Simulating deposit" :: outcome.overdrafts.map overdraftEvent ++
        [debugEvent .deposits "Deposit simulation complete", infoEvent "Deposit simulated"]
    result := .ok (writtenOutcome format outcome) }

/-- The report of conditions, if there are any. -/
def ofConditions {α : Type} (report : α → Report) (conditions : Except ConditionsFile.Fault α) :
    Report :=
  match conditions with
  | .ok conditions => report conditions
  | .error fault => ⟨[], .error (.conditions fault)⟩

end Report

namespace Command

/-- What a command comes to, given how files are read. -/
def report (read : String → Except FileFault String) (format : Format) : Command → Report
  | evaluate text => .ofEvaluation format text
  | evaluateAt text unknown => .ofEquation format text unknown
  | tabulate text first last steps => .ofTabulation format text first last steps
  | loan file =>
      .ofConditions (.ofLoan format)
        (ConditionsFile.load ConditionsFile.loanOfText file (read file))
  | deposit file =>
      .ofConditions (.ofDeposit format)
        (ConditionsFile.load ConditionsFile.depositOfText file (read file))

end Command

end CommandLine

end Reckoner
