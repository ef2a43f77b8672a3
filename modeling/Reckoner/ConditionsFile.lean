import Reckoner.Directory
import Reckoner.Record.Conditions
import Reckoner.Violation
import Reckoner.Yaml.Reader

/-!
# Files of conditions

The conditions of a loan or a deposit are kept in YAML files. They are used only if they violate
nothing.
-/

namespace Reckoner

namespace ConditionsFile

/-- Why a file gives no conditions. -/
inductive Fault where
  | unreadable (name : String) (reason : FileFault)
  /-- The text is no YAML text or does not hold the fields that are asked for. -/
  | malformed
  | invalid (violation : Violation Float)

/-- The message that reports a fault. -/
def Fault.message : Fault → String
  | unreadable name reason => "IO error: Failed to read " ++ name ++ ": " ++ reason.message
  | malformed => "Parse error"
  | invalid violation => "Invalid conditions: " ++ violation.message

/-- The conditions that a text holds, which must violate nothing. -/
def ofText {α : Type} (read : Document Yaml.Scalar → Option α)
    (violation? : α → Option (Violation Float)) (text : String) : Except Fault α :=
  match (Yaml.parse? text.toList).bind read with
  | none => .error .malformed
  | some conditions =>
      match violation? conditions with
      | some violation => .error (.invalid violation)
      | none => .ok conditions

/-- The conditions of a loan. -/
def loanOfText : String → Except Fault (Loan.Conditions Float) :=
  ofText (Record.loan Yaml.dialect) Loan.Conditions.violation?

/-- The conditions of a deposit. -/
def depositOfText : String → Except Fault (Deposit.Conditions Float) :=
  ofText (Record.deposit Yaml.dialect) Deposit.Conditions.violation?

/-- The conditions that a file holds. -/
def load {α : Type} (ofText : String → Except Fault α) (name : String)
    (content : Except FileFault String) : Except Fault α :=
  match content with
  | .ok text => ofText text
  | .error reason => .error (.unreadable name reason)

end ConditionsFile

end Reckoner
