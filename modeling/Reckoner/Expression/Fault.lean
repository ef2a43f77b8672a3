import Reckoner.Choice

/-!
# Faults of an expression

The closed list of reasons why a text has no value, each with its fixed code and description.
-/

namespace Reckoner

namespace Expression

/-- Why a text is no expression, or an expression has no value. -/
inductive Fault where
  /-- The points of a tabulation exceed what memory can address. -/
  | allocationFailure
  | invalidSyntax
  | bracesMismatch
  | numberUsage
  | operatorUsage
  | functionUsage
  /-- The unknown is missing or stands where no operand may stand. -/
  | invalidEquation
  /-- An unknown character, an unknown outside an equation, or a value that is not finite. -/
  | invalidExpression
  deriving DecidableEq, Repr

namespace Fault

/-- All faults, in the order of their codes. -/
def all : List Fault :=
  [allocationFailure, invalidSyntax, bracesMismatch, numberUsage, operatorUsage, functionUsage,
    invalidEquation, invalidExpression]

/-- The short name of a fault. -/
def name : Fault → String
  | allocationFailure => "AllocationFailure"
  | invalidSyntax => "InvalidSyntax"
  | bracesMismatch => "BracesMismatch"
  | numberUsage => "NumberUsage"
  | operatorUsage => "OperatorUsage"
  | functionUsage => "FunctionUsage"
  | invalidEquation => "InvalidEquation"
  | invalidExpression => "InvalidExpression"

/-- The code of a fault; zero is left for success. -/
def code : Fault → Nat
  | allocationFailure => 1
  | invalidSyntax => 2
  | bracesMismatch => 3
  | numberUsage => 4
  | operatorUsage => 5
  | functionUsage => 6
  | invalidEquation => 7
  | invalidExpression => 8

/-- The description of a fault. -/
def description : Fault → String
  | allocationFailure => "allocation fail"
  | invalidSyntax => "invalid expression syntax"
  | bracesMismatch => "braces not matching"
  | numberUsage => "incorrect number usage"
  | operatorUsage => "incorrect operator usage"
  | functionUsage => "incorrect function usage"
  | invalidEquation => "invalid equation"
  | invalidExpression => "invalid expression"

end Fault

/-- How an evaluation ended. -/
inductive Status where
  | success
  | failure (fault : Fault)
  deriving DecidableEq, Repr

namespace Status

/-- The description of a status. -/
def description : Status → String
  | success => "success"
  | failure fault => fault.description

/-- Whether an evaluation succeeded. -/
def isSuccess (status : Status) : Bool := status == success

instance : Choice Status where
  all := success :: Fault.all.map failure
  name
    | success => "Success"
    | failure fault => fault.name
  code
    | success => 0
    | failure fault => fault.code

end Status

end Expression

end Reckoner
