import Reckoner.Expression.Fault
import Reckoner.Expression.Symbol

/-!
# Postfix programs

An expression is carried out as a postfix program on a stack of values. Every value put on the stack
must be finite, so a division by zero, a domain error or an overflow anywhere in the expression is a
fault even if the final value would hide it.
-/

namespace Reckoner

namespace Expression

/-- One instruction of a postfix program. -/
inductive Instruction where
  | number (value : Float)
  | unknown
  | sign (symbol : Sign)
  | operator (symbol : Operator)
  | function (called : Function)
  deriving DecidableEq

namespace Instruction

/-- The value an instruction computes and the stack below it. The unknown may have no value. -/
def execute (unknown? : Option Float) : Instruction → List Float → Except Fault (Float × List Float)
  | .number value, stack => .ok (value, stack)
  | .unknown, stack =>
      match unknown? with
      | some value => .ok (value, stack)
      | none => .error .invalidExpression
  | .sign symbol, operand :: stack => .ok (symbol.apply operand, stack)
  | .function called, operand :: stack => .ok (called.apply operand, stack)
  | .operator symbol, right :: left :: stack => .ok (symbol.apply left right, stack)
  | _, _ => .error .invalidSyntax

end Instruction

/-- Carries out the instructions on a stack; they must leave exactly one value. -/
def runOn (unknown? : Option Float) : List Instruction → List Float → Except Fault Float
  | [], [result] => .ok result
  | [], _ => .error .invalidExpression
  | instruction :: program, stack =>
      match instruction.execute unknown? stack with
      | .error fault => .error fault
      | .ok (value, below) =>
          if value.isFinite then runOn unknown? program (value :: below)
          else .error .invalidExpression

end Expression

/-- A text that was accepted: its postfix program and whether the program refers to the unknown. -/
structure Expression where
  program : List Expression.Instruction
  hasUnknown : Bool
  deriving DecidableEq

namespace Expression

/-- The value of an expression without unknown. -/
def evaluate (expression : Expression) : Except Fault Float :=
  if expression.hasUnknown then .error .invalidExpression
  else runOn none expression.program []

/-- The value of an expression for a value of the unknown, which is used as given. -/
def evaluateAt (expression : Expression) (value : Float) : Except Fault Float :=
  runOn (some value) expression.program []

end Expression

end Reckoner
