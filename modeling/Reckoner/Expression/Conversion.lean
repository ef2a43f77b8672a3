import Reckoner.Expression.Lexeme
import Reckoner.Expression.Program

/-!
# From lexemes to a program

Lexemes are converted to a postfix program from left to right. Operators, signs, functions and open
braces wait until it is known where their operands end; the ones that wait are a stack.

Signs bind tighter than powers, powers group to the right, all other operators to the left. A
function must be followed by an open brace and is called as soon as that brace closes.

The first offence decides the fault. A fault of the lexemes themselves counts at the place where it
stands, so an offence before it wins.
-/

namespace Reckoner

namespace Expression

/-- Whether the unknown may appear in a text. -/
inductive Mode where
  | expression
  | equation
  deriving DecidableEq, Repr

/-- What waits for its operands to be complete. -/
inductive Pending where
  | openBrace
  | function (called : Function)
  | sign (symbol : Sign)
  | operator (symbol : Operator)
  deriving DecidableEq

namespace Pending

/-- The instruction that carries out what waits; a brace leaves none. -/
def instruction? : Pending → Option Instruction
  | openBrace => none
  | function called => some (.function called)
  | sign symbol => some (.sign symbol)
  | operator symbol => some (.operator symbol)

/-- Whether an operator that waits is complete when `next` is read behind its right operand. -/
def yieldsTo (next : Operator) : Pending → Bool
  | openBrace | function _ => false
  | sign _ => true
  | operator symbol =>
      if next.isRightAssociative then decide (next.priority < symbol.priority)
      else decide (next.priority ≤ symbol.priority)

end Pending

/-- The state of a conversion between two lexemes. -/
structure Conversion where
  /-- The instructions so far. -/
  output : Array Instruction
  /-- What waits, the latest first. -/
  pending : List Pending
  expectsOperand : Bool
  /-- Whether no lexeme has been read yet. -/
  isAtStart : Bool
  hasUnknown : Bool

namespace Conversion

/-- The state before the first lexeme. -/
def start : Conversion where
  output := #[]
  pending := []
  expectsOperand := true
  isAtStart := true
  hasUnknown := false

/-- Adds an operand. -/
def operand (state : Conversion) (instruction : Instruction) : Conversion :=
  { state with
    output := state.output.push instruction
    expectsOperand := false
    isAtStart := false }

/-- Lets something wait whose operand follows. -/
def wait (state : Conversion) (entry : Pending) : Conversion :=
  { state with pending := entry :: state.pending, isAtStart := false }

/-- Adds an operator between two operands: what is complete before it goes to the output. -/
def operator (state : Conversion) (symbol : Operator) : Conversion :=
  let complete := state.pending.takeWhile (Pending.yieldsTo symbol)
  let waiting := state.pending.dropWhile (Pending.yieldsTo symbol)
  { state with
    output := state.output ++ complete.filterMap Pending.instruction?
    pending := .operator symbol :: waiting
    expectsOperand := true
    isAtStart := false }

/-- Closes the latest open brace, and with it the call of a function that stands before that
brace. -/
def closeBrace (state : Conversion) : Except Fault Conversion :=
  if state.expectsOperand then
    .error (if state.isAtStart then .bracesMismatch else .invalidSyntax)
  else
    let complete := state.pending.takeWhile (· != .openBrace)
    let output := state.output ++ complete.filterMap Pending.instruction?
    match state.pending.dropWhile (· != .openBrace) with
    | [] => .error .bracesMismatch
    | _ :: .function called :: waiting =>
        .ok { state with
          output := output.push (.function called), pending := waiting, isAtStart := false }
    | _ :: waiting => .ok { state with output := output, pending := waiting, isAtStart := false }

/-- Takes one lexeme, knowing the lexeme after it. -/
def step (mode : Mode) (state : Conversion) (lexeme : Lexeme) (next? : Option Lexeme) :
    Except Fault Conversion :=
  match lexeme with
  | .number numeral =>
      if state.expectsOperand then .ok (state.operand (.number numeral.value))
      else .error .numberUsage
  | .unknown =>
      if mode = .expression then .error .invalidExpression
      else if state.expectsOperand then .ok { state.operand .unknown with hasUnknown := true }
      else .error .invalidEquation
  | .operator symbol =>
      if state.expectsOperand then
        match symbol.sign? with
        | some sign => .ok (state.wait (.sign sign))
        | none => .error .operatorUsage
      else .ok (state.operator symbol)
  | .function called =>
      if state.expectsOperand ∧ next? = some .openBrace then .ok (state.wait (.function called))
      else .error .functionUsage
  | .openBrace =>
      if state.expectsOperand then .ok (state.wait .openBrace)
      else .error .numberUsage
  | .closeBrace => state.closeBrace

/-- Takes a list of lexemes one after another. -/
def run (mode : Mode) : Conversion → List Lexeme → Except Fault Conversion
  | state, [] => .ok state
  | state, lexeme :: lexemes =>
      match step mode state lexeme lexemes.head? with
      | .error fault => .error fault
      | .ok next => run mode next lexemes

/-- The expression that is complete when the text ends. -/
def finish (state : Conversion) : Except Fault Expression :=
  if state.isAtStart then .error .invalidExpression
  else if state.expectsOperand then .error .invalidSyntax
  else if .openBrace ∈ state.pending then .error .bracesMismatch
  else
    .ok {
      program := (state.output ++ state.pending.filterMap Pending.instruction?).toList
      hasUnknown := state.hasUnknown }

end Conversion

/-- The expression that lexemes form, where a fault may stand behind the last of them. -/
def ofReading (mode : Mode) (reading : Lexeme.Reading) : Except Fault Expression :=
  match Conversion.start.run mode reading.lexemes with
  | .error fault => .error fault
  | .ok state =>
      match reading.fault with
      | some fault => .error fault
      | none => state.finish

/-- The expression that a text denotes. -/
def parse (mode : Mode) (text : List Char) : Except Fault Expression :=
  ofReading mode (Lexeme.readAll text)

end Expression

end Reckoner
