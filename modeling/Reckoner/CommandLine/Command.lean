import Reckoner.CommandLine.Usage

/-!
# Commands

A command line names a command and gives it arguments. Options of the program itself may stand
before the name and among the arguments of the command; what stands among the arguments counts more.
-/

namespace Reckoner

namespace CommandLine

/-- What the program is asked to do. -/
inductive Command where
  | evaluate (text : String)
  | evaluateAt (text : String) (unknown : Float)
  | tabulate (text : String) (first last : Float) (steps : Nat)
  | loan (file : String)
  | deposit (file : String)

/-- The file that a command reads. -/
def Command.file? : Command → Option String
  | loan file | deposit file => some file
  | _ => none

/-- A text between quotes, where quotes, backslashes and ends of lines are marked. -/
def quoted (text : String) : String :=
  let marked (letter : Char) : List Char :=
    if letter = '"' ∨ letter = '\\' then ['\\', letter]
    else if letter = '\n' then ['\\', 'n']
    else if letter = '\r' then ['\\', 'r']
    else if letter = '\t' then ['\\', 't']
    else [letter]
  String.ofList ('"' :: text.toList.flatMap marked ++ ['"'])

/-- A command as the log describes it: its kind and the text it is about. -/
def Command.description : Command → String
  | evaluate text => "Expr \x7b expression: " ++ quoted text ++ " \x7d"
  | evaluateAt text _ => "Equation \x7b expression: " ++ quoted text ++ " \x7d"
  | tabulate text _ _ _ => "Plot \x7b expression: " ++ quoted text ++ " \x7d"
  | loan file => "Credit \x7b file: " ++ quoted file ++ " \x7d"
  | deposit file => "Deposit \x7b file: " ++ quoted file ++ " \x7d"

/-- The kinds of commands. -/
inductive Task where
  | evaluate
  | evaluateAt
  | tabulate
  | loan
  | deposit
  deriving DecidableEq, Repr

namespace Task

/-- All kinds of commands. -/
def all : List Task := [evaluate, evaluateAt, tabulate, loan, deposit]

/-- The name of a kind of command. -/
def name : Task → String
  | evaluate => "expr"
  | evaluateAt => "equation"
  | tabulate => "plot"
  | loan => "credit"
  | deposit => "deposit"

/-- The kind of command of a name. -/
def ofName? (name : String) : Option Task := all.find? fun task => task.name == name

/-- The name of the argument that is an expression. -/
def expressionName : String := "expression"

/-- The name of the argument that is a file. -/
def fileName : String := "file"

/-- The argument that is an expression. -/
def expression : Parameter where
  name := expressionName
  letter? := none
  kind? := some .text
  allowsNegative := false

/-- The argument that is a file. -/
def file : Parameter where
  name := fileName
  letter? := none
  kind? := some .path
  allowsNegative := false

/-- An option that takes a real number. -/
def realOption (name : String) : Parameter where
  name := name
  letter? := none
  kind? := some .real
  allowsNegative := true

/-- The greatest number of steps of a tabulation. -/
def greatestSteps : Nat := 100000

/-- The number of steps of a tabulation for which none is given. -/
def standardSteps : Nat := 20

/-- The option for the number of steps of a tabulation. -/
def stepsOption : Parameter where
  name := "steps"
  letter? := none
  kind? := some (.whole 1 greatestSteps)
  allowsNegative := false

/-- The arguments of a command. -/
def grammar : Task → Grammar
  | evaluate => ⟨[], [expression]⟩
  | evaluateAt => ⟨[realOption "x"], [expression]⟩
  | tabulate => ⟨[realOption "from", realOption "to", stepsOption], [expression]⟩
  | loan => ⟨[], [file]⟩
  | deposit => ⟨[], [file]⟩

/-- The command with the values of its arguments. -/
def command (task : Task) (values : Values) : Except UsageFault Command :=
  match task with
  | evaluate => return .evaluate (← values.text expressionName)
  | evaluateAt => return .evaluateAt (← values.text expressionName) (← values.real "x")
  | tabulate =>
      return .tabulate (← values.text expressionName) (← values.real "from") (← values.real "to")
        (((values.whole? "steps").map Int.toNat).getD standardSteps)
  | loan => return .loan (← values.text fileName)
  | deposit => return .deposit (← values.text fileName)

end Task

/-- A command line as it is read: what to do, and the values of the options of the program. -/
structure Invocation where
  command : Command
  settings : Values

namespace Invocation

/-- The command that shows help. -/
def helpCommand : String := "help"

/-- The fault of a command line that asks for help, perhaps on a command. -/
def helpFault (arguments : List String) : UsageFault :=
  match arguments with
  | [] => .displayHelp
  | [name] =>
      if name = helpCommand ∨ (Task.ofName? name).isSome then .displayHelp else .invalidSubcommand
  | _ => .invalidSubcommand

/-- Reads the arguments of a command. -/
def ofTask (options : List Parameter) (task : Task) (before : Reading) (arguments : List String) :
    Except UsageFault Invocation := do
  let grammar := task.grammar
  let values ← readArguments { grammar with options := grammar.options ++ options } arguments
  let settled ← before.settle
  return ⟨← task.command values, ⟨values.entries ++ settled.values⟩⟩

/-- Whether an argument is written like an option. -/
def looksLikeOption (argument : String) : Bool :=
  match argument.toList with
  | '-' :: _ :: _ => true
  | _ => false

/-- Reads a command line whose options are known so far. A command has to be named. -/
def readOn (options : List Parameter) : Reading → List String → Except UsageFault Invocation
  | reading, [] => do
      let settled ← reading.settle
      if settled.values.isEmpty then .error .displayHelpOnMissingArgumentOrSubcommand
      else .error .missingSubcommand
  | reading, argument :: rest =>
      if reading.optionsEnded then
        let isName := argument == helpCommand || (Task.ofName? argument).isSome
        .error (if isName then .unknownArgument else .invalidSubcommand)
      else if reading.awaitsValue || looksLikeOption argument then do
        let next ← reading.take ⟨options, []⟩ argument
        readOn options next rest
      else if argument = helpCommand then .error (helpFault rest)
      else
        match Task.ofName? argument with
        | some task => ofTask options task reading rest
        | none => .error .invalidSubcommand

/-- Reads a command line. -/
def ofArguments (options : List Parameter) (arguments : List String) :
    Except UsageFault Invocation :=
  readOn options (Reading.start ⟨options, []⟩) arguments

end Invocation

end CommandLine

end Reckoner
