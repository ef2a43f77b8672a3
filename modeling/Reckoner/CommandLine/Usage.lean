import Reckoner.Decimal.Reading

/-!
# Arguments

A command takes arguments by their place and options by their name. An option is a flag or takes a
value, in the same argument behind an equals sign or in the next one. Two hyphens alone end the
options.

An argument is judged when it is complete: a value that stands in an argument of its own is judged
together with the next known argument, so an unknown argument right behind it is reported first.
-/

namespace Reckoner

namespace CommandLine

/-- Why arguments are refused. -/
inductive UsageFault where
  | displayHelp
  | displayHelpOnMissingArgumentOrSubcommand
  | missingSubcommand
  | invalidSubcommand
  | unknownArgument
  | missingRequiredArgument
  | argumentConflict
  | tooManyValues
  /-- A value is missing or empty. -/
  | invalidValue
  /-- A value is not of its kind or out of range. -/
  | valueValidation
  deriving DecidableEq, Repr

namespace UsageFault

/-- The name of a fault. -/
def name : UsageFault → String
  | displayHelp => "DisplayHelp"
  | displayHelpOnMissingArgumentOrSubcommand => "DisplayHelpOnMissingArgumentOrSubcommand"
  | missingSubcommand => "MissingSubcommand"
  | invalidSubcommand => "InvalidSubcommand"
  | unknownArgument => "UnknownArgument"
  | missingRequiredArgument => "MissingRequiredArgument"
  | argumentConflict => "ArgumentConflict"
  | tooManyValues => "TooManyValues"
  | invalidValue => "InvalidValue"
  | valueValidation => "ValueValidation"

end UsageFault

/-- What the value of an argument must be. -/
inductive ValueKind where
  | text
  /-- A text that is not empty. -/
  | path
  | real
  /-- A whole number between the bounds. -/
  | whole (least greatest : Int)
  deriving DecidableEq, Repr

/-- The value of an argument. -/
inductive Value where
  | text (value : String)
  | real (value : Float)
  | whole (value : Int)
  | flag

namespace ValueKind

/-- The whole number that a text denotes, with an optional sign and at least one digit. -/
def wholeOfText? (text : List Char) : Option Int :=
  let (negative, digits) := Decimal.readMinus text
  if digits ≠ [] ∧ digits.all Char.isDigit then
    let magnitude : Int := Nat.ofDigitChars 10 digits 0
    some (if negative then -magnitude else magnitude)
  else none

/-- The value of a text. -/
def parse (kind : ValueKind) (text : String) : Except UsageFault Value :=
  match kind with
  | .text => .ok (.text text)
  | .path => if text.isEmpty then .error .invalidValue else .ok (.text text)
  | .real =>
      match Decimal.floatOfText? text.toList with
      | some value => .ok (.real value)
      | none => .error .valueValidation
  | .whole least greatest =>
      match wholeOfText? text.toList with
      | some value =>
          if least ≤ value ∧ value ≤ greatest then .ok (.whole value) else .error .valueValidation
      | none => .error .valueValidation

end ValueKind

/-- An argument that a command knows. -/
structure Parameter where
  name : String
  /-- The letter of an option that has one. -/
  letter? : Option Char
  /-- The kind of its value; a flag has none. -/
  kind? : Option ValueKind
  /-- Whether a negative number in the next argument is taken for its value. -/
  allowsNegative : Bool

/-- The arguments that a command knows. -/
structure Grammar where
  options : List Parameter
  positionals : List Parameter

namespace Grammar

/-- The option of a name. -/
def option? (grammar : Grammar) (name : String) : Option Parameter :=
  grammar.options.find? fun parameter => parameter.name == name

/-- The option of a letter. -/
def optionOfLetter? (grammar : Grammar) (letter : Char) : Option Parameter :=
  grammar.options.find? fun parameter => parameter.letter? == some letter

end Grammar

/-- An argument whose value is not judged yet. -/
structure Awaited where
  parameter : Parameter
  isOption : Bool
  value? : Option String

/-- What is known between two arguments. -/
structure Reading where
  values : List (String × Value)
  awaited? : Option Awaited
  /-- The arguments by place that are still free. -/
  positionals : List Parameter
  optionsEnded : Bool

namespace Reading

/-- The state before the first argument. -/
def start (grammar : Grammar) : Reading := ⟨[], none, grammar.positionals, false⟩

/-- Whether an argument has a value already. -/
def has (reading : Reading) (name : String) : Bool :=
  reading.values.any fun entry => entry.1 == name

/-- Adds a value that is judged now. -/
def add (reading : Reading) (parameter : Parameter) (value : Except UsageFault Value) :
    Except UsageFault Reading :=
  if reading.has parameter.name then .error .argumentConflict
  else value.map fun judged => { reading with values := (parameter.name, judged) :: reading.values }

/-- Judges the value that is not judged yet, if there is one. -/
def settle (reading : Reading) : Except UsageFault Reading :=
  match reading.awaited? with
  | none => .ok reading
  | some awaited =>
      match awaited.parameter.kind?, awaited.value? with
      | some kind, some text =>
          { reading with awaited? := none }.add awaited.parameter (kind.parse text)
      | _, _ => .error .invalidValue

/-- Whether the next argument may be the value of an option. -/
def awaitsValue (reading : Reading) : Bool :=
  match reading.awaited? with
  | some awaited => awaited.isOption && awaited.value?.isNone
  | none => false

/-- Takes an argument as the value of an option. -/
def takeValue (reading : Reading) (text : String) : Reading :=
  { reading with
    awaited? := reading.awaited?.map fun awaited => { awaited with value? := some text } }

/-- Takes an argument by its place. -/
def takePositional (reading : Reading) (text : String) : Except UsageFault Reading :=
  match reading.positionals with
  | [] => .error .unknownArgument
  | parameter :: positionals =>
      reading.settle.map fun settled =>
        { settled with positionals, awaited? := some ⟨parameter, false, some text⟩ }

/-- Takes an option with the value that is attached to it, if there is one. -/
def takeOption (reading : Reading) (parameter : Parameter) (attached? : Option String) :
    Except UsageFault Reading :=
  match parameter.kind?, attached? with
  | none, some _ => .error .tooManyValues
  | none, none => reading.settle.bind fun settled => settled.add parameter (.ok .flag)
  | some kind, some text =>
      reading.settle.bind fun settled => settled.add parameter (kind.parse text)
  | some _, none =>
      reading.settle.map fun settled => { settled with awaited? := some ⟨parameter, true, none⟩ }

/-- The name of the option that shows help, and its letter. -/
def helpName : String := "help"

/-- Takes an option by its name, perhaps with a value behind an equals sign. -/
def takeLong (grammar : Grammar) (reading : Reading) (text : List Char) :
    Except UsageFault Reading :=
  let name := String.ofList (text.takeWhile (· != '='))
  let attached? :=
    match text.dropWhile (· != '=') with
    | [] => none
    | _ :: value => some (String.ofList value)
  match grammar.option? name with
  | some parameter => reading.takeOption parameter attached?
  | none =>
      if name ≠ helpName then .error .unknownArgument
      else if attached?.isSome then .error .tooManyValues
      else reading.settle.bind fun _ => .error .displayHelp

/-- Takes options by their letters. The first of them that takes a value has the rest of the
argument as its value, with or without an equals sign. -/
def takeShort (grammar : Grammar) (reading : Reading) : List Char → Except UsageFault Reading
  | [] => .ok reading
  | letter :: rest =>
      match grammar.optionOfLetter? letter with
      | some parameter =>
          if parameter.kind?.isNone then
            (reading.takeOption parameter none).bind fun next => next.takeShort grammar rest
          else
            match rest with
            | [] => reading.takeOption parameter none
            | '=' :: value => reading.takeOption parameter (some (String.ofList value))
            | value => reading.takeOption parameter (some (String.ofList value))
      | none =>
          if letter = 'h' then reading.settle.bind fun _ => .error .displayHelp
          else .error .unknownArgument

/-- Whether a text behind a hyphen makes the argument a negative number: digits with at most one
point, which is not the first character, and perhaps an exponent without sign. -/
def isUnsignedNumber (text : List Char) : Bool :=
  let whole := text.takeWhile Char.isDigit
  let afterWhole := text.dropWhile Char.isDigit
  let afterPoint :=
    match afterWhole with
    | '.' :: rest => if whole.isEmpty then afterWhole else rest.dropWhile Char.isDigit
    | _ => afterWhole
  match afterPoint with
  | [] => true
  | mark :: exponent =>
      (mark == 'e' || mark == 'E') && decide (afterPoint.length < text.length) &&
        !exponent.isEmpty &&
        exponent.all Char.isDigit

/-- Whether an argument is taken for the negative value of the option before it. -/
def awaitsNegative (reading : Reading) (unsigned : List Char) : Bool :=
  match reading.awaited? with
  | some awaited =>
      reading.awaitsValue && awaited.parameter.allowsNegative && isUnsignedNumber unsigned
  | none => false

/-- Takes one argument. -/
def take (grammar : Grammar) (reading : Reading) (argument : String) : Except UsageFault Reading :=
  if reading.optionsEnded then reading.takePositional argument
  else
    match argument.toList with
    | ['-', '-'] => .ok { reading with optionsEnded := true }
    | '-' :: '-' :: text => reading.takeLong grammar text
    | '-' :: letter :: letters =>
        if reading.awaitsNegative (letter :: letters) then .ok (reading.takeValue argument)
        else reading.takeShort grammar (letter :: letters)
    | _ =>
        if reading.awaitsValue then .ok (reading.takeValue argument)
        else reading.takePositional argument

end Reading

/-- The values of arguments by their names. -/
structure Values where
  entries : List (String × Value)

namespace Values

/-- The text of an argument that must be given. -/
def text (values : Values) (name : String) : Except UsageFault String :=
  match values.entries.lookup name with
  | some (.text value) => .ok value
  | _ => .error .missingRequiredArgument

/-- The real number of an argument that must be given. -/
def real (values : Values) (name : String) : Except UsageFault Float :=
  match values.entries.lookup name with
  | some (.real value) => .ok value
  | _ => .error .missingRequiredArgument

/-- The text of an argument, if it is given. -/
def text? (values : Values) (name : String) : Option String := (values.text name).toOption

/-- The whole number of an argument, if it is given. -/
def whole? (values : Values) (name : String) : Option Int :=
  match values.entries.lookup name with
  | some (.whole value) => some value
  | _ => none

/-- Whether a flag is given. -/
def has (values : Values) (name : String) : Bool := (values.entries.lookup name).isSome

end Values

/-- The values of the arguments of a command. -/
def readArguments (grammar : Grammar) (arguments : List String) : Except UsageFault Values :=
  ((arguments.foldlM (Reading.take grammar) (Reading.start grammar)).bind Reading.settle).map
    fun reading => ⟨reading.values⟩

end CommandLine

end Reckoner
