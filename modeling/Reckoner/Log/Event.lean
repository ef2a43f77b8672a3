import Reckoner.Text.Blank

/-!
# Log events

What happens during a run is recorded as events of different weight from several sources, which are
parts of the command line or of the calculations behind it. Each event is one line of the log.
-/

namespace Reckoner

namespace Log

/-- The weight of an event. -/
inductive Level where
  | error
  | warn
  | info
  | debug
  | trace
  deriving DecidableEq, Repr

namespace Level

/-- All levels, the weightiest first. -/
def all : List Level := [error, warn, info, debug, trace]

/-- The place of a level, counted from 1 for the weightiest. -/
def rank : Level → Nat
  | error => 1
  | warn => 2
  | info => 3
  | debug => 4
  | trace => 5

/-- The level as a log line names it. -/
def name : Level → String
  | error => "ERROR"
  | warn => "WARN"
  | info => "INFO"
  | debug => "DEBUG"
  | trace => "TRACE"

/-- The number of characters that the name of a level takes in a line. -/
def width : Nat := 5

/-- The name of a level behind as many spaces as it lacks characters. -/
def column (level : Level) : String :=
  String.ofList (List.replicate (width - level.name.length) ' ') ++ level.name

end Level

/-- Where an event comes from. -/
inductive Source where
  /-- The run as a whole. -/
  | program
  /-- The log itself. -/
  | log
  /-- The commands that the program is asked for. -/
  | commands
  /-- The evaluation of expressions. -/
  | expressions
  /-- The schedules of loans. -/
  | loans
  /-- The simulation of deposits. -/
  | deposits
  deriving DecidableEq, Repr

namespace Source

/-- What the names of all sources in the command line start with. -/
def commandLineName : String := "smartcalc"

/-- What the names of all sources in the calculations start with. -/
def engineName : String := "smartcalc_core"

/-- The source as a log line and a filter name it. -/
def name : Source → String
  | program => commandLineName
  | log => commandLineName ++ "::logging"
  | commands => commandLineName ++ "::commands"
  | expressions => engineName ++ "::expression"
  | loans => engineName ++ "::credit"
  | deposits => engineName ++ "::deposit::simulation"

end Source

/-- Something that happened during a run. -/
structure Event where
  source : Source
  level : Level
  message : String
  deriving DecidableEq, Repr

namespace Event

/-- The line of an event, which starts with the time at which it happened. -/
def line (time : String) (event : Event) : String :=
  time ++ " " ++ event.level.column ++ " " ++ event.source.name ++ ": " ++ event.message ++ "\n"

end Event

/-- The number of lines of a log that are events of a level, which is the second word of such a
line. -/
def countOf (level : Level) (lines : List (List Char)) : Nat :=
  lines.countP fun line => Text.secondWord? line == some level.name.toList

end Log

end Reckoner
