import Reckoner.CommandLine.Report
import Reckoner.Log.Filter
import Reckoner.Log.Rotation

/-!
# Sessions

A session runs one command line in a directory: it trims the log, runs the command, appends the
events to the log and ends with an exit status and a printed text. The first events are written
before the command reads its file, which may be the log itself. A command line that cannot be read
leaves the directory alone.
-/

namespace Reckoner

namespace CommandLine

/-- The option for the folder of the log. -/
def folderOption : Parameter where
  name := "data-dir"
  letter? := some 'd'
  kind? := some .path
  allowsNegative := false

/-- The option for the level of the log. -/
def levelOption : Parameter where
  name := "log-level"
  letter? := some 'l'
  kind? := some .text
  allowsNegative := false

/-- The option for results in JSON. -/
def jsonOption : Parameter where
  name := "json"
  letter? := none
  kind? := none
  allowsNegative := false

/-- The options of the program. -/
def programOptions : List Parameter := [folderOption, levelOption, jsonOption]

namespace Invocation

/-- The folder of the log if none is given. -/
def standardFolder : String := ".smartcalc"

/-- The folder of the log, if one is given. -/
def folder? (invocation : Invocation) : Option String := invocation.settings.text? folderOption.name

/-- The level of the log. -/
def level (invocation : Invocation) : String :=
  (invocation.settings.text? levelOption.name).getD "info"

/-- The format of results. -/
def format (invocation : Invocation) : Format :=
  if invocation.settings.has jsonOption.name then .json else .text

/-- The version of the program. -/
def version : String := "0.1.0"

/-- The events before the command of a session is run: its start and its command. -/
def openingEvents (invocation : Invocation) (log : String) : List Log.Event :=
  let format :=
    match invocation.format with
    | .text => "false"
    | .json => "true"
  [⟨.log, .info,
      "SmartCalc logging initialized log_path=" ++ log ++ " version=\"" ++ version ++ "\""⟩,
    ⟨.commands, .debug,
      "Running command command=" ++ invocation.command.description ++ " json=" ++ format⟩]

/-- The events of the command of a session, and its failure if it fails. -/
def closingEvents (report : Report) : List Log.Event :=
  match report.result with
  | .ok _ => report.events
  | .error failure =>
      report.events ++ [⟨.program, .error, "Command failed error=" ++ failure.message⟩]

/-- The lines of the events that a session writes to the log. -/
def logText (invocation : Invocation) (time : String) (events : List Log.Event) : String :=
  let filter := Log.Filter.ofLevel invocation.level
  String.join ((events.filter filter.passes).map (Log.Event.line time))

/-- What a session prints for a result: the result without blanks at its end, and a line feed. -/
def printed (result : List Char) : String := String.ofList (Text.trimEnd result ++ ['\n'])

end Invocation

/-- The name of the log file in its folder. -/
def logFileName : String := "smartcalc.log"

/-- How a session ended. -/
structure Ending where
  exitStatus : Nat
  output : String
  directory : Directory

namespace Session

/-- The exit status of a session whose command has a result. -/
def successStatus : Nat := 0

/-- The exit status of a session whose command failed or whose log cannot be written. -/
def failureStatus : Nat := 1

/-- The exit status of a session whose command line cannot be read. -/
def usageStatus : UsageFault → Nat
  | .displayHelp => 0
  | _ => 2

/-- The directory with a text appended to a file, which is created if it is not there. -/
def append (directory : Directory) (name text : String) : Except FileFault Directory :=
  directory.write name ((directory.read name).toOption.getD [] ++ text.toUTF8.toList)

/-- The directory where the log in a folder is open: the folder is there, and the log is trimmed and
starts with the given lines of this session. -/
def openLog (directory : Directory) (folder lines : String) : Except FileFault Directory := do
  let created ← directory.createFolders folder
  let log := Path.join folder logFileName
  let (_, trimmed?) := Log.Rotation.standard.applyToFile (created.read log).toOption
  append (← created.write log (trimmed?.getD [])) log lines

/-- Runs a command line in a directory, which is also the home folder and has a name as such. -/
def run (time home : String) (directory : Directory) (arguments : List String) : Ending :=
  match Invocation.ofArguments programOptions arguments with
  | .error fault => ⟨usageStatus fault, "", directory⟩
  | .ok invocation =>
      let standard := Invocation.standardFolder
      let folder := invocation.folder?.getD standard
      let shownFolder := invocation.folder?.getD (Path.join home standard)
      let opening := invocation.openingEvents (Path.join shownFolder logFileName)
      match openLog directory folder (invocation.logText time opening) with
      | .error _ => ⟨failureStatus, "", directory⟩
      | .ok opened =>
          let report := invocation.command.report opened.readText invocation.format
          let closing := invocation.logText time (Invocation.closingEvents report)
          let finished :=
            (append opened (Path.join folder logFileName) closing).toOption.getD opened
          match report.result with
          | .ok result => ⟨successStatus, Invocation.printed result, finished⟩
          | .error _ => ⟨failureStatus, "", finished⟩

end Session

end CommandLine

end Reckoner
