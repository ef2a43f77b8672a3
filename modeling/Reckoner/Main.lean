import Reckoner.CommandLine.Session

/-!
# The program

Runs the command line of the process on the files of the system. What a command comes to, what is
printed and what is logged is decided elsewhere; here files are read and written.
-/

namespace Reckoner

namespace Program

/-- The reason why the system refuses to read a file. -/
def fileFault : IO.Error → FileFault
  | .noFileOrDirectory _ _ _ => .missing
  | .inappropriateType _ code _ => if code = 21 then .isFolder else .notFolder
  | error => .other (toString error)

/-- The text of a file of the system. -/
def readText (name : String) : IO (Except FileFault String) := do
  match ← (IO.FS.readBinFile name).toBaseIO with
  | .ok bytes => return ((String.fromUTF8? bytes).map .ok).getD (.error .notText)
  | .error error => return .error (fileFault error)

/-- The bytes of a file of the system, if it can be read. -/
def readBytes? (name : String) : IO (Option (List UInt8)) := do
  match ← (IO.FS.readBinFile name).toBaseIO with
  | .ok bytes => return some bytes.toList
  | .error _ => return none

/-- Trims the log of the system. -/
def trimLog (name : String) : IO Unit := do
  let (rewritten, content?) := Log.Rotation.standard.applyToFile (← readBytes? name)
  if rewritten then IO.FS.writeBinFile name ⟨(content?.getD []).toArray⟩

/-- Appends lines to a file of the system, which is created if it is not there. -/
def append (name lines : String) : IO Unit := do
  let file ← IO.FS.Handle.mk name .append
  file.putStr lines

/-- The folder of the log: the given one, or the standard one in the home folder. -/
def logFolder (invocation : CommandLine.Invocation) : IO String := do
  let home := (← IO.getEnv "HOME").getD "."
  return invocation.folder?.getD (Path.join home CommandLine.Invocation.standardFolder)

/-- Runs a command and gives the exit status. -/
def run (invocation : CommandLine.Invocation) : IO UInt32 := do
  let folder ← logFolder invocation
  IO.FS.createDirAll folder
  let log := Path.join folder CommandLine.logFileName
  trimLog log
  let time := toString (← IO.monoMsNow)
  append log (invocation.logText time (invocation.openingEvents log))
  let content ←
    match invocation.command.file? with
    | some name => readText name
    | none => pure (.error .missing)
  let report := invocation.command.report (fun _ => content) invocation.format
  append log (invocation.logText time (CommandLine.Invocation.closingEvents report))
  match report.result with
  | .ok result =>
      (← IO.getStdout).putStr (CommandLine.Invocation.printed result)
      return UInt32.ofNat CommandLine.Session.successStatus
  | .error failure =>
      (← IO.getStderr).putStrLn ("Error: " ++ failure.message)
      return UInt32.ofNat CommandLine.Session.failureStatus

end Program

end Reckoner

/-- Runs the command line of the process. -/
def main (arguments : List String) : IO UInt32 := do
  let options := Reckoner.CommandLine.programOptions
  match Reckoner.CommandLine.Invocation.ofArguments options arguments with
  | .ok invocation => Reckoner.Program.run invocation
  | .error fault =>
      (← IO.getStderr).putStrLn ("error: " ++ fault.name)
      return UInt32.ofNat (Reckoner.CommandLine.Session.usageStatus fault)
