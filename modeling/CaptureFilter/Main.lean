import CaptureFilter.CommandLine.Help
import CaptureFilter.CommandLine.Report
import CaptureFilter.Json.Writer
import CaptureFilter.Settings.Basic

/-!
# The command line program

Reads the environment, the protocol database and the arguments, and prints the answer.
Spec guidance: `SPEC_FULL.md` §D (`main`).
-/

namespace CaptureFilter.CommandLine

/-- The environment variables that settings are read from. -/
def environmentVariables : IO (List (String × String)) :=
  Settings.names.filterMapM fun setting ↦ do
    let name := (Settings.variableName setting).toUpper
    return (← IO.getEnv name).map fun value ↦ (name, value)

/-- The bytes of a file, unless it cannot be read. -/
def fileBytes? (path : String) : IO (Option (List UInt8)) :=
  try
    return some (← IO.FS.readBinFile path).toList
  catch _ => return none

/-- Prints lines. -/
def printLines (stream : IO.FS.Stream) (all : List (List Char)) : IO Unit :=
  all.forM fun line ↦ stream.putStrLn (String.ofList line)

/-- Prints an answer. -/
def Answer.print (answer : Answer) : IO Unit := do
  let stdout ← IO.getStdout
  match answer.printed with
  | .json v => stdout.putStrLn v.render
  | .lines all => printLines stdout all

/-- Why the settings cannot be read, in lines. -/
def settingsReport : SettingsError → List (List Char)
  | .notJson setting => [(SettingsError.unreadable setting).toList]
  | .invalid problems => problems.map fun p ↦ p.account.render.toList

/-- Compiles what the arguments choose. -/
def runChoices (choices : Choices) : IO UInt32 := do
  match Settings.ofVariables (← environmentVariables) with
  | .error e =>
    printLines (← IO.getStderr) (settingsReport e)
    return 1
  | .ok settings =>
    let protocols := Protocol.Source.ofFile (← fileBytes? settings.protocolsFile)
    let answer := choices.answer { protocols, untaggedPrefixes := settings.untaggedPrefixes }
    answer.print
    return UInt32.ofNat answer.status

/-- Runs the program on its arguments. -/
def run (args : List String) : IO UInt32 := do
  match Command.ofArguments args with
  | .error e =>
    printLines (← IO.getStderr) e.report
    return 2
  | .ok .help =>
    printLines (← IO.getStdout) help
    return 0
  | .ok (.compile choices) => runChoices choices

end CaptureFilter.CommandLine

/-- The program. -/
def main (args : List String) : IO UInt32 := CaptureFilter.CommandLine.run args
