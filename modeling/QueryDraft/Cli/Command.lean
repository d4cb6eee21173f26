import QueryDraft.Build
import QueryDraft.Cli.Help
import QueryDraft.Cli.Options
import QueryDraft.Config.Layers

/-!
# The command line

The program takes a configuration file and a command. Its own options are read first, then the
command is looked up, then the configuration is loaded, and only then are the options of the
command read. A fault of the command line is printed and ends with code 2; a build that was aborted
ends with code 1. Anything else that goes wrong is handed to the caller.
-/

namespace QueryDraft.Cli

/-- How a run of the program ends. -/
inductive Ending where
  | exit (code : Nat)
  | failed (e : Error)

/-- The file that is read when none is named. -/
def defaultConfig : String := "config/default.yml"

/-- The name of the one command. -/
def buildName : String := "build"

/-- The options before the command. -/
def programSwitches : List Switch := [⟨"--config", true⟩, ⟨"--help", false⟩]

/-- The options of the command. -/
def buildSwitches : List Switch := [⟨"--help", false⟩]

/-- What is printed for a fault. -/
def faultText (program : String) (stage : Stage) (f : Fault) : String :=
  let usage :=
    if f.showsUsage then stage.usage program ++ "\n" ++ stage.pointer program ++ "\n\n" else ""
  usage ++ "Error: " ++ f.message ++ "\n"

section
variable {m : Type → Type} [Monad m]

/-- Prints a fault and ends. -/
def stop (host : Host m) (stage : Stage) (f : Fault) : m Ending := do
  host.err (faultText host.programName stage f)
  return .exit 2

/-- Prints the help of a stage and ends. -/
def showHelp (host : Host m) (stage : Stage) : m Ending := do
  host.out (stage.help host.programName)
  return .exit 0

/-- Reads the options before the command: how the program ends already, or the configuration file
and the rest of the command line. -/
def readProgram (host : Host m) (args : List String) :
    m (Except Ending (String × List String)) := do
  match splitArguments programSwitches false args with
  | .error f => return .error (← stop host .program f)
  | .ok a =>
    if a.has "--help" then return .error (← showHelp host .program)
    let config := (a.last? "--config").getD defaultConfig
    match ← host.isDirectory config with
    | .error f => return .error (.failed (.failed f))
    | .ok true => return .error (← stop host .program (.directory "--config" config))
    | .ok false => return .ok (config, a.rest)

/-- Runs the build of a configuration. -/
def runBuild (host : Host m) (s : Config.Settings) (args : List String) : m Ending := do
  match splitArguments buildSwitches true args with
  | .error f => stop host .build f
  | .ok a =>
    if a.has "--help" then showHelp host .build
    else if !a.rest.isEmpty then stop host .build (.extraArguments a.rest)
    else match ← Build.run host {} s buildName with
      | .finished => return .exit 0
      | .failed e => return .failed e
      | .aborted => do
        host.err "Aborted!\n"
        return .exit 1

/-- Loads a configuration file. -/
def loadFile (host : Host m) (readDocument : String → Outcome Value) (path : String) :
    m (Outcome Config.Settings) := do
  match ← host.read (Path.ofText path).text with
  | .error f => return .error (.failed f)
  | .ok text => return Config.loadText readDocument text

/-- Ends for a command that is not there. If its name starts with a sign, the arguments from it on
are read as options before, without those that were given. -/
def unknownCommand (host : Host m) (name : String) (args : List String) : m Ending := do
  if startsWithSign name then
    match ← readProgram host (name :: args) with
    | .error ending => return ending
    | .ok _ => stop host .program (.noSuchCommand name)
  else stop host .program (.noSuchCommand name)

/-- Runs the program. -/
def run (host : Host m) (readDocument : String → Outcome Value) (args : List String) :
    m Ending := do
  if args.isEmpty then
    host.err (Stage.program.help host.programName)
    return .exit 2
  match ← readProgram host args with
  | .error ending => return ending
  | .ok (_, []) => stop host .program .missingCommand
  | .ok (config, name :: args) =>
    if name ≠ buildName then unknownCommand host name args
    else match ← loadFile host readDocument config with
      | .error e => return .failed e
      | .ok s => runBuild host s args

end

end QueryDraft.Cli
