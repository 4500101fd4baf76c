import LoxLexer.CommandLine.Arguments
import LoxLexer.CommandLine.Dialogue
import LoxLexer.Settings.File

/-!
# Runs

A run reads its command line, then its settings, and then scans a script or, where no script is named,
the lines of its input. What comes first decides: more than one script is an error whatever the settings
are, and a defective settings file is reported whether or not the script exists. A run is a function of
its surroundings, `Environment`, and its result is an `Outcome`.
-/

namespace LoxLexer

/-- The surroundings of a run. -/
structure Environment where
  /-- The files. -/
  files : FileView
  /-- The name of the working directory. -/
  workingDirectory : String
  /-- The text on standard input. -/
  input : String
  /-- Whether the terminal shows colours. -/
  ansi : Bool

/-- What ends a run before it can choose an exit code. -/
inductive RunFault where
  /-- Loading the settings failed, and not by a report on the settings file. -/
  | load (fault : LoadFault)
  /-- The path of the script cannot be the path of a file. -/
  | nulInScript
  /-- The separator stands in the place of a settings file. -/
  | configSeparator
  deriving DecidableEq

/-- The wording of a fault. -/
def RunFault.message : RunFault → String
  | load fault => fault.message
  | nulInScript => "embedded null byte"
  | configSeparator => "'list' object has no attribute 'read_text'"

/-- How a run ends. -/
inductive Ending where
  /-- With an exit code. -/
  | exit (code : Nat)
  /-- By a fault. -/
  | fault (fault : RunFault)
  deriving DecidableEq

/-- The result of a run. -/
structure Outcome where
  /-- How the run ends. -/
  ending : Ending
  /-- The text written to standard output. -/
  stdout : String
  /-- The text written to standard error. -/
  stderr : String
  deriving DecidableEq

namespace ExitCode

/-- All went well. -/
def ok : Nat := 0

/-- The command line is not understood. -/
def badArguments : Nat := 2

/-- There is more than one script. -/
def usage : Nat := 64

/-- The source has errors. -/
def dataError : Nat := 65

/-- The script cannot be read. -/
def noInput : Nat := 66

/-- The settings file is defective. -/
def config : Nat := 78

end ExitCode

namespace CommandLine

/-! ## Scripts -/

/-- The result of scanning the text of a script. -/
def runText (settings : Settings) (ansi : Bool) (source : String) : Outcome :=
  let answer := answer settings ansi source
  { ending := .exit (if answer.faulty then ExitCode.dataError else ExitCode.ok)
    stdout := answer.stdout
    stderr := answer.stderr }

/-- The result of a script that cannot be read. -/
def unreadableScript (path : Path) (reason : String) : Outcome :=
  ⟨.exit ExitCode.noInput, "", "Error: cannot read '" ++ path.render ++ "': " ++ reason ++ "\n"⟩

/-- The result of scanning a script. -/
def runScript (env : Environment) (settings : Settings) (path : Path) : Outcome :=
  match env.files.read path with
  | .ok text => runText settings env.ansi (String.ofList text)
  | .error .nulInPath => ⟨.fault .nulInScript, "", ""⟩
  | .error (.file .notFound) =>
      ⟨.exit ExitCode.noInput, "", "Error: file '" ++ path.render ++ "' does not exist.\n"⟩
  | .error (.file fault) => unreadableScript path (fault.message path)
  | .error (.encoding fault) => unreadableScript path fault.message

/-! ## The prompt -/

/-- The result of scanning the lines of the input, each one by itself. -/
def runPrompt (env : Environment) (settings : Settings) : Outcome :=
  let dialogue := (Dialogue.start env.input).converse settings env.ansi
  ⟨.exit ExitCode.ok, dialogue.stdout, dialogue.stderr⟩

/-! ## The whole run -/

/-- Loads the settings that the arguments ask for, or those of the working directory. -/
def loadSettings (env : Environment) (config : Option ConfigValue) : Except RunFault Settings :=
  match config with
  | some (.path text) => (Settings.load env.files (Path.ofString text)).mapError .load
  | some .separator => .error .configSeparator
  | none =>
      let here : Path := ⟨.workingDirectory env.workingDirectory, []⟩
      (Settings.findIn env.files here).mapError .load

/-- Settings with colour turned off if that is asked for. -/
def applyNoColor (noColor : Bool) (settings : Settings) : Settings :=
  if noColor then { settings with color := false } else settings

end CommandLine

open CommandLine

/-- What is left to do once the arguments and the settings are known. -/
inductive Plan where
  /-- Nothing: the run has ended. -/
  | done (outcome : Outcome)
  /-- Scan a script. -/
  | script (settings : Settings) (path : Path)
  /-- Scan the lines of the input. -/
  | prompt (settings : Settings)

/-- What a run with given arguments has to do. -/
def Plan.ofArguments (env : Environment) (arguments : Arguments) : Plan :=
  if 1 < arguments.scripts.length then
    .done ⟨.exit ExitCode.usage, "", "Usage: loxscan [script]\n"⟩
  else match loadSettings env arguments.config with
    | .error (.load (.settings error)) =>
        .done ⟨.exit ExitCode.config, "", "Error: " ++ error.message ++ "\n"⟩
    | .error fault => .done ⟨.fault fault, "", ""⟩
    | .ok settings =>
        let settings := applyNoColor arguments.noColor settings
        match arguments.scripts with
        | first :: _ => .script settings (Path.ofString first)
        | [] => .prompt settings

/-- What a run with a given command line has to do. -/
def Plan.ofCommandLine (env : Environment) (commandLine : List String) : Plan :=
  match Request.ofArguments commandLine with
  | .error error =>
      .done ⟨.exit ExitCode.badArguments, "", usageLine ++ "loxscan: error: " ++ error.message ++ "\n"⟩
  | .ok .help => .done ⟨.exit ExitCode.ok, helpText, ""⟩
  | .ok (.run arguments) => .ofArguments env arguments

/-- The result of doing what is left to do. -/
def Plan.outcome (env : Environment) : Plan → Outcome
  | done outcome => outcome
  | script settings path => runScript env settings path
  | prompt settings => runPrompt env settings

/-- The result of a run. -/
def CommandLine.run (env : Environment) (commandLine : List String) : Outcome :=
  (Plan.ofCommandLine env commandLine).outcome env

end LoxLexer
