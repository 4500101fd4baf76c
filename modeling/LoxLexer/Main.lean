import LoxLexer.CommandLine.Run

/-!
# The program

The connection between a run and the real surroundings. The files that a run may look at are read
first; a run without a script then answers its input line by line, as the lines come.
-/

namespace LoxLexer.Program

/-- The fault that an error of the operating system stands for. -/
def faultOfError : IO.Error → FileFault
  | .noFileOrDirectory .. => .notFound
  | .permissionDenied .. => .denied
  | .inappropriateType _ code _ => if code = 20 then .notDirectory else .isDirectory
  | .invalidArgument .. => .nameTooLong
  | _ => .notFound

/-- What is at a path. -/
def entryAt (path : Path) : IO (Except FileFault FileEntry) := do
  try
    let bytes ← IO.FS.readBinFile path.render
    return .ok (.file bytes.toList)
  catch error =>
    match faultOfError error with
    | .isDirectory => return .ok .directory
    | fault => return .error fault

/-- The paths that a run with a command line may look at. -/
def pathsOf (workingDirectory : String) (commandLine : List String) : List Path :=
  match Request.ofArguments commandLine with
  | .ok (.run arguments) =>
      let here : Path := ⟨.workingDirectory workingDirectory, []⟩
      let settings := match arguments.config with
        | some (.path text) => Path.ofString text
        | _ => here.child Settings.fileName
      settings :: arguments.scripts.map Path.ofString
  | _ => []

/-- The surroundings of a run, without the text on standard input. -/
def surroundings (commandLine : List String) : IO Environment := do
  let here := (← IO.currentDir).toString
  let known ← (pathsOf here commandLine).mapM fun path => return (path, ← entryAt path)
  return {
    files := fun path => (known.lookup path).getD (.error .notFound)
    workingDirectory := here
    input := ""
    ansi := ← (← IO.getStderr).isTty }

/-- Answers the lines of standard input as they come. -/
partial def answerLines (env : Environment) (settings : Settings) : IO UInt32 := do
  let stdout ← IO.getStdout
  stdout.putStr settings.prompt
  stdout.flush
  let line ← (← IO.getStdin).getLine
  match CommandLine.takeLine? line.toList with
  | none =>
      stdout.putStr "\n"
      return ExitCode.ok.toUInt32
  | some (text, _) =>
      let answer := CommandLine.answer settings env.ansi (String.ofList text)
      IO.eprint answer.stderr
      stdout.putStr answer.stdout
      answerLines env settings

/-- Writes the result of a run and gives its exit code. -/
def finish (outcome : Outcome) : IO UInt32 := do
  IO.print outcome.stdout
  IO.eprint outcome.stderr
  match outcome.ending with
  | .exit code => return code.toUInt32
  | .fault fault => throw (IO.userError fault.message)

end LoxLexer.Program

open LoxLexer in
/-- Runs the command line. -/
def main (commandLine : List String) : IO UInt32 := do
  let env ← Program.surroundings commandLine
  match Plan.ofCommandLine env commandLine with
  | .prompt settings => Program.answerLines env settings
  | plan => Program.finish (plan.outcome env)
