import LoxLexer.Proofs.PromptSession
import LoxLexer.Proofs.TextFiles

/-!
# How runs end

A run that has read its command line counts the scripts, then loads the settings, and only then looks at a script or
at its input. The first of these steps that fails decides how the run ends, and nothing has been printed by
then. So the causes of failure, any number of which can be there at the same time, come in a fixed order, and
each outcome can be told from what is wrong.
-/

namespace LoxLexer

namespace CommandLine

/-- The result of a run with given arguments. -/
def runArguments (env : Environment) (arguments : Arguments) : Outcome :=
  (Plan.ofArguments env arguments).outcome env

variable {env : Environment} {arguments : Arguments} {settings : Settings} {path : Path}

/-- A command line that can be read is run with the arguments that are read off it. -/
theorem run_eq_runArguments {commandLine : List String}
    (h : Request.ofArguments commandLine = .ok (.run arguments)) :
    run env commandLine = runArguments env arguments := by
  rw [run, Plan.ofCommandLine, h]
  rfl

/-! ## The steps of a run -/

/-- Several scripts end a run at once. -/
theorem runArguments_of_several (h : 2 ≤ arguments.scripts.length) :
    runArguments env arguments = ⟨.exit 64, "", "Usage: loxscan [script]\n"⟩ := by
  rw [runArguments, Plan.ofArguments, if_pos (by omega)]
  rfl

/-- With at most one script, a fault of the settings ends a run. A defective settings file is reported. -/
theorem runArguments_of_settingsError {error : SettingsError} (hscripts : arguments.scripts.length ≤ 1)
    (h : loadSettings env arguments.config = .error (.load (.settings error))) :
    runArguments env arguments = ⟨.exit 78, "", "Error: " ++ error.message ++ "\n"⟩ := by
  rw [runArguments, Plan.ofArguments, if_neg (by omega), h]
  rfl

/-- With at most one script, any other fault ends a run without a word. -/
theorem runArguments_of_fault {fault : RunFault} (hscripts : arguments.scripts.length ≤ 1)
    (h : loadSettings env arguments.config = .error fault)
    (hfault : ∀ error, fault ≠ .load (.settings error)) :
    runArguments env arguments = ⟨.fault fault, "", ""⟩ := by
  rw [runArguments, Plan.ofArguments, if_neg (by omega), h]
  split
  next error hreport => exact absurd (Except.error.inj hreport) (hfault error)
  next hother => rw [Except.error.inj hother, Plan.outcome]
  next hloaded => exact absurd hloaded (by simp)

/-- With settings and without a script, a run prompts for its input. -/
theorem runArguments_of_prompt (hscripts : arguments.scripts = [])
    (h : loadSettings env arguments.config = .ok settings) :
    runArguments env arguments = runPrompt env (applyNoColor arguments.noColor settings) := by
  rw [runArguments, Plan.ofArguments, hscripts, if_neg (by simp), h]
  rfl

/-- With settings and a script, a run scans the script. -/
theorem runArguments_of_script {script : String} (hscripts : arguments.scripts = [script])
    (h : loadSettings env arguments.config = .ok settings) :
    runArguments env arguments =
      runScript env (applyNoColor arguments.noColor settings) (Path.ofString script) := by
  rw [runArguments, Plan.ofArguments, hscripts, if_neg (by simp), h]
  rfl

/-! ## Scripts -/

/-- The source that a program finds in a file with a text. -/
def sourceOf (text : String) : String := String.ofList (Text.unifyLineEndings text.toList)

/-- A text is scanned to its end. The run fails if there is an error in the text. -/
theorem runText_eq (settings : Settings) (ansi : Bool) (source : String) :
    runText settings ansi source =
      { ending := .exit (if (scan source).errors = [] then 0 else 65)
        stdout := tokenLines settings (scan source).tokens
        stderr := diagnosticLines settings ansi (scan source).errors } := by
  rw [runText, answer_eq]
  cases (scan source).errors <;> rfl

/-- A script that is a file with a text is scanned. -/
theorem runScript_of_holdsText {text : String} (h : env.files.HoldsText path text) :
    runScript env settings path = runText settings env.ansi (sourceOf text) := by
  rw [runScript, FileView.read_eq_ok_iff.mpr ⟨text, h, rfl⟩]
  rfl

/-- The message about a script that cannot be read. -/
inductive ScriptMessage (view : FileView) (path : Path) : String → Prop
  /-- There is nothing at the path. -/
  | missing : view path = .error .notFound →
      ScriptMessage view path ("Error: file '" ++ path.render ++ "' does not exist.\n")
  /-- There is something, but no text. -/
  | unreadable (reason : String) : view path ≠ .error .notFound →
      ScriptMessage view path ("Error: cannot read '" ++ path.render ++ "': " ++ reason ++ "\n")

/-- A script that is no file with a text is reported, whatever the settings are. -/
theorem runScript_of_not_holdsText (hpath : path.hasNul = false)
    (h : ∀ text, ¬ env.files.HoldsText path text) :
    ∃ message, ScriptMessage env.files path message ∧
      ∀ settings, runScript env settings path = ⟨.exit 66, "", message⟩ := by
  rcases FileView.read_cases_of_not_holdsText hpath h with ⟨fault, hread, hmissing, -⟩ |
    ⟨bytes, fault, hfile, hread⟩
  · by_cases hfault : fault = .notFound
    · subst hfault
      refine ⟨_, .missing (hmissing.mp rfl), fun settings => ?_⟩
      rw [runScript, hread]
      rfl
    · refine ⟨_, .unreadable (fault.message path) (mt hmissing.mpr hfault), fun settings => ?_⟩
      rw [runScript, hread]
      cases fault with
      | notFound => exact absurd rfl hfault
      | denied | notDirectory | isDirectory | nameTooLong => rfl
  · refine ⟨_, .unreadable fault.message (by simp [hfile]), fun settings => ?_⟩
    rw [runScript, hread]
    rfl

end CommandLine

open CommandLine

variable {env : Environment} {arguments : Arguments}

/-- Surroundings in which there is one file, and in which its text is also the input. -/
def singleFile (name text : String) : Environment where
  files := fun path =>
    if path = Path.ofString name then .ok (.file text.toUTF8.data.toList) else .error .notFound
  workingDirectory := "/"
  input := text
  ansi := false

/-- A single file holds its text, whatever the text is. -/
theorem holdsText_singleFile {name : String} (h : (Path.ofString name).hasNul = false) (text : String) :
    (singleFile name text).files.HoldsText (Path.ofString name) text :=
  ⟨h, if_pos rfl⟩

end LoxLexer
