import LoxLexer.Proofs.PrintedTokens
import LoxLexer.Proofs.RunOutcomes
import LoxLexer.Proofs.ScriptAndPrompt

/-!
# Presentation

Settings choose how tokens and errors are shown, and nothing else depends on them. What there is to show, `Findings`, is
therefore a function of the source alone, and the outcome of a run is the presentation of its findings. To
turn colour off is to present the same findings without the sequences that switch the colour. Where a
run ends before there are any findings, it makes no difference.
-/

namespace LoxLexer

/-! ## Colour sequences -/

namespace Text

/-- A text without the sequences that switch to red and back. -/
def withoutColor : List Char → List Char
  | '\x1B' :: '[' :: '3' :: '1' :: 'm' :: rest => withoutColor rest
  | '\x1B' :: '[' :: '3' :: '9' :: 'm' :: rest => withoutColor rest
  | c :: rest => c :: withoutColor rest
  | [] => []

/-- Only the escape character starts a sequence. -/
theorem withoutColor_cons {c : Char} (h : c ≠ '\x1B') (rest : List Char) :
    withoutColor (c :: rest) = c :: withoutColor rest := by
  rw [withoutColor]
  · rintro _ rfl
    exact absurd rfl h
  · rintro _ rfl
    exact absurd rfl h

/-- A text without the escape character is kept. -/
theorem withoutColor_append {text : List Char} (h : '\x1B' ∉ text) (rest : List Char) :
    withoutColor (text ++ rest) = text ++ withoutColor rest := by
  induction text with
  | nil => rfl
  | cons c text ih =>
    obtain ⟨hc, htext⟩ := not_or.mp (mt List.mem_cons.mpr h)
    rw [List.cons_append, withoutColor_cons (Ne.symm hc), ih htext, List.cons_append]

/-- A text in red is kept, without the sequences around it. -/
theorem withoutColor_red {text : String} (h : '\x1B' ∉ text.toList) (rest : List Char) :
    withoutColor ((CommandLine.red text).toList ++ rest) = text.toList ++ withoutColor rest := by
  have hred : (CommandLine.red text).toList ++ rest = '\x1B' :: '[' :: '3' :: '1' :: 'm' ::
      (text.toList ++ '\x1B' :: '[' :: '3' :: '9' :: 'm' :: rest) := by
    simp [CommandLine.red]
  rw [hred, withoutColor, withoutColor_append h, withoutColor]

end Text

open CommandLine

/-- A text without the sequences that switch the colour. -/
def withoutColor (text : String) : String := String.ofList (Text.withoutColor text.toList)

/-- No escape character stands in what is printed for the errors of a scan. -/
theorem escape_notMem_render {source : String} {error : LexicalError} (h : error ∈ (scan source).errors) :
    '\x1B' ∉ error.render.toList := by
  rw [scan_errors] at h
  obtain ⟨segment, -, line, hyield⟩ := Segment.mem_gather h
  obtain ⟨fault, -, rfl⟩ := Option.map_eq_some_iff.mp hyield
  have hmessage : '\x1B' ∉ fault.message.toList := by cases fault <;> decide
  have hline : ∀ n : Int, '\x1B' ∉ (toString n).toList := by
    intro n hmem
    rcases isDecimal_or_sign_of_mem hmem with hdigit | hsign
    · exact absurd hdigit (by decide)
    · exact absurd hsign (by decide)
  simp only [LexicalError.render, String.toList_append, List.mem_append, not_or]
  exact ⟨⟨⟨by decide, hline _⟩, by decide⟩, hmessage⟩

/-- The lines that report errors without colour are those with colour without the sequences. -/
theorem withoutColor_diagnosticLines (settings : Settings) (ansi : Bool) {errors : List LexicalError}
    (h : ∀ error ∈ errors, '\x1B' ∉ error.render.toList) :
    withoutColor (diagnosticLines settings ansi errors) =
      diagnosticLines { settings with color := false } ansi errors := by
  apply String.toList_injective
  rw [withoutColor, String.toList_ofList, diagnosticLines, diagnosticLines, String.toList_join,
    String.toList_join, List.flatMap_map, List.flatMap_map]
  induction errors with
  | nil => rfl
  | cons error errors ih =>
    obtain ⟨herror, herrors⟩ := List.forall_mem_cons.mp h
    have hend : ∀ (text : String) (below : List Char),
        (text ++ "\n").toList ++ below = text.toList ++ '\n' :: below := by
      intro text below
      rw [String.toList_append, List.append_assoc]
      rfl
    have hline : ∀ rest, Text.withoutColor ((diagnosticLine settings ansi error).toList ++ rest) =
        (diagnosticLine { settings with color := false } ansi error).toList ++ Text.withoutColor rest := by
      intro rest
      rw [diagnosticLine, diagnosticLine, Bool.false_and, if_neg Bool.false_ne_true, hend, hend]
      split
      · rw [Text.withoutColor_red herror, Text.withoutColor_cons (by decide)]
      · rw [Text.withoutColor_append herror, Text.withoutColor_cons (by decide)]
    rw [List.flatMap_cons, List.flatMap_cons, hline, ih herrors]

/-! ## Findings -/

/-- A piece of what is written to standard output. -/
inductive Piece where
  /-- The prompt. -/
  | prompt
  /-- A token. -/
  | token (shown : Token)
  /-- The line end behind the last prompt. -/
  | lineEnd

/-- How a piece is shown: the settings give the text of the prompt, and say whether the number of its line stands in
front of a token. -/
def Piece.present (settings : Settings) : Piece → String
  | .prompt => settings.prompt
  | .token shown => (if settings.showLines then padLeft 4 shown.line ++ " " else "") ++ shown.render ++ "\n"
  | .lineEnd => "\n"

/-- What a run has to show, whatever the settings are. -/
structure Findings where
  /-- How the run ends. -/
  ending : Ending
  /-- What goes to standard output. -/
  pieces : List Piece
  /-- The errors, which go to standard error. -/
  errors : List LexicalError

namespace Findings

/-- The outcome of a run that shows its findings: the settings give the forms of the pieces, and say whether errors
are red where the terminal has colours. -/
def present (settings : Settings) (ansi : Bool) (findings : Findings) : Outcome where
  ending := findings.ending
  stdout := String.join (findings.pieces.map (Piece.present settings))
  stderr := String.join (findings.errors.map fun error =>
    (if settings.color && ansi then red error.render else error.render) ++ "\n")

/-- What there is to show for the text of a script. -/
def ofSource (source : String) : Findings where
  ending := .exit (if (scan source).errors = [] then 0 else 65)
  pieces := (scan source).tokens.map .token
  errors := (scan source).errors

/-- What there is to show for the input of a prompt. -/
def ofInput (input : String) : Findings where
  ending := .exit 0
  pieces := (inputLines input).flatMap (fun line => .prompt :: (scan line).tokens.map .token) ++
    [.prompt, .lineEnd]
  errors := (inputLines input).flatMap fun line => (scan line).errors

variable (settings : Settings) (ansi : Bool)

/-- The lines of tokens present the tokens as pieces. -/
theorem join_present_token (tokens : List Token) :
    String.join ((tokens.map .token).map (Piece.present settings)) = tokenLines settings tokens := by
  rw [List.map_map]
  rfl

/-- A script shows its findings. -/
theorem runText_eq_present (source : String) :
    runText settings ansi source = (ofSource source).present settings ansi := by
  rw [runText_eq, present, ofSource, join_present_token]
  rfl

/-- A prompt shows its findings. -/
theorem runPrompt_eq_present (env : Environment) :
    runPrompt env settings = (ofInput env.input).present settings env.ansi := by
  have hblocks : ∀ lines : List String,
      String.join ((lines.flatMap fun line => .prompt :: (scan line).tokens.map .token).map
        (Piece.present settings)) = String.join (lines.map (promptBlock settings)) := by
    intro lines
    induction lines with
    | nil => rfl
    | cons line lines ih =>
      rw [List.flatMap_cons, List.map_append, String.join_append, ih, List.map_cons, String.join_cons,
        List.map_cons, String.join_cons, join_present_token]
      rfl
  rw [runPrompt_lines, join_promptDiagnostics, present, ofInput, List.map_append, String.join_append, hblocks]
  rfl

/-- Without colour, the same findings are shown without the sequences that switch it. -/
theorem present_without_color (findings : Findings)
    (h : ∀ error ∈ findings.errors, '\x1B' ∉ error.render.toList) :
    findings.present { settings with color := false } ansi =
      { findings.present settings ansi with
        stderr := withoutColor (findings.present settings ansi).stderr } := by
  have hstderr := withoutColor_diagnosticLines settings ansi h
  rw [present, present]
  exact congrArg _ hstderr.symm

/-- No escape character stands in the errors that there are to show. -/
theorem escape_notMem (source : String) :
    (∀ error ∈ (ofSource source).errors, '\x1B' ∉ error.render.toList) ∧
      ∀ error ∈ (ofInput source).errors, '\x1B' ∉ error.render.toList := by
  constructor
  · intro error herror
    exact escape_notMem_render herror
  · intro error herror
    obtain ⟨line, -, hline⟩ := List.mem_flatMap.mp herror
    exact escape_notMem_render hline

end Findings

/-! ## Turning colour off -/

/-- What a run has in common with the one in which colour is turned off, and what tells them apart. -/
structure Decolored (outcome plain : Outcome) : Prop where
  /-- Both runs end in the same way. -/
  ending : plain.ending = outcome.ending
  /-- Both write the same to standard output. -/
  stdout : plain.stdout = outcome.stdout
  /-- A message about the command line, the settings or the script is the same. -/
  message : outcome.ending ∈ [.exit 64, .exit 66, .exit 78] → plain.stderr = outcome.stderr
  /-- Otherwise the same is written to standard error, without the sequences that switch the colour. -/
  diagnostics : outcome.ending ∉ [.exit 64, .exit 66, .exit 78] →
    plain.stderr = withoutColor outcome.stderr

/-- An outcome without diagnostics is the same without colour. -/
theorem decolored_self {outcome : Outcome}
    (h : outcome.ending ∈ [.exit 64, .exit 66, .exit 78] ∨ outcome.stderr = "") :
    Decolored outcome outcome := by
  refine ⟨rfl, rfl, fun _ => rfl, fun hending => ?_⟩
  rw [h.resolve_left hending]
  rfl

/-- Findings that are shown in a run, and the same findings without colour. -/
theorem decolored_present {findings : Findings} {ansi : Bool} {shown plain : Settings}
    (hplain : plain = { shown with color := false })
    (hending : findings.ending ∉ [.exit 64, .exit 66, .exit 78])
    (h : ∀ error ∈ findings.errors, '\x1B' ∉ error.render.toList) :
    Decolored (findings.present shown ansi) (findings.present plain ansi) := by
  rw [hplain, Findings.present_without_color shown ansi findings h]
  exact ⟨rfl, rfl, fun hmessage => absurd hmessage hending, fun _ => rfl⟩

/-- To turn colour off is to replace one setting, also where it is turned off already. -/
theorem applyNoColor_true (noColor : Bool) (settings : Settings) :
    applyNoColor true settings = { applyNoColor noColor settings with color := false } := by
  cases noColor <;> rfl

variable {env : Environment} {arguments : Arguments}

/-- A run on a script, and the same run without colour. -/
theorem decolored_runScript {shown plain : Settings} (hplain : plain = { shown with color := false })
    (path : Path) : Decolored (runScript env shown path) (runScript env plain path) := by
  by_cases hpath : path.hasNul = true
  · have hnul : ∀ settings, runScript env settings path = ⟨.fault .nulInScript, "", ""⟩ := by
      intro settings
      rw [runScript, FileView.read, if_pos hpath]
    rw [hnul, hnul]
    exact decolored_self (.inr rfl)
  by_cases hfile : ∃ text, env.files.HoldsText path text
  · obtain ⟨text, htext⟩ := hfile
    rw [runScript_of_holdsText htext, runScript_of_holdsText htext, Findings.runText_eq_present,
      Findings.runText_eq_present]
    refine decolored_present hplain ?_ (Findings.escape_notMem _).1
    rw [Findings.ofSource]
    split <;> simp
  · obtain ⟨message, -, hrun⟩ :=
      runScript_of_not_holdsText (Bool.eq_false_iff.mpr hpath) (not_exists.mp hfile)
    rw [hrun, hrun]
    exact decolored_self (.inl (by simp))

/-- A run that does not get its settings ends in the same way without colour. -/
theorem decolored_unloaded {fault : RunFault} (hscripts : arguments.scripts.length ≤ 1)
    (h : loadSettings env arguments.config = .error fault) :
    Decolored (runArguments env arguments) (runArguments env { arguments with noColor := true }) := by
  by_cases hreport : ∃ error, fault = .load (.settings error)
  · obtain ⟨error, rfl⟩ := hreport
    have hplain : runArguments env { arguments with noColor := true } = _ :=
      runArguments_of_settingsError hscripts h
    rw [runArguments_of_settingsError hscripts h, hplain]
    exact decolored_self (.inl (by simp))
  · have hplain : runArguments env { arguments with noColor := true } = _ :=
      runArguments_of_fault hscripts h (not_exists.mp hreport)
    rw [runArguments_of_fault hscripts h (not_exists.mp hreport), hplain]
    exact decolored_self (.inr rfl)

/-- **Settings only present.** What a script or a prompt has to show is a function of the source alone: settings give
the prompt and the beginning of the lines of tokens, and choose whether errors are red. To turn colour off in a
run changes none of this but that errors are not red, and it does not change messages about the command line,
the settings or the script. -/
theorem settings_only_present (env : Environment) :
    (∀ source settings, runText settings env.ansi source =
        (Findings.ofSource source).present settings env.ansi) ∧
      (∀ settings, runPrompt env settings = (Findings.ofInput env.input).present settings env.ansi) ∧
      ∀ arguments, Decolored (runArguments env arguments)
        (runArguments env { arguments with noColor := true }) := by
  refine ⟨fun source settings => Findings.runText_eq_present settings env.ansi source,
    fun settings => Findings.runPrompt_eq_present settings env, ?_⟩
  intro ⟨scripts, config, noColor⟩
  match scripts with
  | first :: second :: others =>
    rw [runArguments_of_several (by simp), runArguments_of_several (by simp)]
    exact decolored_self (.inl (by simp))
  | [] =>
    cases hsettings : loadSettings env config with
    | error fault => exact decolored_unloaded (by simp) hsettings
    | ok settings =>
      rw [runArguments_of_prompt rfl hsettings, runArguments_of_prompt rfl hsettings,
        Findings.runPrompt_eq_present, Findings.runPrompt_eq_present]
      exact decolored_present (applyNoColor_true noColor settings) (by simp [Findings.ofInput])
        (Findings.escape_notMem _).2
  | [script] =>
    cases hsettings : loadSettings env config with
    | error fault => exact decolored_unloaded (by simp) hsettings
    | ok settings =>
      rw [runArguments_of_script rfl hsettings, runArguments_of_script rfl hsettings]
      exact decolored_runScript (applyNoColor_true noColor settings) _

end LoxLexer
