import LoxLexer.Proofs.Concatenation
import LoxLexer.Proofs.RunOutcomes

/-!
# Scripts and prompts

A script is scanned as a whole, and a prompt scans its input line by line. If nothing that a line leaves open can
swallow the lines below it, both find the same: a scan of a text is the scans of its lines put below one
another. Only the line numbers tell the two apart, which a prompt starts anew with every line.
-/

namespace LoxLexer

open Segment

/-! ## Texts on one line -/

/-- The same token on a given line. -/
def Token.onLine (line : Nat) (token : Token) : Token := { token with line := line }

/-- The same error on a given line. -/
def LexicalError.onLine (line : Nat) (error : LexicalError) : LexicalError := { error with line := line }

namespace Segment

/-- The token of a segment depends on the line of the segment by its line only. -/
theorem token?_onLine (segment : Segment) (line line' : Nat) :
    segment.token? line' = (segment.token? line).map (Token.onLine line') := by
  cases segment <;> rfl

/-- The same holds of the error of a segment without line ends. -/
theorem error?_onLine {segment : Segment} (h : segment.newlines = 0) (line line' : Nat) :
    segment.error? line' = (segment.error? line).map (LexicalError.onLine line') := by
  rw [error?, error?, h, Option.map_map]
  rfl

variable {α : Type} {yield : Nat → Segment → Option α} {onLine : Nat → α → α}

/-- A text without line ends yields the same on every line, but for the line, if its segments do. -/
theorem yieldOf_onLine (h : ∀ segment : Segment, segment.newlines = 0 → ∀ line line',
      yield line' segment = (yield line segment).map (onLine line'))
    {text : List Char} (htext : '\n' ∉ text) (line line' : Nat) :
    yieldOf yield line' text = (yieldOf yield line text).map (onLine line') := by
  have hnewlines : ∀ segment ∈ cutAll text, segment.newlines = 0 := by
    intro segment hsegment
    refine List.count_eq_zero.mpr fun hmem => htext ?_
    rw [← flatMap_text_cutAll text]
    exact List.mem_flatMap.mpr ⟨segment, hsegment, hmem⟩
  unfold yieldOf
  generalize cutAll text = segments at hnewlines
  induction segments with
  | nil => rfl
  | cons segment segments ih =>
    have hzero := hnewlines segment (by simp)
    have ih' := ih fun later hlater => hnewlines later (by simp [hlater])
    rw [gather, gather, hzero, Nat.add_zero, Nat.add_zero, ih', h segment hzero line line',
      List.map_append, Option.toList_map]

end Segment

/-! ## Lines below one another -/

namespace CommandLine

section Numbered

variable {α β : Type} (onLine : Nat → α → α) (found : String → List α) (first : Nat)

/-- What is found in each of some lines, put on the lines from a first one on. -/
def numbered (lines : List String) : List α :=
  (lines.zipIdx first).flatMap fun entry => (found entry.1).map (onLine entry.2)

/-- Without lines there is nothing to find. -/
@[simp] theorem numbered_nil : numbered onLine found first [] = [] := rfl

/-- What is found in the first line comes first, and what is found in the other ones is put further down. -/
@[simp] theorem numbered_cons (line : String) (lines : List String) :
    numbered onLine found first (line :: lines) =
      (found line).map (onLine first) ++ numbered onLine found (first + 1) lines := rfl

/-- What does not depend on the line is the same for all lines as for each of them. -/
theorem map_numbered {f : α → β} (h : ∀ place a, f (onLine place a) = f a)
    (lines : List String) :
    (numbered onLine found first lines).map f = (lines.flatMap found).map f := by
  induction lines generalizing first with
  | nil => rfl
  | cons line lines ih =>
    rw [numbered_cons, List.flatMap_cons, List.map_append, List.map_append, ih, List.map_map]
    congr 2
    funext a
    exact h first a

/-- Nothing is found in some lines if nothing is found in any of them. -/
theorem numbered_eq_nil_iff {lines : List String} :
    numbered onLine found first lines = [] ↔ ∀ line ∈ lines, found line = [] := by
  induction lines generalizing first with
  | nil => simp
  | cons line lines ih => simp [ih]

end Numbered

/-- A text yields what its lines yield, each on its own line, if everything is closed at the end of a line. -/
theorem yieldOf_eq_numbered {α : Type} {yield : Nat → Segment → Option α} {onLine : Nat → α → α}
    (h : ∀ segment : Segment, segment.newlines = 0 → ∀ line line',
      yield line' segment = (yield line segment).map (onLine line'))
    (hnewline : ∀ line, yield line newline = none) {text : List Char}
    (hclosed : ∀ line ∈ linesOf text, ∀ segment ∈ cutAll line, segment.isOpen = false) (first : Nat) :
    yieldOf yield first text = numbered onLine (fun line => yieldOf yield 1 line.toList) first
      ((linesOf text).map String.ofList) := by
  induction text using lines_induction generalizing first with
  | nil => simp [linesOf_nil]
  | last line hline hne =>
    rw [linesOf_of_notMem hline hne]
    simpa using yieldOf_onLine h hline 1 first
  | cons line rest hline ih =>
    rw [linesOf_append hline] at hclosed ⊢
    have hbelow := ih (fun later hlater => hclosed later (by simp [hlater])) (first + 1)
    rw [yieldOf_append_newline (hclosed line (by simp)) hnewline, List.count_eq_zero.mpr hline, hbelow,
      yieldOf_onLine h hline 1 first, List.map_cons, numbered_cons, String.toList_ofList]

/-! ## Scans of lines -/

/-- The lexemes of a text: its tokens without the end of the input. -/
def lexemesOf (source : String) : List Token := (scan source).tokens.dropLast

/-- The errors of a text. -/
def errorsOf (source : String) : List LexicalError := (scan source).errors

/-- The tokens of a line are its lexemes and the end of the input. Lexemes are on line one, and so are errors. -/
theorem found_in_line {text line : String} (h : line ∈ inputLines text) :
    (scan line).tokens = lexemesOf line ++ [Token.endOfInput 1] ∧
      (∀ token ∈ lexemesOf line, token.kind ≠ .endOfInput ∧ token.line = 1) ∧
      ∀ error ∈ errorsOf line, error.line = 1 := by
  obtain ⟨chars, hchars, rfl⟩ := List.mem_map.mp h
  have hnewline : '\n' ∉ (String.ofList chars).toList := by
    simpa using newline_notMem_of_mem_linesOf hchars
  obtain ⟨⟨lexemes, htokens, hlexemes⟩, herrors⟩ := scan_line hnewline
  have hdrop : lexemesOf (String.ofList chars) = lexemes := by
    rw [lexemesOf, htokens, List.dropLast_concat]
  rw [hdrop]
  exact ⟨htokens, hlexemes, herrors⟩

/-- **A scan is the scans of its lines.** If nothing is left open in any line of a text, a scan of the text finds
what scans of its lines find, with the lines numbered from one. -/
theorem scan_eq_numbered {text : String}
    (h : ∀ line ∈ inputLines text, ∀ error ∈ errorsOf line, ¬ error.Unterminated) :
    (scan text).tokens = numbered Token.onLine lexemesOf 1 (inputLines text) ++
        [Token.endOfInput ((1 + text.toList.count '\n' : Nat) : Int)] ∧
      (scan text).errors = numbered LexicalError.onLine errorsOf 1 (inputLines text) := by
  have hclosed : ∀ line ∈ linesOf text.toList, ∀ segment ∈ cutAll line, segment.isOpen = false := by
    intro line hline
    have herrors := h (String.ofList line) (List.mem_map.mpr ⟨line, hline, rfl⟩)
    rw [errorsOf, scan_errors, String.toList_ofList] at herrors
    exact isOpen_eq_false_of_errors herrors
  have hlexemes : lexemesOf = fun line => yieldOf token? 1 line.toList := by
    funext line
    rw [lexemesOf, scan_tokens, List.dropLast_concat]
  have herrors : errorsOf = fun line => yieldOf error? 1 line.toList := funext scan_errors
  rw [scan_tokens, scan_errors, hlexemes, herrors]
  rw [yieldOf_eq_numbered (fun segment _ => segment.token?_onLine) (fun _ => rfl) hclosed,
    yieldOf_eq_numbered (fun _ => error?_onLine) (fun _ => rfl) hclosed]
  exact ⟨rfl, rfl⟩

/-! ## Runs -/

/-- The diagnostics of a prompt for some lines are those for all errors in the lines. -/
theorem join_promptDiagnostics (settings : Settings) (ansi : Bool) (lines : List String) :
    String.join (lines.map (promptDiagnostics settings ansi)) =
      diagnosticLines settings ansi (lines.flatMap errorsOf) := by
  induction lines with
  | nil => rfl
  | cons line lines ih =>
    rw [List.map_cons, String.join_cons, ih, List.flatMap_cons, diagnosticLines_append]
    rfl

/-- A prompt prints a diagnostic for a line if there is an error in the line. -/
theorem promptDiagnostics_ne_empty_iff {settings : Settings} {ansi : Bool} {line : String} :
    promptDiagnostics settings ansi line ≠ "" ↔ errorsOf line ≠ [] := by
  rw [promptDiagnostics, ← errorsOf, not_iff_not]
  cases errorsOf line with
  | nil => simp [diagnosticLines]
  | cons error later => simp [diagnosticLines, diagnosticLine]

/-- What a run on a script and a run of a prompt with the same text have in common, and what tells them apart. -/
structure Agreement (shown : Settings) (ansi : Bool) (text : String) (script prompt : Outcome) : Prop where
  /-- The script prints the lexemes of every line with the number of the line, and one end of the input. -/
  script_stdout : script.stdout = tokenLines shown
    (numbered Token.onLine lexemesOf 1 (inputLines text) ++
      [Token.endOfInput ((1 + text.toList.count '\n' : Nat) : Int)])
  /-- It prints the errors in every line with the number of the line. -/
  script_stderr : script.stderr = diagnosticLines shown ansi
    (numbered LexicalError.onLine errorsOf 1 (inputLines text))
  /-- It fails if there is a line for which the prompt prints a diagnostic. -/
  script_ending : script.ending =
    .exit (if ∃ line ∈ inputLines text, promptDiagnostics shown ansi line ≠ "" then 65 else 0)
  /-- The prompt prints the lexemes of every line and the end of the input. -/
  prompt_stdout : prompt.stdout = String.join ((inputLines text).map fun line =>
    shown.prompt ++ tokenLines shown (lexemesOf line ++ [Token.endOfInput 1])) ++ (shown.prompt ++ "\n")
  /-- It prints the errors in every line. -/
  prompt_stderr : prompt.stderr = diagnosticLines shown ansi ((inputLines text).flatMap errorsOf)
  /-- It never fails. -/
  prompt_ending : prompt.ending = .exit 0
  /-- Both print the same lexemes, which do not mark the end of the input. -/
  lexemes : (numbered Token.onLine lexemesOf 1 (inputLines text)).map
      (fun token => (token.kind, token.lexeme, token.literal)) =
    ((inputLines text).flatMap lexemesOf).map fun token => (token.kind, token.lexeme, token.literal)
  /-- Both print the same messages. -/
  messages : (numbered LexicalError.onLine errorsOf 1 (inputLines text)).map LexicalError.message =
    ((inputLines text).flatMap errorsOf).map LexicalError.message
  /-- The prompt prints the lexemes with the number one. -/
  lexemes_first : ∀ token ∈ (inputLines text).flatMap lexemesOf, token.kind ≠ .endOfInput ∧ token.line = 1
  /-- It prints the errors with the number one. -/
  errors_first : ∀ error ∈ (inputLines text).flatMap errorsOf, error.line = 1

end CommandLine

open CommandLine

variable {env : Environment} {config : Option ConfigValue} {noColor : Bool} {settings : Settings}

/-- A run without a script is that of a prompt with the settings that it loads. -/
theorem run_prompt {commandLine : List String}
    (hrequest : Request.ofArguments commandLine = .ok (.run ⟨[], config, noColor⟩))
    (hsettings : loadSettings env config = .ok settings) :
    run env commandLine = runPrompt env (applyNoColor noColor settings) := by
  rw [run_eq_runArguments hrequest, runArguments_of_prompt rfl hsettings]

/-- A run with a script that can be read is that of the text of the script with the settings that the run loads. -/
theorem run_script {commandLine : List String} {script text : String}
    (hrequest : Request.ofArguments commandLine = .ok (.run ⟨[script], config, noColor⟩))
    (hsettings : loadSettings env config = .ok settings)
    (hfile : env.files.read (Path.ofString script) = .ok text.toList) :
    run env commandLine = runText (applyNoColor noColor settings) env.ansi text := by
  rw [run_eq_runArguments hrequest, runArguments_of_script rfl hsettings, runScript, hfile]
  simp only [String.ofList_toList]

/-- **Scripts and prompts agree.** Let a file hold a text without carriage returns, in no line of which a string or a
block comment is left open. A run on the file and a run that prompts for the same text print the same
lexemes and messages, the first one with the numbers of the lines where the second one has the number one,
and the first run fails if there is an error while the second one never does. -/
theorem script_agrees_with_prompt {scriptLine promptLine : List String} {script text : String}
    (hscript : Request.ofArguments scriptLine = .ok (.run ⟨[script], config, noColor⟩))
    (hprompt : Request.ofArguments promptLine = .ok (.run ⟨[], config, noColor⟩))
    (hsettings : loadSettings env config = .ok settings)
    (hfile : env.files.HoldsText (Path.ofString script) text) (hreturn : '\r' ∉ text.toList)
    (hclosed : ∀ line ∈ inputLines text, ∀ error ∈ errorsOf line, ¬ error.Unterminated) :
    Agreement (applyNoColor noColor settings) env.ansi text (run env scriptLine)
      (run { env with input := text } promptLine) := by
  have hscriptRun := run_script hscript hsettings (hfile.read hreturn)
  have hsettings' : loadSettings { env with input := text } config = .ok settings := hsettings
  have hpromptRun := run_prompt hprompt hsettings'
  obtain ⟨htokens, herrors⟩ := scan_eq_numbered hclosed
  rw [runText, answer_eq, htokens, herrors] at hscriptRun
  rw [runPrompt_lines] at hpromptRun
  rw [hscriptRun, hpromptRun]
  generalize applyNoColor noColor settings = shown
  constructor
  case script_stdout => rfl
  case script_stderr => rfl
  case script_ending =>
    have hfaulty : (!(numbered LexicalError.onLine errorsOf 1 (inputLines text)).isEmpty) = true ↔
        ∃ line ∈ inputLines text, promptDiagnostics shown env.ansi line ≠ "" := by
      simp [numbered_eq_nil_iff, promptDiagnostics_ne_empty_iff]
    simp only [hfaulty, ExitCode.dataError, ExitCode.ok]
  case prompt_stdout =>
    have hblocks : ∀ line ∈ inputLines text, promptBlock shown line =
        shown.prompt ++ tokenLines shown (lexemesOf line ++ [Token.endOfInput 1]) := by
      intro line hline
      rw [promptBlock, (found_in_line hline).1]
    dsimp only
    rw [List.map_congr_left hblocks]
  case prompt_stderr => exact join_promptDiagnostics _ _ _
  case prompt_ending => rfl
  case lexemes => exact map_numbered Token.onLine _ _ (fun _ _ => rfl) _
  case messages => exact map_numbered LexicalError.onLine _ _ (fun _ _ => rfl) _
  case lexemes_first =>
    intro token htoken
    obtain ⟨line, hline, hmem⟩ := List.mem_flatMap.mp htoken
    exact (found_in_line hline).2.1 token hmem
  case errors_first =>
    intro error herror
    obtain ⟨line, hline, hmem⟩ := List.mem_flatMap.mp herror
    exact (found_in_line hline).2.2 error hmem

/-- An open string in a comment does not count, and an empty line does: the faulty character is on line three. -/
theorem script_agrees_with_prompt_faulty :
    Request.ofArguments ["a.lox"] = .ok (.run ⟨["a.lox"], none, false⟩) ∧
      Request.ofArguments [] = .ok (.run ⟨[], none, false⟩) ∧
      loadSettings (singleFile "a.lox" "1 // \"é\n\n@ x") none = .ok .default ∧
      (singleFile "a.lox" "1 // \"é\n\n@ x").files.HoldsText (Path.ofString "a.lox")
        "1 // \"é\n\n@ x" ∧
      '\r' ∉ "1 // \"é\n\n@ x".toList ∧
      (∀ line ∈ inputLines "1 // \"é\n\n@ x", ∀ error ∈ errorsOf line, ¬ error.Unterminated) ∧
      Agreement .default false "1 // \"é\n\n@ x"
        (run (singleFile "a.lox" "1 // \"é\n\n@ x") ["a.lox"])
        (run (singleFile "a.lox" "1 // \"é\n\n@ x") []) ∧
      numbered LexicalError.onLine errorsOf 1 (inputLines "1 // \"é\n\n@ x") =
        [⟨3, "Unexpected character."⟩] := by
  have hscript : Request.ofArguments ["a.lox"] = .ok (.run ⟨["a.lox"], none, false⟩) := by decide +kernel
  have hprompt : Request.ofArguments [] = .ok (.run ⟨[], none, false⟩) := by decide +kernel
  have hsettings : loadSettings (singleFile "a.lox" "1 // \"é\n\n@ x") none = .ok .default := by
    decide +kernel
  have hfile := holdsText_singleFile (show (Path.ofString "a.lox").hasNul = false by decide +kernel)
    "1 // \"é\n\n@ x"
  have hreturn : '\r' ∉ "1 // \"é\n\n@ x".toList := by decide +kernel
  have hclosed : ∀ line ∈ inputLines "1 // \"é\n\n@ x", ∀ error ∈ errorsOf line,
      ¬ error.Unterminated := by
    decide +kernel
  have hagree := script_agrees_with_prompt hscript hprompt hsettings hfile hreturn hclosed
  exact ⟨hscript, hprompt, hsettings, hfile, hreturn, hclosed, hagree, by decide +kernel⟩

end LoxLexer
