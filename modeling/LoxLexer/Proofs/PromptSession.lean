import LoxLexer.CommandLine.Run
import LoxLexer.Proofs.Answers
import LoxLexer.Proofs.LineNumbers
import LoxLexer.Proofs.TokenLists

/-!
# Sessions at the prompt

A dialogue takes one line after the other off its input. Its lines are the pieces of the input between the line
ends, and each of them is answered as a text of its own, so what a dialogue writes is the concatenation of its
answers. An error in a line, or a string or comment that is left open there, does not reach the next one.
-/

namespace LoxLexer

namespace Text

variable {α : Type} [DecidableEq α] {separator : α}

/-- A text without separators is its only piece. -/
theorem splitAt_of_notMem {text : List α} (h : separator ∉ text) : splitAt separator text = [text] := by
  induction text with
  | nil => rfl
  | cons c text ih =>
    obtain ⟨hc, htext⟩ := not_or.mp (mt List.mem_cons.mpr h)
    rw [splitAt, List.foldr_cons, if_neg (Ne.symm hc), ← splitAt, ih htext, consFirst]

/-- The first piece of a text reaches to the first separator. -/
theorem splitAt_append {piece : List α} (h : separator ∉ piece) (rest : List α) :
    splitAt separator (piece ++ separator :: rest) = piece :: splitAt separator rest := by
  induction piece with
  | nil => simp [splitAt]
  | cons c piece ih =>
    obtain ⟨hc, hpiece⟩ := not_or.mp (mt List.mem_cons.mpr h)
    rw [List.cons_append, splitAt, List.foldr_cons, if_neg (Ne.symm hc), ← splitAt, ih hpiece,
      consFirst]

/-- Every text has a piece. -/
theorem splitAt_ne_nil (separator : α) (text : List α) : splitAt separator text ≠ [] := by
  cases text with
  | nil => simp [splitAt]
  | cons c text =>
    rw [splitAt, List.foldr_cons]
    split
    · simp
    · cases List.foldr _ _ text <;> simp [consFirst]

end Text

namespace CommandLine

/-! ## Lines -/

/-- The lines of a text are its pieces between the line ends, without the last piece if it is empty. -/
def linesOf (text : List Char) : List (List Char) :=
  let pieces := Text.splitAt '\n' text
  if pieces.getLast? = some [] then pieces.dropLast else pieces

/-- A text without characters has no lines. -/
theorem linesOf_nil : linesOf [] = [] := rfl

/-- The first line of a text reaches to the first line end. -/
theorem linesOf_append {line : List Char} (h : '\n' ∉ line) (rest : List Char) :
    linesOf (line ++ '\n' :: rest) = line :: linesOf rest := by
  have hne := Text.splitAt_ne_nil '\n' rest
  have hlast : (line :: Text.splitAt '\n' rest).getLast? = (Text.splitAt '\n' rest).getLast? := by
    rw [List.getLast?_cons_of_ne_nil hne]
  rw [linesOf, linesOf, Text.splitAt_append h, hlast, List.dropLast_cons_of_ne_nil hne]
  split <;> rfl

/-- A text without line ends is a line, if it is not empty. -/
theorem linesOf_of_notMem {line : List Char} (h : '\n' ∉ line) (hne : line ≠ []) :
    linesOf line = [line] := by
  rw [linesOf, Text.splitAt_of_notMem h]
  simp [hne]

/-- There is a line to take off every text that is not empty. -/
theorem eq_nil_of_takeLine? {text : List Char} (h : takeLine? text = none) : text = [] := by
  simpa [takeLine?] using h

/-- A line that is taken off a text is its first one, and the lines of what is left are the others. -/
theorem linesOf_of_takeLine? {text line rest : List Char} (h : takeLine? text = some (line, rest)) :
    '\n' ∉ line ∧ linesOf text = line :: linesOf rest := by
  unfold takeLine? at h
  split at h
  next => simp at h
  next hne =>
    simp only [Option.some.injEq, Prod.mk.injEq] at h
    obtain ⟨hline, hrest⟩ := h
    by_cases hend : '\n' ∈ text
    · obtain ⟨before, after, rfl, hbefore⟩ := List.eq_append_cons_of_mem hend
      rw [Segment.takeWhile_ne hbefore] at hline
      rw [Segment.dropWhile_ne hbefore] at hrest
      subst hline hrest
      exact ⟨hbefore, linesOf_append hbefore _⟩
    · obtain ⟨htake, hdrop⟩ := Segment.takeWhile_dropWhile_of_notMem hend
      rw [htake] at hline
      rw [hdrop] at hrest
      subst hline hrest
      exact ⟨hend, linesOf_of_notMem hend (by simpa using hne)⟩

/-- The lines of the input of a prompt. -/
def inputLines (input : String) : List String := (linesOf input.toList).map String.ofList

/-- Induction on the lines of a text: there is none, or only one and nothing behind it, or a line end stands
behind the first one. -/
@[elab_as_elim]
theorem lines_induction {motive : List Char → Prop} (nil : motive [])
    (last : ∀ line, '\n' ∉ line → line ≠ [] → motive line)
    (cons : ∀ line rest, '\n' ∉ line → motive rest → motive (line ++ '\n' :: rest))
    (text : List Char) : motive text := by
  by_cases hend : '\n' ∈ text
  · obtain ⟨line, rest, htext, hline⟩ := List.eq_append_cons_of_mem hend
    rw [htext]
    exact cons line rest hline (lines_induction nil last cons rest)
  · by_cases hne : text = []
    · rwa [hne]
    · exact last text hend hne
termination_by text.length
decreasing_by
  rw [htext, List.length_append, List.length_cons]
  omega

/-- There are no line ends in lines. -/
theorem newline_notMem_of_mem_linesOf {text line : List Char} (h : line ∈ linesOf text) :
    '\n' ∉ line := by
  induction text using lines_induction with
  | nil => simp [linesOf_nil] at h
  | last only honly hne =>
    rw [linesOf_of_notMem honly hne, List.mem_singleton] at h
    rwa [h]
  | cons first rest hfirst ih =>
    rw [linesOf_append hfirst, List.mem_cons] at h
    rcases h with rfl | h
    · exact hfirst
    · exact ih h

/-! ## The dialogue -/

variable (settings : Settings) (ansi : Bool)

/-- What a prompt writes to standard output for one line. -/
def promptBlock (line : String) : String :=
  settings.prompt ++ tokenLines settings (scan line).tokens

/-- What a prompt writes to standard error for one line. -/
def promptDiagnostics (line : String) : String := diagnosticLines settings ansi (scan line).errors

end CommandLine

open CommandLine

/-- A reply writes the tokens and the errors of the line, and reads nothing. -/
theorem Dialogue.reply_eq (settings : Settings) (ansi : Bool) (line : List Char) (dialogue : Dialogue) :
    dialogue.reply settings ansi line =
      { input := dialogue.input
        stdout := dialogue.stdout ++ tokenLines settings (scan (String.ofList line)).tokens
        stderr := dialogue.stderr ++ promptDiagnostics settings ansi (String.ofList line) } := by
  rw [reply, answer_eq]
  rfl

/-- A dialogue goes on to the end of its input and writes an answer to each of its lines. -/
theorem Dialogue.converse_eq (settings : Settings) (ansi : Bool) (dialogue : Dialogue) :
    dialogue.converse settings ansi =
      { input := []
        stdout := dialogue.stdout ++ String.join (((linesOf dialogue.input).map String.ofList).map
          (promptBlock settings)) ++ settings.prompt ++ "\n"
        stderr := dialogue.stderr ++ String.join (((linesOf dialogue.input).map String.ofList).map
          (promptDiagnostics settings ansi)) } := by
  fun_induction converse settings ansi dialogue with
  | case1 dialogue asked htake =>
    have hinput := eq_nil_of_takeLine? htake
    simp [asked, write, hinput, linesOf_nil]
  | case2 dialogue asked line rest htake ih =>
    obtain ⟨-, hlines⟩ := linesOf_of_takeLine? htake
    rw [ih, reply_eq, hlines]
    simp [asked, write, promptBlock, String.append_assoc]

/-- A prompt ends with success when its input ends, and writes an answer to each line of the input up to then. -/
theorem CommandLine.runPrompt_lines (env : Environment) (settings : Settings) :
    runPrompt env settings =
      { ending := .exit 0
        stdout := String.join ((inputLines env.input).map (promptBlock settings)) ++
          (settings.prompt ++ "\n")
        stderr := String.join ((inputLines env.input).map (promptDiagnostics settings env.ansi)) } := by
  rw [runPrompt, Dialogue.converse_eq]
  simp [Dialogue.start, inputLines, ExitCode.ok, String.append_assoc]

/-! ## Single lines -/

/-- A consistent token does not mark the end of the input. -/
theorem Token.Consistent.kind_ne {token : Token} (h : token.Consistent) : token.kind ≠ .endOfInput := by
  cases h with
  | @fixed kind line hfixed =>
    rintro rfl
    exact absurd hfixed (by decide)
  | identifier | number | string => exact Kind.noConfusion

/-- All that a scan of a text without line ends finds is on the first line, and the end of the input is found
once, behind all lexemes. -/
theorem scan_line {line : String} (h : '\n' ∉ line.toList) :
    (∃ lexemes, (scan line).tokens = lexemes ++ [Token.endOfInput 1] ∧
      ∀ token ∈ lexemes, token.kind ≠ .endOfInput ∧ token.line = 1) ∧
    ∀ error ∈ (scan line).errors, error.line = 1 := by
  have hcount : line.toList.count '\n' = 0 := List.count_eq_zero.mpr h
  have htokens := scan_tokens line
  rw [hcount] at htokens
  constructor
  · obtain ⟨lexemes, last, hending, hconsistent⟩ := (Token.wellFormed_scan line).ending
    refine ⟨_, htokens, ?_⟩
    intro token htoken
    have hlexemes : lexemes = Segment.yieldOf Segment.token? 1 line.toList :=
      (List.append_inj' (hending.symm.trans htokens) rfl).1
    have hbounds := (Segment.pairwise_gather Segment.line_token? _ 1).2 token htoken
    rw [flatMap_text_cutAll, hcount] at hbounds
    refine ⟨(hconsistent token (hlexemes ▸ htoken)).kind_ne, ?_⟩
    push_cast at hbounds
    omega
  · intro error herror
    rw [scan_errors] at herror
    have hbounds := (Segment.pairwise_gather Segment.line_error? _ 1).2 error herror
    rw [flatMap_text_cutAll, hcount] at hbounds
    push_cast at hbounds
    omega

/-- **A session is the concatenation of its lines.** A prompt ends with success when its input ends. Up to then it
writes for each line the prompt, the tokens that a scan of the line finds, the last of which marks the end of
the input, and the errors that the scan finds, all of them on line one. So another line in the place of one
changes what is written for this line, and nothing else. -/
theorem runPrompt_eq (env : Environment) (settings : Settings) :
    runPrompt env settings =
        { ending := .exit 0
          stdout := String.join ((inputLines env.input).map (promptBlock settings)) ++
            (settings.prompt ++ "\n")
          stderr := String.join ((inputLines env.input).map (promptDiagnostics settings env.ansi)) } ∧
      (∀ line ∈ inputLines env.input,
        (∃ lexemes, (scan line).tokens = lexemes ++ [Token.endOfInput 1] ∧
          ∀ token ∈ lexemes, token.kind ≠ .endOfInput ∧ token.line = 1) ∧
        ∀ error ∈ (scan line).errors, error.line = 1) ∧
      ∀ earlier line later other input, inputLines env.input = earlier ++ line :: later →
        inputLines input = earlier ++ other :: later →
        ∃ above below aboveErrors belowErrors,
          runPrompt env settings =
            ⟨.exit 0, above ++ promptBlock settings line ++ below,
              aboveErrors ++ promptDiagnostics settings env.ansi line ++ belowErrors⟩ ∧
          runPrompt { env with input := input } settings =
            ⟨.exit 0, above ++ promptBlock settings other ++ below,
              aboveErrors ++ promptDiagnostics settings env.ansi other ++ belowErrors⟩ := by
  refine ⟨runPrompt_lines env settings, ?_, ?_⟩
  · intro line hline
    obtain ⟨chars, hchars, rfl⟩ := List.mem_map.mp hline
    exact scan_line (by simpa using newline_notMem_of_mem_linesOf hchars)
  · intro earlier line later other input hlines hlines'
    refine ⟨String.join (earlier.map (promptBlock settings)),
      String.join (later.map (promptBlock settings)) ++ (settings.prompt ++ "\n"),
      String.join (earlier.map (promptDiagnostics settings env.ansi)),
      String.join (later.map (promptDiagnostics settings env.ansi)), ?_, ?_⟩
    · rw [runPrompt_lines, hlines]
      simp [String.append_assoc]
    · rw [runPrompt_lines, hlines']
      simp [String.append_assoc]

/-- A line with an open string gives way to one with a faulty character, and the lines around it stay. Whether a
line end stands behind the last line does not matter. -/
theorem runPrompt_eq_middle_line :
    inputLines "1\n\"\n2" = ["1"] ++ "\"" :: ["2"] ∧ inputLines "1\n@\n2\n" = ["1"] ++ "@" :: ["2"] ∧
      ∃ above below aboveErrors belowErrors,
        runPrompt ⟨fun _ => .error .notFound, "/", "1\n\"\n2", true⟩ .default =
          ⟨.exit 0, above ++ promptBlock .default "\"" ++ below,
            aboveErrors ++ promptDiagnostics .default true "\"" ++ belowErrors⟩ ∧
        runPrompt ⟨fun _ => .error .notFound, "/", "1\n@\n2\n", true⟩ .default =
          ⟨.exit 0, above ++ promptBlock .default "@" ++ below,
            aboveErrors ++ promptDiagnostics .default true "@" ++ belowErrors⟩ := by
  have hlines : inputLines "1\n\"\n2" = ["1"] ++ "\"" :: ["2"] := by decide +kernel
  have hlines' : inputLines "1\n@\n2\n" = ["1"] ++ "@" :: ["2"] := by decide +kernel
  exact ⟨hlines, hlines', (runPrompt_eq ⟨fun _ => .error .notFound, "/", "1\n\"\n2", true⟩
    .default).2.2 _ _ _ _ _ hlines hlines'⟩

end LoxLexer
