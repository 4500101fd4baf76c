import LoxLexer.Proofs.PrintedNumbers
import LoxLexer.Proofs.RunOutcomes

/-!
# Lines of printed tokens

A script is answered with the printed form of each of its tokens and a line end behind it. Lexemes and the texts of
strings are printed as they are, so the printed form of a string over several lines has each of its line ends twice. All
other printed forms are single lines.
-/

namespace LoxLexer

/-! ## Printed forms -/

namespace Binary64

/-- A number is printed on one line. -/
theorem newline_notMem_text (x : Binary64) : '\n' ∉ x.text.toList := by
  have hmagnitude : ∀ rank, '\n' ∉ magnitudeText literalLayout rank :=
    fun rank hmem => absurd (mem_magnitudeText hmem) (by decide)
  rw [text, String.toList_ofList]
  cases x with
  | nan => decide
  | signed negative rank =>
    rw [textChars]
    split_ifs <;> simp [hmagnitude]

end Binary64

namespace Kind

/-- The name of a kind and its spelling are printed on one line. -/
theorem newline_notMem_name_spelling (kind : Kind) :
    '\n' ∉ kind.name.toList ∧ '\n' ∉ kind.spelling.toList := by
  cases kind <;> decide

end Kind

namespace Token

/-- The value of a token is printed with the line ends of its lexeme, and only the lexemes of strings have any. -/
theorem IsFound.count_newline {token : Token} (h : token.IsFound) :
    ((token.literal.map Literal.render).getD "").toList.count '\n' = token.newlines ∧
      (token.kind ≠ .string → token.newlines = 0) := by
  rcases h with h | ⟨line, rfl⟩
  · cases h with
    | @fixed kind line hfixed =>
      have hnone : newlines ⟨kind, kind.spelling, none, line⟩ = 0 :=
        List.count_eq_zero.mpr kind.newline_notMem_name_spelling.2
      rw [hnone]
      exact ⟨rfl, fun _ => rfl⟩
    | @identifier name line hword =>
      have hnone : newlines ⟨.identifier, name, none, line⟩ = 0 :=
        List.count_eq_zero.mpr fun hmem => absurd (isWordPart_of_mem hword hmem) (by decide)
      rw [hnone]
      exact ⟨rfl, fun _ => rfl⟩
    | @number numeral value line hnumeral =>
      obtain ⟨whole, fraction, hwhole, hfraction, htext⟩ := hnumeral.exists_parts
      have hnone : newlines ⟨.number, numeral, some (.number value), line⟩ = 0 := by
        refine List.count_eq_zero.mpr fun hmem => ?_
        exact absurd (isDecimal_or_point_of_mem hwhole hfraction (htext ▸ hmem)) (by decide)
      rw [hnone]
      exact ⟨List.count_eq_zero.mpr value.newline_notMem_text, fun _ => rfl⟩
    | string =>
      refine ⟨?_, fun hkind => absurd rfl hkind⟩
      simp [newlines, Literal.render]
  · exact ⟨rfl, fun _ => rfl⟩

end Token

namespace CommandLine

/-- The printed form of a token, behind its line if lines are shown. -/
def printedForm (settings : Settings) (token : Token) : String :=
  (if settings.showLines then padLeft 4 token.line ++ " " else "") ++ token.render

/-- There are no line ends in a line number. -/
theorem newline_notMem_padLeft (width : ℕ) (n : ℤ) : '\n' ∉ (padLeft width n).toList := by
  rw [padLeft, String.toList_append, String.toList_ofList]
  intro hmem
  rcases List.mem_append.mp hmem with hspace | hnumber
  · exact absurd (List.eq_of_mem_replicate hspace) (by decide)
  · rcases isDecimal_or_sign_of_mem hnumber with hdigit | hsign
    · exact absurd hdigit (by decide)
    · exact absurd hsign (by decide)

/-- The line ends inside the lexeme of a token occur twice in its printed form, and there are no others. -/
theorem count_newline_printedForm (settings : Settings) {token : Token} (h : token.IsFound) :
    (printedForm settings token).toList.count '\n' = 2 * token.newlines := by
  have hshown : (if settings.showLines then padLeft 4 token.line ++ " " else "").toList.count '\n' = 0 := by
    rw [List.count_eq_zero]
    split_ifs
    · simp [newline_notMem_padLeft]
    · simp
  have hname : token.kind.name.toList.count '\n' = 0 :=
    List.count_eq_zero.mpr token.kind.newline_notMem_name_spelling.1
  have hspace : " ".toList.count '\n' = 0 := by decide
  have hvalue := h.count_newline.1
  rw [printedForm, Token.render]
  simp only [String.toList_append, List.count_append, hshown, hname, hspace, hvalue]
  rw [Token.newlines]
  omega

/-- The printed form of a token is one line unless the token is a string over several lines. -/
theorem newline_notMem_printedForm_iff (settings : Settings) {token : Token} (h : token.IsFound) :
    '\n' ∉ (printedForm settings token).toList ↔ (token.kind = .string → '\n' ∉ token.lexeme.toList) := by
  have hcount := count_newline_printedForm settings h
  have hother := h.count_newline.2
  rw [← List.count_eq_zero, ← List.count_eq_zero, hcount, ← Token.newlines]
  constructor
  · intro hzero _
    omega
  · intro hstring
    by_cases hkind : token.kind = .string
    · rw [hstring hkind]
    · rw [hother hkind]

/-! ## Lines -/

theorem join_cons_newline (text : String) (texts : List String) :
    (String.join ((text :: texts).map (· ++ "\n"))).toList =
      text.toList ++ '\n' :: (String.join (texts.map (· ++ "\n"))).toList := by
  simp

/-- A text in front of a line end adds a line for this line end and one for each of its own. -/
theorem length_linesOf_append (text rest : List Char) :
    (linesOf (text ++ '\n' :: rest)).length = text.count '\n' + 1 + (linesOf rest).length := by
  induction text using lines_induction with
  | nil =>
    rw [linesOf_append List.not_mem_nil, List.length_cons, List.count_nil]
    omega
  | last line hline _ =>
    rw [linesOf_append hline, List.length_cons, List.count_eq_zero.mpr hline]
    omega
  | cons line behind hline ih =>
    rw [List.append_assoc, List.cons_append, linesOf_append hline, List.length_cons, ih, List.count_append,
      List.count_cons_self, List.count_eq_zero.mpr hline]
    omega

/-- Texts that are printed below one another take a line each, and one more for each of their line ends. -/
theorem length_linesOf_join (texts : List String) :
    (linesOf (String.join (texts.map (· ++ "\n"))).toList).length =
      (texts.map fun text => text.toList.count '\n' + 1).sum := by
  induction texts with
  | nil => rfl
  | cons text texts ih => rw [join_cons_newline, length_linesOf_append, ih, List.map_cons, List.sum_cons]

/-- The lines of texts that are printed below one another are these texts if and only if each of them is one line. -/
theorem linesOf_join_iff {texts : List String} :
    linesOf (String.join (texts.map (· ++ "\n"))).toList = texts.map String.toList ↔
      ∀ text ∈ texts, '\n' ∉ text.toList := by
  constructor
  · intro h text htext
    have hline : text.toList ∈ linesOf (String.join (texts.map (· ++ "\n"))).toList := by
      rw [h]
      exact List.mem_map_of_mem htext
    exact newline_notMem_of_mem_linesOf hline
  · intro h
    induction texts with
    | nil => rfl
    | cons text texts ih =>
      have hfirst := h text List.mem_cons_self
      have hrest := ih fun other hother => h other (List.mem_cons_of_mem text hother)
      rw [join_cons_newline, linesOf_append hfirst, hrest, List.map_cons]

/-- Printed forms below one another take a line each, and two more for each line end inside a lexeme. -/
theorem sum_count_printedForm (settings : Settings) {tokens : List Token} (h : ∀ token ∈ tokens, token.IsFound) :
    ((tokens.map (printedForm settings)).map fun text => text.toList.count '\n' + 1).sum =
      tokens.length + 2 * (tokens.map Token.newlines).sum := by
  induction tokens with
  | nil => rfl
  | cons token tokens ih =>
    have hfirst := count_newline_printedForm settings (h token List.mem_cons_self)
    have hrest := ih fun other hother => h other (List.mem_cons_of_mem token hother)
    simp only [List.map_cons, List.sum_cons, List.length_cons, hfirst, hrest]
    omega

end CommandLine

open CommandLine

variable {env : Environment} {settings : Settings} {path : Path} {text : String}

/-- **The lines that a script is answered with.** Each token of the text is printed with its printed form and a line end
behind it. This gives a line for each token and two more for each line end inside a lexeme, so the lines are the printed
forms of the tokens if and only if no string goes over several lines. -/
theorem lines_of_script (h : env.files.HoldsText path text) :
    (runScript env settings path).stdout =
        String.join ((scan (sourceOf text)).tokens.map fun token => printedForm settings token ++ "\n") ∧
      (linesOf (runScript env settings path).stdout.toList).length =
        (scan (sourceOf text)).tokens.length + 2 * ((scan (sourceOf text)).tokens.map Token.newlines).sum ∧
      (linesOf (runScript env settings path).stdout.toList =
          (scan (sourceOf text)).tokens.map (fun token => (printedForm settings token).toList) ↔
        ∀ token ∈ (scan (sourceOf text)).tokens, token.kind = .string → '\n' ∉ token.lexeme.toList) := by
  have hfound := (Token.wellFormed_scan (sourceOf text)).isFound
  have hstdout : (runScript env settings path).stdout =
      String.join (((scan (sourceOf text)).tokens.map (printedForm settings)).map (· ++ "\n")) := by
    rw [runScript_of_holdsText h, runText_eq, List.map_map]
    rfl
  have hforms : (scan (sourceOf text)).tokens.map (fun token => (printedForm settings token).toList) =
      ((scan (sourceOf text)).tokens.map (printedForm settings)).map String.toList := by
    rw [List.map_map]
    rfl
  refine ⟨?_, ?_, ?_⟩
  · rw [hstdout, List.map_map]
    rfl
  · rw [hstdout, length_linesOf_join, sum_count_printedForm settings hfound]
  · rw [hstdout, hforms, linesOf_join_iff, List.forall_mem_map]
    exact forall₂_congr fun token htoken => newline_notMem_printedForm_iff settings (hfound token htoken)

/-- The answer to a string over three lines and a number, where lines are shown: three tokens on seven lines. -/
theorem lines_of_script_split_string :
    (singleFile "a.lox" "\"a\nb\nc\" 1").files.HoldsText (Path.ofString "a.lox") "\"a\nb\nc\" 1" ∧
      (linesOf (runScript (singleFile "a.lox" "\"a\nb\nc\" 1") { showLines := true }
        (Path.ofString "a.lox")).stdout.toList).length = 3 + 2 * 2 ∧
      linesOf (runScript (singleFile "a.lox" "\"a\nb\nc\" 1") { showLines := true }
          (Path.ofString "a.lox")).stdout.toList ≠
        (scan (sourceOf "\"a\nb\nc\" 1")).tokens.map
          fun token => (printedForm { showLines := true } token).toList := by
  have hfile := holdsText_singleFile (show (Path.ofString "a.lox").hasNul = false by decide +kernel)
    "\"a\nb\nc\" 1"
  obtain ⟨-, hlength, hlines⟩ := @lines_of_script _ { showLines := true } _ _ hfile
  refine ⟨hfile, hlength.trans (by decide +kernel), fun heq => ?_⟩
  exact absurd (hlines.mp heq) (by decide +kernel)

/-- Tokens are not printed on one line each. The two tokens of a text with a string over two lines take four lines. -/
theorem not_one_line_per_token :
    (singleFile "a.lox" "\"a\nb\"").files.HoldsText (Path.ofString "a.lox") "\"a\nb\"" ∧
      (scan (sourceOf "\"a\nb\"")).tokens.length = 2 ∧
      (runScript (singleFile "a.lox" "\"a\nb\"") .default (Path.ofString "a.lox")).stdout =
        "STRING \"a\nb\" a\nb\nEOF  \n" ∧
      (linesOf (runScript (singleFile "a.lox" "\"a\nb\"") .default
        (Path.ofString "a.lox")).stdout.toList).length = 4 := by
  refine ⟨holdsText_singleFile (by decide +kernel) _, ?_, ?_, ?_⟩
  · decide +kernel
  · decide +kernel
  · decide +kernel

end LoxLexer
