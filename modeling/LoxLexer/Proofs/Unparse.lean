import LoxLexer.Proofs.TokenLists

/-!
# Writing tokens as source

`unparse` writes a list of tokens as a source text: line ends up to the line of each token, then its
lexeme and one space. The space keeps the lexemes apart, so that each of them is cut off again as it
was written, and a scan of the text finds the list that was written whenever some scan can find it.
-/

namespace LoxLexer

open Segment

namespace Token

/-- Writes tokens from a given line on: before each token as many line ends as lead to its line, behind
it one space. The line ends that are written are counted, those inside the lexeme too. -/
def unparseFrom (line : Int) : List Token → List Char
  | [] => []
  | token :: tokens =>
      let gap := (token.line - line).toNat
      List.replicate gap '\n' ++ token.lexeme.toList ++ ' ' ::
        unparseFrom (line + gap + token.newlines) tokens

/-- A source text with the given tokens. -/
def unparse (tokens : List Token) : String := String.ofList (unparseFrom 1 tokens)

end Token

/-! ## Cutting what was written -/

namespace Segment

/-- A space is no part of a word or of a numeral. -/
theorem of_mem_head?_space {d : Char} {rest : List Char} (h : d ∈ (' ' :: rest).head?) :
    ¬ IsWordPart d ∧ ¬ IsDecimal d ∧ d ≠ '.' := by
  obtain rfl : ' ' = d := by simpa using h
  decide

/-- A segment that yields a token yields no error. -/
theorem error?_of_token? {segment : Segment} {line : Nat} {token : Token}
    (h : segment.token? line = some token) (line' : Nat) : segment.error? line' = none := by
  cases segment with
  | word | number | string | mark => rfl
  | lineComment | blockComment | blank | newline | openString | openComment | stray =>
    simp [token?] at h

section Yield

variable {α : Type} {yield : Nat → Segment → Option α}

/-- A segment that yields nothing is passed over. -/
theorem yieldOf_append_of_none {segment : Segment} {rest : List Char} {line : Nat}
    (hnext : NextSegment (segment.text ++ rest) segment) (hnone : yield line segment = none) :
    yieldOf yield line (segment.text ++ rest) = yieldOf yield (line + segment.newlines) rest := by
  rw [yieldOf_append yield line hnext, hnone, Option.toList_none, List.nil_append]

/-- Line ends are passed over and lead to a later line. -/
theorem yieldOf_replicate_newline (h : ∀ line, yield line newline = none) (line gap : Nat)
    (rest : List Char) :
    yieldOf yield line (List.replicate gap '\n' ++ rest) = yieldOf yield (line + gap) rest := by
  induction gap generalizing line with
  | zero => rfl
  | succ gap ih =>
    have hnext : NextSegment (newline.text ++ (List.replicate gap '\n' ++ rest)) newline := .newline
    have hstep := yieldOf_append_of_none hnext (h line)
    rw [List.replicate_succ, List.cons_append, ← Nat.add_assoc, Nat.add_right_comm, ← ih (line + 1)]
    exact hstep

/-- A space is passed over. -/
theorem yieldOf_space (h : ∀ line, yield line (blank ' ') = none) (line : Nat) (rest : List Char) :
    yieldOf yield line (' ' :: rest) = yieldOf yield line rest := by
  have hnext : NextSegment ((blank ' ').text ++ rest) (blank ' ') := .blank (by decide)
  exact yieldOf_append_of_none hnext (h line)

end Yield

end Segment

/-! ## Lexemes -/

namespace Kind

/-- How the kinds are spelled that have one lexeme only: as a word, as punctuation, as an operator in
one of its two forms, or as a slash. -/
theorem isFixed_cases {kind : Kind} (h : kind.isFixed = true) :
    (IsWord kind.spelling.toList ∧ ofWord kind.spelling = kind) ∨
      (∃ c ∈ punctuationChars, kind.spelling.toList = [c]) ∨
      (∃ c ∈ operatorChars, kind.spelling.toList = [c] ∨ kind.spelling.toList = [c, '=']) ∨
      kind = slash := by
  cases kind <;> first
    | exact absurd h (by decide)
    | exact .inl (by decide)
    | exact .inr (.inl ⟨_, by decide, rfl⟩)
    | exact .inr (.inr (.inl ⟨_, by decide, .inl rfl⟩))
    | exact .inr (.inr (.inl ⟨_, by decide, .inr rfl⟩))
    | exact .inr (.inr (.inr rfl))

/-- A kind that has one lexeme only is cut off in front of a space. -/
theorem exists_segment {kind : Kind} (h : kind.isFixed = true) :
    ∃ segment : Segment, segment.text = kind.spelling.toList ∧
      (∀ rest, NextSegment (kind.spelling.toList ++ ' ' :: rest) segment) ∧
      ∀ line : Nat, segment.token? line = some ⟨kind, kind.spelling, none, line⟩ := by
  have hmark : (∀ rest, NextSegment (kind.spelling.toList ++ ' ' :: rest) (.mark kind)) →
      ∃ segment : Segment, segment.text = kind.spelling.toList ∧
        (∀ rest, NextSegment (kind.spelling.toList ++ ' ' :: rest) segment) ∧
        ∀ line : Nat, segment.token? line = some ⟨kind, kind.spelling, none, line⟩ := by
    intro hnext
    refine ⟨.mark kind, rfl, hnext, ?_⟩
    intro line
    simp [Segment.token?, Segment.text]
  rcases isFixed_cases h with ⟨hword, hkind⟩ | ⟨c, hc, hspelling⟩ | ⟨c, hc, hspelling | hspelling⟩ | rfl
  · refine ⟨.word kind.spelling.toList, rfl, ?_, ?_⟩
    · intro rest
      exact .word (longestPrefix_isWord hword fun d hd => (of_mem_head?_space hd).1)
    · intro line
      simp [Segment.token?, Segment.text, hkind]
  · apply hmark
    intro rest
    rw [hspelling]
    exact .punctuation hc hspelling
  · apply hmark
    intro rest
    rw [hspelling]
    exact .shortOperator hc hspelling (by simp)
  · apply hmark
    intro rest
    rw [hspelling]
    exact .longOperator hc hspelling
  · apply hmark
    intro rest
    exact .slash (by simp) (by simp)

end Kind

namespace Token

/-- The lexeme of a consistent token is cut off in front of a space, and it yields the token. -/
theorem Consistent.exists_segment {token : Token} (h : token.Consistent) :
    ∃ segment : Segment, segment.text = token.lexeme.toList ∧
      (∀ rest, NextSegment (token.lexeme.toList ++ ' ' :: rest) segment) ∧
      ∀ line : Nat, segment.token? line = some { token with line := line } := by
  cases h with
  | fixed hfixed => exact Kind.exists_segment hfixed
  | @identifier name line hword hkeyword =>
    refine ⟨.word name.toList, rfl, ?_, ?_⟩
    · intro rest
      exact .word (longestPrefix_isWord hword fun d hd => (of_mem_head?_space hd).1)
    · intro line'
      simp [Segment.token?, Segment.text, Kind.ofWord, hkeyword]
  | @number numeral value line hnumeral hvalue =>
    obtain ⟨whole, fraction, hwhole, hfraction, htext⟩ := hnumeral.exists_parts
    have hread := ofText?_numeral hwhole hfraction
    rw [htext, String.ofList_toList, hvalue] at hread
    refine ⟨.number whole fraction, htext, ?_, ?_⟩
    · intro rest
      rw [← htext]
      exact .number hwhole hfraction
        (longestPrefix_number hwhole hfraction fun d hd => (of_mem_head?_space hd).2)
    · intro line'
      simp [Segment.token?, htext, ← Option.some.inj hread]
  | @string value line hquote =>
    have hlexeme : ("\"" ++ value ++ "\"").toList = (Segment.string value.toList).text := by
      simp [Segment.text]
    refine ⟨.string value.toList, hlexeme.symm, ?_, ?_⟩
    · intro rest
      rw [hlexeme, Segment.text, List.append_assoc, List.cons_append]
      exact .string (beforeFirst_singleton_iff.mpr ⟨hquote, _, rfl⟩)
    · intro line'
      simp only [Segment.token?, ← hlexeme, String.ofList_toList]

/-- In front of a space a consistent token is found on the line on which its lexeme starts. -/
theorem Consistent.tokens_lexeme {token : Token} (h : token.Consistent) (line : Nat)
    (rest : List Char) :
    yieldOf token? line (token.lexeme.toList ++ ' ' :: rest) =
      { token with line := line } :: yieldOf token? (line + token.newlines) rest := by
  obtain ⟨segment, htext, hnext, htoken⟩ := h.exists_segment
  have hfirst := yieldOf_append token? line (htext ▸ hnext rest)
  rw [htext, htoken, Segment.newlines, htext, ← newlines, yieldOf_space fun _ => rfl] at hfirst
  exact hfirst

/-- In front of a space a consistent token comes without errors. -/
theorem Consistent.errors_lexeme {token : Token} (h : token.Consistent) (line : Nat)
    (rest : List Char) :
    yieldOf error? line (token.lexeme.toList ++ ' ' :: rest) =
      yieldOf error? (line + token.newlines) rest := by
  obtain ⟨segment, htext, hnext, htoken⟩ := h.exists_segment
  have hnone := error?_of_token? (htoken line) line
  have hfirst := yieldOf_append_of_none (htext ▸ hnext rest) hnone
  rw [htext, Segment.newlines, htext, ← newlines, yieldOf_space fun _ => rfl] at hfirst
  exact hfirst

/-- What is written for a token that stands a number of lines below the line reached. -/
theorem unparseFrom_cons {line gap : Nat} {token : Token}
    (h : token.line = ((line + gap : Nat) : Int)) (tokens : List Token) :
    unparseFrom line (token :: tokens) = List.replicate gap '\n' ++ (token.lexeme.toList ++ ' ' ::
      unparseFrom ((line + gap + token.newlines : Nat) : Int) tokens) := by
  have hgap : (token.line - line).toNat = gap := by omega
  simp only [unparseFrom, hgap, List.append_assoc, List.append_cancel_left_eq]
  push_cast
  rfl

/-- The text that is written for tokens with increasing lines is scanned into these tokens, without
errors, and it ends on the line of its last token. -/
theorem yieldOf_unparseFrom {lexemes : List Token} {line : Nat} {last : Int}
    (hconsistent : ∀ token ∈ lexemes, token.Consistent)
    (hlines : LinesFrom line (lexemes ++ [endOfInput last])) :
    yieldOf token? line (unparseFrom line (lexemes ++ [endOfInput last])) = lexemes ∧
      yieldOf error? line (unparseFrom line (lexemes ++ [endOfInput last])) = [] ∧
      (line : Int) + (unparseFrom line (lexemes ++ [endOfInput last])).count '\n' = last := by
  induction lexemes generalizing line with
  | nil =>
    obtain ⟨gap, hgap⟩ := Int.le.dest hlines.1
    have hline : (endOfInput last).line = ((line + gap : Nat) : Int) := by
      push_cast
      exact hgap.symm
    rw [List.nil_append, unparseFrom_cons hline, yieldOf_replicate_newline fun _ => rfl,
      yieldOf_replicate_newline fun _ => rfl]
    refine ⟨?_, ?_, ?_⟩
    · exact (yieldOf_space (fun _ => rfl) _ _).trans (yieldOf_nil _ _)
    · exact (yieldOf_space (fun _ => rfl) _ _).trans (yieldOf_nil _ _)
    · simp only [endOfInput] at hgap
      simpa [endOfInput, unparseFrom] using hgap
  | cons token lexemes ih =>
    obtain ⟨hle, hlater⟩ := hlines
    obtain ⟨gap, hgap⟩ := Int.le.dest hle
    have hline : token.line = ((line + gap : Nat) : Int) := by
      push_cast
      exact hgap.symm
    rw [hline, ← Nat.cast_add] at hlater
    have htoken : token.Consistent := hconsistent token (by simp)
    have hlexemes : ∀ next ∈ lexemes, next.Consistent := by
      intro next hnext
      exact hconsistent next (by simp [hnext])
    obtain ⟨htokens, herrors, hlast⟩ := ih hlexemes hlater
    rw [List.cons_append, unparseFrom_cons hline, yieldOf_replicate_newline fun _ => rfl,
      yieldOf_replicate_newline fun _ => rfl]
    refine ⟨?_, ?_, ?_⟩
    · rw [htoken.tokens_lexeme, htokens, ← hline]
    · rw [htoken.errors_lexeme, herrors]
    · rw [List.count_append, List.count_replicate_self, List.count_append,
        List.count_cons_of_ne (by decide)]
      rw [newlines] at hlast ⊢
      push_cast at hlast ⊢
      omega

/-- The text that is written for a well-formed list of tokens is scanned into this list, without errors. -/
theorem WellFormed.scan_unparse_eq {tokens : List Token} (h : WellFormed tokens) :
    scan (unparse tokens) = ⟨tokens, []⟩ := by
  obtain ⟨⟨lexemes, last, rfl, hconsistent⟩, hstart, horder⟩ := h
  have hlines : LinesFrom ((1 : Nat) : Int) (lexemes ++ [endOfInput last]) :=
    linesFrom_iff.mpr ⟨hstart, horder⟩
  obtain ⟨htokens, herrors, hlast⟩ := yieldOf_unparseFrom hconsistent hlines
  have htext : (unparse (lexemes ++ [endOfInput last])).toList =
      unparseFrom ((1 : Nat) : Int) (lexemes ++ [endOfInput last]) := by
    rw [unparse, String.toList_ofList]
    rfl
  rw [← Nat.cast_add] at hlast
  rw [scan_eq, htext, htokens, herrors, hlast]

/-- **Token lists can be written as source.** The lists of tokens that scans find are the well-formed
ones, and a list is well-formed exactly if a scan finds it, without errors, in the text that is
written for it. -/
theorem scans_iff_wellFormed (tokens : List Token) :
    ((∃ source, (scan source).tokens = tokens) ↔ WellFormed tokens) ∧
      (scan (unparse tokens) = ⟨tokens, []⟩ ↔ WellFormed tokens) := by
  have hscanned : ∀ {source}, (scan source).tokens = tokens → WellFormed tokens := by
    rintro source rfl
    exact wellFormed_scan source
  constructor
  · constructor
    · rintro ⟨source, h⟩
      exact hscanned h
    · intro h
      exact ⟨unparse tokens, by rw [h.scan_unparse_eq]⟩
  · constructor
    · intro h
      exact hscanned (congrArg Scan.tokens h)
    · exact WellFormed.scan_unparse_eq

end Token

end LoxLexer
