import LoxLexer.Proofs.ReferenceScan
import Mathlib.Data.List.Chain

/-!
# Well-formed token lists

The parts of a token depend on one another: its kind restricts its lexeme, and its lexeme determines
its value. The lines of a token list increase at least as fast as the line ends inside the lexemes
require. `WellFormed` collects these conditions, and every scan yields a list that meets them.
-/

namespace LoxLexer

namespace Kind

/-- Whether a kind has one lexeme only, which is its spelling. -/
def isFixed : Kind → Bool
  | identifier | string | number | endOfInput => false
  | _ => true

/-- Every keyword has one lexeme only. -/
theorem isFixed_of_mem_keywords : ∀ kind ∈ keywords, kind.isFixed = true := by decide

/-- A kind that is spelled with at most two characters has one lexeme only. -/
theorem isFixed_of_length_le {kind : Kind} (h : kind.spelling.toList.length ≤ 2) :
    kind.isFixed = true := by
  cases kind <;> first | rfl | exact absurd h (by decide)

end Kind

namespace Token

/-- The number of lines that end inside the lexeme of a token. -/
def newlines (token : Token) : Nat := token.lexeme.toList.count '\n'

/-- The kind, the lexeme and the value of a token agree, and it does not mark the end of the input. -/
inductive Consistent : Token → Prop
  /-- Punctuation, operators and keywords. -/
  | fixed {kind : Kind} {line : Int} : kind.isFixed = true →
      Consistent ⟨kind, kind.spelling, none, line⟩
  /-- Words that are not reserved. -/
  | identifier {name : String} {line : Int} : IsWord name.toList → Kind.ofKeyword? name = none →
      Consistent ⟨.identifier, name, none, line⟩
  /-- Numerals with the number that they are read as. -/
  | number {numeral : String} {value : Binary64} {line : Int} : IsNumeral numeral.toList →
      Binary64.ofText? numeral = some value →
      Consistent ⟨.number, numeral, some (.number value), line⟩
  /-- Strings with the text between their quotes. -/
  | string {value : String} {line : Int} : '"' ∉ value.toList →
      Consistent ⟨.string, "\"" ++ value ++ "\"", some (.text value), line⟩

/-- The lines of tokens in a text that starts on the given line: no token stands before the lines
that have ended inside earlier lexemes. -/
def LinesFrom (line : Int) : List Token → Prop
  | [] => True
  | token :: tokens => line ≤ token.line ∧ LinesFrom (token.line + token.newlines) tokens

/-- A list of tokens is one that a scan can find. -/
structure WellFormed (tokens : List Token) : Prop where
  /-- The list ends with the mark for the end of the input, which does not occur earlier. -/
  ending : ∃ lexemes line, tokens = lexemes ++ [endOfInput line] ∧
    ∀ token ∈ lexemes, token.Consistent
  /-- The first line is at least one. -/
  start : ∀ token ∈ tokens.head?, 1 ≤ token.line
  /-- Each line is at least the one on which the lexeme before it ends. -/
  order : tokens.IsChain fun (token next : Token) => token.line + token.newlines ≤ next.line

/-- The lines of tokens increase from one token to the next. -/
theorem linesFrom_iff {line : Int} {tokens : List Token} :
    LinesFrom line tokens ↔ (∀ token ∈ tokens.head?, line ≤ token.line) ∧
      tokens.IsChain fun (token next : Token) => token.line + token.newlines ≤ next.line := by
  induction tokens generalizing line with
  | nil => simp [LinesFrom]
  | cons token tokens ih => simp [LinesFrom, List.isChain_cons, ih]

/-- A text may start on an earlier line than its first token. -/
theorem LinesFrom.of_le {line line' : Int} {tokens : List Token} (h : LinesFrom line' tokens)
    (hle : line ≤ line') : LinesFrom line tokens := by
  cases tokens with
  | nil => trivial
  | cons token tokens => exact ⟨hle.trans h.1, h.2⟩

/-- A token that a segment yields is consistent. -/
theorem consistent_of_token? {text : List Char} {segment : Segment} {line : Nat} {token : Token}
    (hnext : NextSegment text segment) (htoken : segment.token? line = some token) :
    token.Consistent := by
  cases hnext with
  | @word _ chars hlongest =>
    obtain rfl := Option.some.inj htoken
    unfold Kind.ofWord
    cases hfound : Kind.ofKeyword? (String.ofList chars) with
    | none => exact .identifier (by simpa [Segment.text] using hlongest.member) hfound
    | some kind =>
      have hspelling : kind.spelling = String.ofList chars := by simpa using List.find?_some hfound
      rw [Segment.text, ← hspelling]
      exact .fixed (Kind.isFixed_of_mem_keywords kind (List.mem_of_find?_eq_some hfound))
  | number hwhole hfraction hlongest =>
    obtain rfl := Option.some.inj htoken
    exact .number (by simpa using hlongest.member) (ofText?_numeral hwhole hfraction)
  | @string _ body hbody =>
    obtain rfl := Option.some.inj htoken
    have hlexeme : String.ofList (Segment.string body).text = "\"" ++ String.ofList body ++ "\"" := by
      apply String.toList_injective
      simp [Segment.text]
    rw [hlexeme]
    exact .string (by simpa using (beforeFirst_singleton_iff.mp hbody).1)
  | longOperator _ hspelling | shortOperator _ hspelling | punctuation _ hspelling =>
    obtain rfl := Option.some.inj htoken
    rw [Segment.text, String.ofList_toList]
    exact .fixed (Kind.isFixed_of_length_le (by simp [hspelling]))
  | slash =>
    obtain rfl := Option.some.inj htoken
    exact .fixed rfl
  | openString | lineComment | lastComment | blockComment | openComment | blank | newline | stray =>
    simp [Segment.token?] at htoken

/-- A token that a segment yields stands on the line of the segment, and the same lines end inside both. -/
theorem line_newlines_of_token? {segment : Segment} {line : Nat} {token : Token}
    (htoken : segment.token? line = some token) :
    token.line = line ∧ token.newlines = segment.newlines := by
  cases segment with
  | word | number | string | mark =>
    obtain rfl := Option.some.inj htoken
    exact ⟨rfl, by simp [newlines, Segment.newlines]⟩
  | lineComment | blockComment | blank | newline | openString | openComment | stray =>
    simp [Segment.token?] at htoken

/-- The tokens that segments yield stand on the lines that the segments lead to, and tokens that stand
behind the segments may follow. -/
theorem linesFrom_gather {segments : List Segment} {line : Nat} {later : List Token}
    (h : LinesFrom ((line + (segments.map Segment.newlines).sum : Nat) : Int) later) :
    LinesFrom line (Segment.gather Segment.token? line segments ++ later) := by
  induction segments generalizing line with
  | nil => simpa [Segment.gather] using h
  | cons segment segments ih =>
    rw [List.map_cons, List.sum_cons, ← Nat.add_assoc] at h
    have ih' := ih h
    rw [Segment.gather]
    cases htoken : segment.token? line with
    | none => exact ih'.of_le (by omega)
    | some token =>
      obtain ⟨hline, hnewlines⟩ := line_newlines_of_token? htoken
      refine ⟨hline.ge, ?_⟩
      rw [hline, hnewlines]
      exact ih'

/-- Every scan yields a well-formed list of tokens. -/
theorem wellFormed_scan (source : String) : WellFormed (scan source).tokens := by
  have hnewlines : ((Segment.cutAll source.toList).map Segment.newlines).sum =
      source.toList.count '\n' := by
    have hcount := List.count_flatMap (l := Segment.cutAll source.toList) (f := Segment.text)
      (x := '\n')
    rw [flatMap_text_cutAll] at hcount
    exact hcount.symm
  have hlines : LinesFrom ((1 : Nat) : Int) (scan source).tokens := by
    rw [scan_tokens]
    refine linesFrom_gather ⟨?_, trivial⟩
    rw [hnewlines]
    exact le_rfl
  obtain ⟨hstart, horder⟩ := linesFrom_iff.mp hlines
  refine ⟨⟨_, _, scan_tokens source, ?_⟩, hstart, horder⟩
  intro token htoken
  obtain ⟨segment, hsegment, line, hyield⟩ := Segment.mem_gather htoken
  obtain ⟨rest, hnext⟩ := exists_nextSegment_of_mem hsegment
  exact consistent_of_token? hnext hyield

end Token

end LoxLexer
