import LoxLexer.Proofs.NumeralValue
import LoxLexer.Proofs.ScanSemantics
import Mathlib.Data.List.Forall2

/-!
# Scans and the reference lexer

The lexical grammar says which segments a text has. This file says which of them are lexemes and which
are faulty, what token a lexeme denotes and what error a faulty segment is reported as. A scan finds
one token for each lexeme and one error for each faulty segment, in source order, and nothing else.
-/

namespace LoxLexer

namespace Segment

/-- Whether a segment is a lexeme. Comments, blanks and faulty segments are not. -/
def isLexeme : Segment → Bool
  | word _ | number _ _ | string _ | mark _ => true
  | _ => false

/-- Whether a segment is faulty. -/
def isFaulty : Segment → Bool
  | openString _ | openComment _ | stray _ => true
  | _ => false

/-- The token that a lexeme denotes, on whatever line it stands. -/
inductive Denotes : Segment → Token → Prop
  /-- A reserved word is a keyword of its own. -/
  | keyword {chars : List Char} {kind : Kind} {line : Int} : kind ∈ Kind.keywords →
      kind.spelling.toList = chars →
      Denotes (.word chars) ⟨kind, String.ofList chars, none, line⟩
  /-- Any other word is an identifier. -/
  | identifier {chars : List Char} {line : Int} :
      (∀ kind ∈ Kind.keywords, kind.spelling.toList ≠ chars) →
      Denotes (.word chars) ⟨.identifier, String.ofList chars, none, line⟩
  /-- A numeral has the value that is read from its text. -/
  | number {whole fraction : List Char} {value : Binary64} {line : Int} :
      Binary64.ofText? (String.ofList (number whole fraction).text) = some value →
      Denotes (.number whole fraction)
        ⟨.number, String.ofList (number whole fraction).text, some (.number value), line⟩
  /-- A string has the value that stands between its quotes. -/
  | string {body : List Char} {line : Int} :
      Denotes (.string body)
        ⟨.string, String.ofList ('"' :: body ++ ['"']), some (.text (String.ofList body)), line⟩
  /-- Punctuation and operators are spelled in one way. -/
  | mark {kind : Kind} {line : Int} : Denotes (.mark kind) ⟨kind, kind.spelling, none, line⟩

/-- The error that a faulty segment is reported as, on whatever line. -/
inductive ReportedAs : Segment → LexicalError → Prop
  /-- A string that is not closed. -/
  | openString {body : List Char} {line : Int} :
      ReportedAs (.openString body) ⟨line, "Unterminated string."⟩
  /-- A block comment that is not ended. -/
  | openComment {body : List Char} {line : Int} :
      ReportedAs (.openComment body) ⟨line, "Unterminated block comment."⟩
  /-- A character that starts no lexeme. -/
  | stray {c : Char} {line : Int} : ReportedAs (.stray c) ⟨line, "Unexpected character."⟩

/-- A word is classified by the table of keywords. -/
theorem denotes_word (chars : List Char) (line : Int) :
    Denotes (.word chars) ⟨Kind.ofWord (String.ofList chars), String.ofList chars, none, line⟩ := by
  unfold Kind.ofWord
  cases hfound : Kind.ofKeyword? (String.ofList chars) with
  | none =>
    apply Denotes.identifier
    intro kind hkind hspelling
    have hnot := List.find?_eq_none.mp hfound kind hkind
    simp [← hspelling] at hnot
  | some kind =>
    have hspelling : kind.spelling = String.ofList chars := by simpa using List.find?_some hfound
    exact .keyword (List.mem_of_find?_eq_some hfound) (by simp [hspelling])

/-- A segment yields the token that it denotes if it is a lexeme, and none otherwise. -/
theorem token?_of_nextSegment {text : List Char} {segment : Segment} (h : NextSegment text segment)
    (line : Nat) :
    (segment.isLexeme = true ∧ ∃ token, segment.token? line = some token ∧ segment.Denotes token) ∨
      (segment.isLexeme = false ∧ segment.token? line = none) := by
  cases h with
  | word => exact .inl ⟨rfl, _, rfl, denotes_word _ _⟩
  | number hwhole hfraction =>
    exact .inl ⟨rfl, _, rfl, .number (ofText?_numeral hwhole hfraction)⟩
  | string => exact .inl ⟨rfl, _, rfl, .string⟩
  | longOperator | shortOperator | slash | punctuation =>
    refine .inl ⟨rfl, _, rfl, ?_⟩
    rw [text, String.ofList_toList]
    exact .mark
  | openString | lineComment | lastComment | blockComment | openComment | blank | newline | stray =>
    exact .inr ⟨rfl, rfl⟩

/-- A segment yields the error that it is reported as if it is faulty, and none otherwise. -/
theorem error?_eq (segment : Segment) (line : Nat) :
    (segment.isFaulty = true ∧ ∃ error, segment.error? line = some error ∧
        segment.ReportedAs error) ∨
      (segment.isFaulty = false ∧ segment.error? line = none) := by
  cases segment with
  | openString => exact .inl ⟨rfl, _, rfl, .openString⟩
  | openComment => exact .inl ⟨rfl, _, rfl, .openComment⟩
  | stray => exact .inl ⟨rfl, _, rfl, .stray⟩
  | word | number | string | mark | lineComment | blockComment | blank | newline =>
    exact .inr ⟨rfl, rfl⟩

/-- What segments yield is related to those of them that yield something, one by one and in order. -/
theorem forall₂_gather {α : Type} {yield : Nat → Segment → Option α} {Related : Segment → α → Prop}
    {yields : Segment → Bool} {segments : List Segment}
    (h : ∀ segment ∈ segments, ∀ line,
      (yields segment = true ∧ ∃ a, yield line segment = some a ∧ Related segment a) ∨
        (yields segment = false ∧ yield line segment = none)) (line : Nat) :
    List.Forall₂ Related (segments.filter yields) (gather yield line segments) := by
  induction segments generalizing line with
  | nil => exact .nil
  | cons segment segments ih =>
    have ih' := ih (fun s hs => h s (by simp [hs])) (line + segment.newlines)
    rcases h segment (by simp) line with ⟨hyields, a, hyield, hrelated⟩ | ⟨hyields, hyield⟩
    · rw [List.filter_cons_of_pos hyields, gather, hyield]
      exact .cons hrelated ih'
    · rw [List.filter_cons_of_neg (by simp [hyields]), gather, hyield]
      exact ih'

end Segment

/-- **The scan follows the grammar.** A source text has exactly one segmentation by the lexical
grammar, and its segments make up the text. Apart from the end of the input, the tokens of a scan are those
that the lexemes among the segments denote, and its errors are the reports of the faulty segments. -/
theorem scan_follows_grammar (source : String) :
    ∃ segments tokens line,
      (∀ other, Segmentation source.toList other ↔ other = segments) ∧
      segments.flatMap Segment.text = source.toList ∧
      (scan source).tokens = tokens ++ [Token.endOfInput line] ∧
      List.Forall₂ Segment.Denotes (segments.filter Segment.isLexeme) tokens ∧
      List.Forall₂ Segment.ReportedAs (segments.filter Segment.isFaulty) (scan source).errors := by
  refine ⟨Segment.cutAll source.toList, Segment.yieldOf Segment.token? 1 source.toList, _,
    fun other => segmentation_iff, flatMap_text_cutAll source.toList, scan_tokens source, ?_, ?_⟩
  · apply Segment.forall₂_gather
    intro segment hsegment line
    obtain ⟨rest, hnext⟩ := exists_nextSegment_of_mem hsegment
    exact Segment.token?_of_nextSegment hnext line
  · rw [scan_errors]
    exact Segment.forall₂_gather (fun segment _ line => segment.error?_eq line) 1

end LoxLexer
