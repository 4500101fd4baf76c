import LoxLexer.Proofs.ReferenceScan

/-!
# Line numbers

A session counts lines as it goes: a token carries the line on which its segment starts, an error the line
on which its segment ends. This file shows that every line number is determined by the line ends in
a part of the source, whatever the segments in that part are, and that line numbers never decrease.
-/

namespace LoxLexer

/-- The line that is reached behind a text, counted from one. -/
def lineAfter (text : List Char) : Int := 1 + text.count '\n'

namespace Segment

/-- The segments of a text, each with what stands in front of it. -/
def located (before : List Char) : List Segment → List (List Char × Segment)
  | [] => []
  | segment :: segments => (before, segment) :: located (before ++ segment.text) segments

/-- The error that a segment of a source text is reported as. A character that starts no lexeme is
reported where it stands, and a string or comment without an end at the end of the source. -/
def report? (source : List Char) : List Char × Segment → Option LexicalError
  | (before, .stray _) => some ⟨lineAfter before, "Unexpected character."⟩
  | (_, .openString _) => some ⟨lineAfter source, "Unterminated string."⟩
  | (_, .openComment _) => some ⟨lineAfter source, "Unterminated block comment."⟩
  | _ => none

/-- A lexeme yields a token with its text and the line on which it starts. -/
theorem token?_lexeme_line (segment : Segment) (line : Nat) :
    (segment.token? line).map (fun token => (token.lexeme, token.line)) =
      if segment.isLexeme then some (String.ofList segment.text, (line : Int)) else none := by
  cases segment <;> rfl

/-- The lexemes among located segments, as texts with the lines on which they start. -/
theorem gather_token?_lexeme_line (before : List Char) (segments : List Segment) :
    (gather token? (1 + before.count '\n') segments).map (fun token => (token.lexeme, token.line)) =
      ((located before segments).filter (·.2.isLexeme)).map
        fun place => (String.ofList place.2.text, lineAfter place.1) := by
  induction segments generalizing before with
  | nil => rfl
  | cons segment segments ih =>
    have ih' := ih (before ++ segment.text)
    rw [List.count_append, ← Nat.add_assoc] at ih'
    have hhead := token?_lexeme_line segment (1 + before.count '\n')
    rw [gather, located, List.map_append, newlines, ih']
    cases hlexeme : segment.isLexeme with
    | true =>
      rw [hlexeme, if_pos rfl] at hhead
      obtain ⟨token, htoken, hplace⟩ := Option.map_eq_some_iff.mp hhead
      rw [htoken, List.filter_cons_of_pos (by simpa using hlexeme)]
      simp [hplace, lineAfter]
    | false =>
      rw [hlexeme, if_neg Bool.false_ne_true] at hhead
      rw [Option.map_eq_none_iff.mp hhead, List.filter_cons_of_neg (by simp [hlexeme])]
      rfl

/-- The error of a segment is reported on the line that the grammar leads to: no line ends in
a character that starts nothing, and nothing follows a string or comment without an end. -/
theorem error?_eq_report? {segment : Segment} {rest : List Char}
    (h : NextSegment (segment.text ++ rest) segment) (before : List Char) :
    segment.error? (1 + before.count '\n') = report? (before ++ segment.text ++ rest) (before, segment) := by
  generalize htext : segment.text ++ rest = text at h
  cases h with
  | openString =>
    obtain rfl : rest = [] := by simpa [Segment.text] using htext
    simp [error?, fault?, report?, lineAfter, newlines, SourceFault.message, Int.add_assoc]
  | openComment =>
    obtain rfl : rest = [] := by simpa [Segment.text] using htext
    simp [error?, fault?, report?, lineAfter, newlines, SourceFault.message, Int.add_assoc]
  | @stray c _ hsign =>
    have hc : c ≠ '\n' := by
      rintro rfl
      exact hsign (by decide)
    simp [error?, fault?, report?, lineAfter, newlines, Segment.text, SourceFault.message, hc]
  | word | number | string | lineComment | lastComment | blockComment | longOperator | shortOperator
  | slash | punctuation | blank | newline => rfl

/-- The errors of a text that stands behind another one are the reports of its located segments. -/
theorem gather_error?_eq {text : List Char} {segments : List Segment}
    (h : Segmentation text segments) (before : List Char) :
    gather error? (1 + before.count '\n') segments =
      (located before segments).filterMap (report? (before ++ text)) := by
  induction h generalizing before with
  | nil => rfl
  | @cons text rest segment segments hnext htext _ ih =>
    subst htext
    have ih' := ih (before ++ segment.text)
    rw [List.count_append, ← Nat.add_assoc] at ih'
    rw [gather, located, newlines, error?_eq_report? hnext, ih', ← List.append_assoc]
    cases hreport : report? (before ++ segment.text ++ rest) (before, segment) with
    | none => rw [List.filterMap_cons_none hreport]; rfl
    | some error => rw [List.filterMap_cons_some hreport]; rfl

/-- What segments yield is in the order of its lines, between the line on which the segments start and
the line on which they end, if the same holds of what a single segment yields. -/
theorem pairwise_gather {α : Type} {yield : Nat → Segment → Option α} {lineOf : α → Int}
    (h : ∀ segment line, ∀ a ∈ yield line segment,
      (line : Int) ≤ lineOf a ∧ lineOf a ≤ line + segment.newlines)
    (segments : List Segment) (line : Nat) :
    (gather yield line segments).Pairwise (lineOf · ≤ lineOf ·) ∧
      ∀ a ∈ gather yield line segments, (line : Int) ≤ lineOf a ∧
        lineOf a ≤ line + ((segments.flatMap text).count '\n' : Nat) := by
  induction segments generalizing line with
  | nil => simp [gather]
  | cons segment segments ih =>
    obtain ⟨hsorted, hbounds⟩ := ih (line + segment.newlines)
    rw [gather]
    constructor
    · refine List.pairwise_append.mpr ⟨?_, hsorted, ?_⟩
      · cases yield line segment <;> simp
      · intro a ha b hb
        have hle := (h segment line a (by simpa using ha)).2
        have hle' := (hbounds b hb).1
        push_cast at hle'
        omega
    · intro a ha
      rw [List.flatMap_cons, List.count_append, ← newlines]
      rcases List.mem_append.mp ha with ha | ha
      · have hbound := h segment line a (by simpa using ha)
        push_cast
        omega
      · have hbound := hbounds a ha
        push_cast at hbound ⊢
        omega

/-- A token carries the line on which its segment starts. -/
theorem line_token? (segment : Segment) (line : Nat) : ∀ token ∈ segment.token? line,
    (line : Int) ≤ token.line ∧ token.line ≤ line + segment.newlines := by
  intro token htoken
  have hplace := token?_lexeme_line segment line
  rw [Option.mem_def.mp htoken, Option.map_some] at hplace
  split at hplace
  · have hline : token.line = line := (Prod.mk.inj (Option.some.inj hplace)).2
    omega
  · simp at hplace

/-- An error carries the line on which its segment ends. -/
theorem line_error? (segment : Segment) (line : Nat) : ∀ error ∈ segment.error? line,
    (line : Int) ≤ error.line ∧ error.line ≤ line + segment.newlines := by
  intro error herror
  obtain ⟨fault, _, rfl⟩ := Option.map_eq_some_iff.mp herror
  dsimp only
  omega

end Segment

/-- **Line numbers count line ends.** A token carries the line that is reached in front of its lexeme,
and the end of the input the line that is reached behind the source. A character that starts no lexeme
is reported on the line on which it stands, and a string or comment without an end on the last line.
So the lines of the tokens never decrease, nor do those of the errors. -/
theorem lines_count_line_ends (source : String) :
    ∃ segments, Segmentation source.toList segments ∧
      (scan source).tokens.map (fun token => (token.lexeme, token.line)) =
        ((Segment.located [] segments).filter (·.2.isLexeme)).map
            (fun place => (String.ofList place.2.text, lineAfter place.1)) ++
          [("", lineAfter source.toList)] ∧
      (scan source).errors =
        (Segment.located [] segments).filterMap (Segment.report? source.toList) ∧
      ((scan source).tokens.map Token.line).Pairwise (· ≤ ·) ∧
      ((scan source).errors.map LexicalError.line).Pairwise (· ≤ ·) := by
  have hsegmentation := segmentation_iff.mpr (rfl : Segment.cutAll source.toList = _)
  refine ⟨Segment.cutAll source.toList, hsegmentation, ?_, ?_, ?_, ?_⟩
  · have htokens := Segment.gather_token?_lexeme_line [] (Segment.cutAll source.toList)
    rw [scan_tokens, List.map_append, Segment.yieldOf, ← htokens]
    simp [Token.endOfInput, lineAfter]
  · rw [scan_errors]
    exact Segment.gather_error?_eq hsegmentation []
  · obtain ⟨hsorted, hbounds⟩ := Segment.pairwise_gather Segment.line_token?
      (Segment.cutAll source.toList) 1
    rw [flatMap_text_cutAll] at hbounds
    rw [scan_tokens, List.pairwise_map]
    refine List.pairwise_append.mpr ⟨hsorted, by simp, ?_⟩
    intro token htoken last hlast
    obtain rfl : last = Token.endOfInput _ := List.mem_singleton.mp hlast
    have hbound := (hbounds token htoken).2
    simp only [Token.endOfInput]
    push_cast
    exact hbound
  · obtain ⟨hsorted, _⟩ := Segment.pairwise_gather Segment.line_error?
      (Segment.cutAll source.toList) 1
    rw [scan_errors, List.pairwise_map]
    exact hsorted

end LoxLexer
