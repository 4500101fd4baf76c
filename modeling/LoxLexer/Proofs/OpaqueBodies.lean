import LoxLexer.Proofs.LexemeStarts
import LoxLexer.Proofs.LineNumbers

/-!
# Bodies of strings and comments

A string ends at the next quote and a block comment at its first end, whatever else stands inside. So the
body of either may be exchanged for another one that does not close it, and a scan finds the same before and
after, with the lines behind the body moved by the line ends that the one body has more than the other.
-/

namespace LoxLexer

open Segment

/-- The same token a number of lines further down, or further up if the number is negative. -/
def Token.moveBy (lines : Int) (token : Token) : Token := { token with line := token.line + lines }

/-- The same error a number of lines further down, or further up if the number is negative. -/
def LexicalError.moveBy (lines : Int) (error : LexicalError) : LexicalError :=
  { error with line := error.line + lines }

/-- Two texts with a string between them. -/
def withString (before body after : String) : String := before ++ "\"" ++ body ++ "\"" ++ after

/-- Two texts with a block comment between them. -/
def withComment (before body after : String) : String := before ++ "/*" ++ body ++ "*/" ++ after

/-- Two texts with a segment between them. -/
def withSegment (before : String) (segment : Segment) (after : String) : String :=
  before ++ (String.ofList segment.text ++ after)

/-- How many more lines end in the second text than in the first one. -/
def lineDifference (first second : String) : Int :=
  (second.toList.count '\n' : Int) - (first.toList.count '\n' : Int)

/-- What is moved down by some lines and then by a difference is moved down by other lines. -/
theorem moveBy_comp_moveDown {lines lines' : Nat} {difference : Int}
    (h : (lines : Int) + difference = lines') :
    Token.moveBy difference ∘ Token.moveDown lines = Token.moveDown lines' ∧
      LexicalError.moveBy difference ∘ LexicalError.moveDown lines = LexicalError.moveDown lines' := by
  constructor
  · funext token
    simp [Token.moveBy, Token.moveDown, ← h, Int.add_assoc]
  · funext error
    simp [LexicalError.moveBy, LexicalError.moveDown, ← h, Int.add_assoc]

/-! ## Segments that close themselves -/

namespace Segment

/-- The segments that end by themselves, whatever stands behind them. -/
structure ClosesItself (segment : Segment) : Prop where
  /-- The characters are such as the grammar asks for. -/
  proper : segment.Proper
  /-- No character goes into the segment from behind. -/
  takes : ∀ d, ¬ segment.Takes d

/-- A string closes itself if its body holds no quote. -/
theorem closesItself_string {body : List Char} (h : '"' ∉ body) : (string body).ClosesItself :=
  ⟨h, fun _ => id⟩

/-- A block comment closes itself if its body does not hold the end of a comment. -/
theorem closesItself_blockComment {body : List Char} (h : ¬ ['*', '/'] <:+: body) :
    (blockComment body).ClosesItself :=
  ⟨beforeFirst_commentEnd_iff.mpr h, fun _ => id⟩

variable {segment : Segment}

/-- A segment that closes itself is not empty. -/
theorem ClosesItself.text_ne_nil (h : segment.ClosesItself) : segment.text ≠ [] := by
  intro hnil
  have hnext := h.proper.nextSegment (endsBefore_nil segment)
  rw [hnil] at hnext
  exact not_nextSegment_nil segment hnext

/-- A segment that closes itself is cut off in front of every text. -/
theorem ClosesItself.cutAll_append (h : segment.ClosesItself) (after : List Char) :
    cutAll (segment.text ++ after) = segment :: cutAll after :=
  LoxLexer.cutAll_append (h.proper.nextSegment (endsBefore_of_not_takes h.takes after))

/-- A lexeme starts with a segment between two texts if all three are cut by themselves. -/
theorem startsLexemeAt_withSegment_iff {before after : String} {segment : Segment}
    (h : segment.ClosesItself) :
    StartsLexemeAt (withSegment before segment after) before.length ↔
      cutAll (before.toList ++ (segment.text ++ after.toList)) =
        cutAll before.toList ++ segment :: cutAll after.toList := by
  have hne : String.ofList segment.text ++ after ≠ "" := by
    intro hnil
    have htext := congrArg String.toList hnil
    simp [h.text_ne_nil] at htext
  rw [withSegment, startsLexemeAt_iff, String.toList_append, String.toList_ofList, h.cutAll_append,
    and_iff_right hne]

/-- What two texts yield with a segment between them, if all three are cut by themselves. -/
theorem yieldOf_append_segment {α : Type} (yield : Nat → Segment → Option α) {before after : List Char}
    {segment : Segment} (h : cutAll (before ++ (segment.text ++ after)) =
      cutAll before ++ segment :: cutAll after) (line : Nat) :
    yieldOf yield line (before ++ (segment.text ++ after)) = yieldOf yield line before ++
      ((yield (line + before.count '\n') segment).toList ++
        yieldOf yield (line + (before.count '\n' + segment.newlines)) after) := by
  rw [yieldOf, h, gather_append, flatMap_text_cutAll, gather, Nat.add_assoc]
  rfl

end Segment

/-! ## Scans -/

/-- A scan of two texts with a segment between them that closes itself finds what scans of the texts find and what
the segment yields, if a lexeme starts there. -/
theorem scan_withSegment {before after : String} {segment : Segment} (hcloses : segment.ClosesItself)
    (hstart : StartsLexemeAt (withSegment before segment after) before.length) :
    scan (withSegment before segment after) =
      ⟨(scan before).tokens.dropLast ++ ((segment.token? (1 + before.toList.count '\n')).toList ++
          (scan after).tokens.map (Token.moveDown (before.toList.count '\n' + segment.newlines))),
        (scan before).errors ++ ((segment.error? (1 + before.toList.count '\n')).toList ++
          (scan after).errors.map
            (LexicalError.moveDown (before.toList.count '\n' + segment.newlines)))⟩ := by
  have hcut := (startsLexemeAt_withSegment_iff hcloses).mp hstart
  have htext : (withSegment before segment after).toList =
      before.toList ++ (segment.text ++ after.toList) := by simp [withSegment]
  generalize hlines : before.toList.count '\n' + segment.newlines = lines
  have hend : Token.endOfInput ((1 + (withSegment before segment after).toList.count '\n' : Nat) : Int) =
      Token.moveDown lines (Token.endOfInput ((1 + after.toList.count '\n' : Nat) : Int)) := by
    rw [htext, List.count_append, List.count_append, ← newlines, ← hlines]
    simp only [Token.endOfInput, Token.moveDown, Token.mk.injEq, true_and]
    push_cast
    omega
  rw [scan_eq, hend, htext, yieldOf_append_segment token? hcut, yieldOf_append_segment error? hcut,
    hlines, yieldOf_add (token?_add lines), yieldOf_add (error?_add lines)]
  simp [scan_tokens, scan_errors]

/-- Segments that close themselves and have the same first character may be exchanged: scans find the same in front
of them, and the same behind them up to the difference in their numbers of lines. -/
theorem scan_exchange {before after : String} {segment other : Segment}
    (hcloses : segment.ClosesItself) (hother : other.ClosesItself) {d : Char} {tail tail' : List Char}
    (htext : segment.text = d :: tail) (htext' : other.text = d :: tail') (hd : d ≠ '.')
    (hstart : StartsLexemeAt (withSegment before segment after) before.length) :
    StartsLexemeAt (withSegment before other after) before.length ∧
      ∃ later laterErrors,
        scan (withSegment before segment after) =
          ⟨(scan before).tokens.dropLast ++
              ((segment.token? (1 + before.toList.count '\n')).toList ++ later),
            (scan before).errors ++
              ((segment.error? (1 + before.toList.count '\n')).toList ++ laterErrors)⟩ ∧
        scan (withSegment before other after) =
          ⟨(scan before).tokens.dropLast ++
              ((other.token? (1 + before.toList.count '\n')).toList ++
                later.map (Token.moveBy ((other.newlines : Int) - segment.newlines))),
            (scan before).errors ++
              ((other.error? (1 + before.toList.count '\n')).toList ++
                laterErrors.map (LexicalError.moveBy ((other.newlines : Int) - segment.newlines)))⟩ := by
  have hcut := (startsLexemeAt_withSegment_iff hcloses).mp hstart
  rw [← hcloses.cutAll_append, htext, List.cons_append] at hcut
  have hcut' := cutAll_exchange hd hcut (tail' ++ after.toList)
  rw [← List.cons_append, ← htext', hother.cutAll_append] at hcut'
  have hstart' := (startsLexemeAt_withSegment_iff hother).mpr hcut'
  refine ⟨hstart', _, _, scan_withSegment hcloses hstart, ?_⟩
  have hlines : ((before.toList.count '\n' + segment.newlines : Nat) : Int) +
      ((other.newlines : Int) - segment.newlines) =
        (before.toList.count '\n' + other.newlines : Nat) := by omega
  obtain ⟨htokens, herrors⟩ := moveBy_comp_moveDown hlines
  rw [List.map_map, List.map_map, htokens, herrors, scan_withSegment hother hstart']

/-- Two texts with a string between them, as a segment. -/
theorem withString_eq (before body after : String) :
    withString before body after = withSegment before (.string body.toList) after := by
  apply String.toList_injective
  simp [withString, withSegment, text]

/-- Two texts with a block comment between them, as a segment. -/
theorem withComment_eq (before body after : String) :
    withComment before body after = withSegment before (.blockComment body.toList) after := by
  apply String.toList_injective
  simp [withComment, withSegment, text]

/-- **Bodies are opaque.** Where a lexeme starts with a string, the body of the string may be exchanged for
another one without quotes. A lexeme starts there afterwards too, it is the string with the other body, and
what is found in front of it stays and what is found behind it is moved by the difference in lines. The same
holds of the body of a block comment, which may be exchanged for another one without the end of a comment and
yields nothing. -/
theorem bodies_exchangeable (before first second after : String) :
    ('"' ∉ first.toList → '"' ∉ second.toList →
      StartsLexemeAt (withString before first after) before.length →
      StartsLexemeAt (withString before second after) before.length ∧
        ∃ later laterErrors,
          scan (withString before first after) =
            ⟨(scan before).tokens.dropLast ++
                ⟨.string, "\"" ++ first ++ "\"", some (.text first), lineAfter before.toList⟩ :: later,
              (scan before).errors ++ laterErrors⟩ ∧
          scan (withString before second after) =
            ⟨(scan before).tokens.dropLast ++
                ⟨.string, "\"" ++ second ++ "\"", some (.text second), lineAfter before.toList⟩ ::
                  later.map (Token.moveBy (lineDifference first second)),
              (scan before).errors ++
                laterErrors.map (LexicalError.moveBy (lineDifference first second))⟩) ∧
    (¬ ['*', '/'] <:+: first.toList → ¬ ['*', '/'] <:+: second.toList →
      StartsLexemeAt (withComment before first after) before.length →
      StartsLexemeAt (withComment before second after) before.length ∧
        ∃ later laterErrors,
          scan (withComment before first after) =
            ⟨(scan before).tokens.dropLast ++ later, (scan before).errors ++ laterErrors⟩ ∧
          scan (withComment before second after) =
            ⟨(scan before).tokens.dropLast ++
                later.map (Token.moveBy (lineDifference first second)),
              (scan before).errors ++
                laterErrors.map (LexicalError.moveBy (lineDifference first second))⟩) := by
  constructor
  · intro hfirst hsecond hstart
    have htoken : ∀ body : String,
        (Segment.string body.toList).token? (1 + before.toList.count '\n') =
          some ⟨.string, "\"" ++ body ++ "\"", some (.text body), lineAfter before.toList⟩ := by
      intro body
      have hlexeme : String.ofList (Segment.string body.toList).text = "\"" ++ body ++ "\"" := by
        apply String.toList_injective
        simp [text]
      simp [token?, hlexeme, lineAfter]
    have hlines : ((Segment.string second.toList).newlines : Int) -
        (Segment.string first.toList).newlines = lineDifference first second := by
      simp [newlines, text, lineDifference]
    rw [withString_eq] at hstart
    obtain ⟨hstart', later, laterErrors, hscan, hscan'⟩ := scan_exchange (closesItself_string hfirst)
      (closesItself_string hsecond) rfl rfl (by decide) hstart
    rw [withString_eq, withString_eq]
    refine ⟨hstart', later, laterErrors, ?_, ?_⟩
    · rw [hscan, htoken]
      rfl
    · rw [hscan', htoken, hlines]
      rfl
  · intro hfirst hsecond hstart
    have hlines : ((Segment.blockComment second.toList).newlines : Int) -
        (Segment.blockComment first.toList).newlines = lineDifference first second := by
      simp [newlines, text, lineDifference]
    rw [withComment_eq] at hstart
    obtain ⟨hstart', later, laterErrors, hscan, hscan'⟩ :=
      scan_exchange (closesItself_blockComment hfirst) (closesItself_blockComment hsecond) rfl rfl
        (by decide) hstart
    rw [withComment_eq, withComment_eq]
    refine ⟨hstart', later, laterErrors, hscan, ?_⟩
    rw [hscan', hlines]
    rfl

/-- A backslash gives way to the start of a comment and a line end, and a slash right behind the start of a comment
to an asterisk right in front of its end. -/
theorem bodies_exchangeable_marks :
    ('"' ∉ "\\".toList ∧ '"' ∉ "/*\n".toList ∧ StartsLexemeAt (withString "1." "\\" "@ a") 2 ∧
      StartsLexemeAt (withString "1." "/*\n" "@ a") 2 ∧
        ∃ later laterErrors,
          scan (withString "1." "\\" "@ a") =
            ⟨(scan "1.").tokens.dropLast ++ ⟨.string, "\"\\\"", some (.text "\\"), 1⟩ :: later,
              laterErrors⟩ ∧
          scan (withString "1." "/*\n" "@ a") =
            ⟨(scan "1.").tokens.dropLast ++ ⟨.string, "\"/*\n\"", some (.text "/*\n"), 1⟩ ::
                later.map (Token.moveBy 1),
              laterErrors.map (LexicalError.moveBy 1)⟩) ∧
    (¬ ['*', '/'] <:+: "/".toList ∧ ¬ ['*', '/'] <:+: "\n*".toList ∧
      StartsLexemeAt (withComment "1." "/" "@ a") 2 ∧
      StartsLexemeAt (withComment "1." "\n*" "@ a") 2 ∧
        ∃ later laterErrors,
          scan (withComment "1." "/" "@ a") = ⟨(scan "1.").tokens.dropLast ++ later, laterErrors⟩ ∧
          scan (withComment "1." "\n*" "@ a") =
            ⟨(scan "1.").tokens.dropLast ++ later.map (Token.moveBy 1),
              laterErrors.map (LexicalError.moveBy 1)⟩) := by
  have hquote : '"' ∉ "\\".toList := by decide
  have hquote' : '"' ∉ "/*\n".toList := by decide
  have hend : ¬ ['*', '/'] <:+: "/".toList := by decide
  have hend' : ¬ ['*', '/'] <:+: "\n*".toList := by decide
  have hstring : StartsLexemeAt (withString "1." "\\" "@ a") 2 := by
    rw [withString_eq]
    exact (startsLexemeAt_withSegment_iff (closesItself_string hquote)).mpr (by decide +kernel)
  have hcomment : StartsLexemeAt (withComment "1." "/" "@ a") 2 := by
    rw [withComment_eq]
    exact (startsLexemeAt_withSegment_iff (closesItself_blockComment hend)).mpr (by decide +kernel)
  have hfound := (bodies_exchangeable "1." "\\" "/*\n" "@ a").1 hquote hquote' hstring
  have hfound' := (bodies_exchangeable "1." "/" "\n*" "@ a").2 hend hend' hcomment
  have herrors : (scan "1.").errors = [] := by decide +kernel
  have hlines : lineDifference "\\" "/*\n" = 1 ∧ lineDifference "/" "\n*" = 1 := by decide
  rw [herrors, hlines.1] at hfound
  rw [herrors, hlines.2] at hfound'
  exact ⟨⟨hquote, hquote', hstring, hfound⟩, ⟨hend, hend', hcomment, hfound'⟩⟩

end LoxLexer
