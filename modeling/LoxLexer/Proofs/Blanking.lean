import LoxLexer.Proofs.Lookahead
import LoxLexer.Proofs.Unparse

/-!
# Comments as blanks

A comment says nothing, and neither does a character that starts no lexeme. `blankOut` writes spaces in the
place of both and leaves the line ends. A scan finds the same tokens afterwards, on the same lines, because a
space keeps lexemes apart as well as what has stood in its place, and the only errors that are left are
those about strings.
-/

namespace LoxLexer

open Segment

/-- The blank that takes the place of a character. A line end stays. -/
def blankFor (c : Char) : Char := if c = '\n' then '\n' else ' '

namespace Segment

/-- Whether a segment is a comment or a character that starts nothing. -/
def isSkipped : Segment → Bool
  | lineComment _ | blockComment _ | openComment _ | stray _ => true
  | _ => false

/-- The text of a segment, with blanks in the place of what says nothing. -/
def blanked (segment : Segment) : List Char :=
  if segment.isSkipped then segment.text.map blankFor else segment.text

/-- What a segment yields that says something. -/
def unlessSkipped {α : Type} (yield : Nat → Segment → Option α) (line : Nat) (segment : Segment) :
    Option α :=
  if segment.isSkipped then none else yield line segment

end Segment

/-- A source text with blanks in the place of its comments and of the characters that start nothing. -/
def blankOut (source : String) : String :=
  String.ofList ((cutAll source.toList).flatMap blanked)

/-! ## Blanks in front of and behind lexemes -/

/-- One text is another one with spaces in the place of some characters. -/
def WithSpaces (text spaced : List Char) : Prop :=
  List.Forall₂ (fun c d => d = c ∨ d = ' ') text spaced

/-- Characters are left out of blanked segments only. -/
theorem withSpaces_blanked (segments : List Segment) :
    WithSpaces (segments.flatMap text) (segments.flatMap blanked) := by
  have hsegment : ∀ segment : Segment, WithSpaces segment.text segment.blanked := by
    intro segment
    unfold blanked WithSpaces
    split
    · rw [List.forall₂_map_right_iff, List.forall₂_same]
      intro c _
      unfold blankFor
      split
      next hc => exact .inl hc.symm
      next => exact .inr rfl
    · exact List.forall₂_same.mpr fun c _ => .inl rfl
  induction segments with
  | nil => exact .nil
  | cons segment segments ih => exact List.rel_append (hsegment segment) ih

/-- A segment that says something ends in front of a text if it does so without the spaces. -/
theorem Segment.EndsBefore.withSpaces {segment : Segment} {rest spaced : List Char}
    (h : segment.EndsBefore rest) (hspaces : WithSpaces rest spaced)
    (hkept : segment.isSkipped = false) : segment.EndsBefore spaced := by
  cases hspaces with
  | nil => exact endsBefore_nil segment
  | @cons c d rest spaced hfirst hspaces =>
    have hc := h.next c rfl
    constructor
    · intro e he htakes
      obtain rfl : d = e := by simpa using he
      rcases hfirst with rfl | rfl
      · exact hc htakes
      · cases hopen : segment.isOpen with
        | true => exact hc (takes_of_isOpen hopen c)
        | false =>
          rcases takes_cases htakes hopen with hpart | hsign | ⟨⟨body, rfl⟩, -⟩
          · exact absurd hpart (by decide)
          · exact absurd hsign (by decide)
          · exact absurd hkept (by simp [isSkipped])
    · rintro whole e more hsegment hspaced hdecimal
      obtain ⟨rfl, rfl⟩ := List.cons.inj hspaced
      obtain rfl : '.' = c := hfirst.resolve_right (by decide)
      cases hspaces with
      | @cons f _ rest _ hsecond _ =>
        rcases hsecond with rfl | rfl
        · exact h.point whole e rest hsegment rfl hdecimal
        · exact absurd hdecimal (by decide)

/-! ## Scans of blanked texts -/

section Yield

variable {α : Type} {yield : Nat → Segment → Option α}

/-- Blanks are passed over, and the line ends among them lead to a later line. -/
theorem yieldOf_map_blankFor (hspace : ∀ line, yield line (blank ' ') = none)
    (hnewline : ∀ line, yield line newline = none) (line : Nat) (cs rest : List Char) :
    yieldOf yield line (cs.map blankFor ++ rest) = yieldOf yield (line + cs.count '\n') rest := by
  induction cs generalizing line with
  | nil => rfl
  | cons c cs ih =>
    rw [List.map_cons, List.cons_append]
    by_cases hc : c = '\n'
    · have hnext : NextSegment (newline.text ++ (cs.map blankFor ++ rest)) newline := .newline
      have hpassed := yieldOf_append_of_none hnext (hnewline line)
      rw [ih] at hpassed
      rw [hc, List.count_cons_self, Nat.add_comm (cs.count '\n'), ← Nat.add_assoc]
      exact hpassed
    · rw [blankFor, if_neg hc, yieldOf_space hspace, ih, List.count_cons_of_ne hc]

/-- A blanked text yields what the segments yield that say something. -/
theorem Segmentation.yieldOf_blanked (hspace : ∀ line, yield line (blank ' ') = none)
    (hnewline : ∀ line, yield line newline = none) {text : List Char} {segments : List Segment}
    (h : Segmentation text segments) (line : Nat) :
    yieldOf yield line (segments.flatMap blanked) = gather (unlessSkipped yield) line segments := by
  induction h generalizing line with
  | nil => rw [List.flatMap_nil, yieldOf_nil, gather]
  | @cons text rest segment segments hnext htext hrest ih =>
    subst htext
    rw [List.flatMap_cons, gather, ← ih]
    cases hskipped : segment.isSkipped with
    | true =>
      rw [blanked, unlessSkipped, if_pos hskipped, if_pos hskipped,
        yieldOf_map_blankFor hspace hnewline]
      rfl
    | false =>
      obtain ⟨hproper, hends⟩ := hnext.proper_endsBefore
      obtain rfl : rest = segments.flatMap Segment.text := by
        rw [segmentation_iff.mp hrest, flatMap_text_cutAll]
      have hends' := hends.withSpaces (withSpaces_blanked segments) hskipped
      have hneg : ¬ segment.isSkipped = true := by simp [hskipped]
      rw [blanked, unlessSkipped, if_neg hneg, if_neg hneg,
        yieldOf_append yield line (hproper.nextSegment hends')]

end Yield

/-- Segments that say nothing yield no tokens. -/
theorem gather_unlessSkipped_token? (line : Nat) (segments : List Segment) :
    gather (unlessSkipped token?) line segments = gather token? line segments := by
  induction segments generalizing line with
  | nil => rfl
  | cons segment segments ih =>
    rw [gather, gather, ih]
    cases segment <;> rfl

/-- The errors of the segments that say something are those about strings. -/
theorem gather_unlessSkipped_error? (line : Nat) (segments : List Segment) :
    gather (unlessSkipped error?) line segments =
      (gather error? line segments).filter (·.message = "Unterminated string.") := by
  induction segments generalizing line with
  | nil => rfl
  | cons segment segments ih =>
    rw [gather, gather, ih, List.filter_append]
    congr 1
    cases segment <;> simp [unlessSkipped, isSkipped, error?, fault?, SourceFault.message]

/-- As many lines end in a blanked text as before. -/
theorem count_flatMap_blanked (segments : List Segment) :
    (segments.flatMap blanked).count '\n' = (segments.flatMap text).count '\n' := by
  have hblank : ∀ cs : List Char, (cs.map blankFor).count '\n' = cs.count '\n' := by
    intro cs
    induction cs with
    | nil => rfl
    | cons c cs ih =>
      by_cases hc : c = '\n' <;> simp [blankFor, hc, ih]
  induction segments with
  | nil => rfl
  | cons segment segments ih =>
    rw [List.flatMap_cons, List.flatMap_cons, List.count_append, List.count_append, ih, blanked]
    split
    · rw [hblank]
    · rfl

/-- **Comments are blanks.** With blanks in the place of comments and of characters that start nothing, a
scan finds the same tokens, and of the errors it finds those about strings. -/
theorem scan_blankOut (source : String) :
    (scan (blankOut source)).tokens = (scan source).tokens ∧
      (scan (blankOut source)).errors =
        (scan source).errors.filter (·.message = "Unterminated string.") := by
  have hsegmentation := segmentation_iff.mpr (rfl : cutAll source.toList = _)
  have htext : (blankOut source).toList = (cutAll source.toList).flatMap blanked :=
    String.toList_ofList
  have hlines : (blankOut source).toList.count '\n' = source.toList.count '\n' := by
    rw [htext, count_flatMap_blanked, flatMap_text_cutAll]
  constructor
  · rw [scan_tokens, scan_tokens, hlines, htext, hsegmentation.yieldOf_blanked (fun _ => rfl)
      (fun _ => rfl), gather_unlessSkipped_token?, yieldOf]
  · rw [scan_errors, scan_errors, htext, hsegmentation.yieldOf_blanked (fun _ => rfl)
      (fun _ => rfl), gather_unlessSkipped_error?, yieldOf]

/-- What a comment or a faulty character has kept apart is kept apart by blanks. -/
example : blankOut "a/* b\n*/1@.2 // c\n\"d" = "a    \n  1 .2     \n\"d" := by decide +kernel

end LoxLexer
