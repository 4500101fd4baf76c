import LoxLexer.Proofs.Lookahead
import LoxLexer.Proofs.ScanSemantics

/-!
# Scans of joined texts

What a scan finds in a text is found again when more text follows, except near the end of the first text,
where a segment may go on into the second one. A line end keeps two texts apart: the scan of both is
the scan of the first and then that of the second, further down. Without a line end at most the
last two lexemes of the first text are drawn into the second one.
-/

namespace LoxLexer

open Segment

/-! ## Positions further down -/

/-- The same token a number of lines further down. -/
def Token.moveDown (lines : Nat) (token : Token) : Token :=
  { token with line := token.line + lines }

/-- The same error a number of lines further down. -/
def LexicalError.moveDown (lines : Nat) (error : LexicalError) : LexicalError :=
  { error with line := error.line + lines }

namespace Segment

/-- A segment further down yields its token further down. -/
theorem token?_add (lines : Nat) (segment : Segment) (line : Nat) :
    segment.token? (line + lines) = (segment.token? line).map (Token.moveDown lines) := by
  cases segment <;> simp [token?, Token.moveDown]

/-- A segment further down yields its error further down. -/
theorem error?_add (lines : Nat) (segment : Segment) (line : Nat) :
    segment.error? (line + lines) = (segment.error? line).map (LexicalError.moveDown lines) := by
  rw [error?, error?, Option.map_map]
  congr 1
  funext fault
  simp only [Function.comp_apply, LexicalError.moveDown, LexicalError.mk.injEq, and_true]
  push_cast
  omega

section Gather

variable {α : Type} (yield : Nat → Segment → Option α)

/-- Segments behind others yield what they do further down, below the lines that end in the others. -/
theorem gather_append (line : Nat) (segments later : List Segment) :
    gather yield line (segments ++ later) = gather yield line segments ++
      gather yield (line + (segments.flatMap text).count '\n') later := by
  induction segments generalizing line with
  | nil => rfl
  | cons segment segments ih =>
    rw [List.cons_append, gather, gather, ih, List.append_assoc, List.flatMap_cons,
      List.count_append, newlines, Nat.add_assoc]

/-- Segments further down yield the same further down if each of them does. -/
theorem gather_add {yield : Nat → Segment → Option α} {moveDown : α → α} {lines : Nat}
    (h : ∀ segment line, yield (line + lines) segment = (yield line segment).map moveDown)
    (line : Nat) (segments : List Segment) :
    gather yield (line + lines) segments = (gather yield line segments).map moveDown := by
  induction segments generalizing line with
  | nil => rfl
  | cons segment segments ih =>
    rw [gather, gather, h, Nat.add_right_comm, ih, List.map_append, Option.toList_map]

/-- A text further down yields the same further down if each segment does. -/
theorem yieldOf_add {yield : Nat → Segment → Option α} {moveDown : α → α} {lines : Nat}
    (h : ∀ segment line, yield (line + lines) segment = (yield line segment).map moveDown)
    (line : Nat) (text : List Char) :
    yieldOf yield (line + lines) text = (yieldOf yield line text).map moveDown :=
  gather_add h line (cutAll text)

/-- Segments yield no more than one thing each. -/
theorem length_gather_le (line : Nat) (segments : List Segment) :
    (gather yield line segments).length ≤ segments.length := by
  induction segments generalizing line with
  | nil => simp [gather]
  | cons segment segments ih =>
    have hhead : (yield line segment).toList.length ≤ 1 := by
      cases yield line segment <;> simp
    have htail := ih (line + segment.newlines)
    simp only [gather, List.length_append, List.length_cons]
    omega

/-- The first ones of some segments yield the first things that the segments yield. -/
theorem gather_isPrefix {segments longer : List Segment} (h : segments <+: longer) (line : Nat) :
    gather yield line segments <+: gather yield line longer := by
  obtain ⟨later, rfl⟩ := h
  rw [gather_append]
  exact List.prefix_append _ _

/-- What a segment yields is among what all the segments yield. -/
theorem exists_mem_gather {segment : Segment} {segments : List Segment} (h : segment ∈ segments)
    (line : Nat) : ∃ line', ∀ a ∈ yield line' segment, a ∈ gather yield line segments := by
  obtain ⟨before, after, rfl⟩ := List.append_of_mem h
  refine ⟨line + (before.flatMap text).count '\n', ?_⟩
  intro a ha
  simp [gather_append, gather, Option.mem_def.mp ha]

end Gather

end Segment

/-! ## What is not closed -/

/-- An error is about a string or a block comment that reaches to the end of the source without being closed. -/
def LexicalError.Unterminated (error : LexicalError) : Prop :=
  error.message = "Unterminated string." ∨ error.message = "Unterminated block comment."

instance : DecidablePred LexicalError.Unterminated := fun _ => inferInstanceAs (Decidable (_ ∨ _))

namespace Segment

/-- The errors that say that something is not closed are those of the segments that are not closed. -/
theorem unterminated_iff {segment : Segment} {line : Nat} {error : LexicalError}
    (h : segment.error? line = some error) : error.Unterminated ↔ segment.isOpen = true := by
  obtain ⟨fault, hfault, rfl⟩ := Option.map_eq_some_iff.mp h
  cases segment with
  | openString | openComment | stray =>
    obtain rfl := Option.some.inj hfault
    simp [LexicalError.Unterminated, SourceFault.message, isOpen]
  | word | number | string | mark | lineComment | blockComment | blank | newline =>
    simp [fault?] at hfault

/-- A segment that is not closed yields an error. -/
theorem exists_error_of_isOpen {segment : Segment} (h : segment.isOpen = true) (line : Nat) :
    ∃ error, segment.error? line = some error := by
  cases segment with
  | openString | openComment => exact ⟨_, rfl⟩
  | word | number | string | mark | lineComment | blockComment | blank | newline | stray =>
    simp [isOpen] at h

/-- If no error says that something is not closed, then all segments are closed. -/
theorem isOpen_eq_false_of_errors {segments : List Segment} {line : Nat}
    (h : ∀ error ∈ gather error? line segments, ¬ error.Unterminated) :
    ∀ segment ∈ segments, segment.isOpen = false := by
  intro segment hsegment
  rw [← Bool.not_eq_true]
  intro hopen
  obtain ⟨line', hmem⟩ := exists_mem_gather error? hsegment line
  obtain ⟨error, herror⟩ := exists_error_of_isOpen hopen line'
  exact h error (hmem error herror) ((unterminated_iff herror).mpr hopen)

end Segment

/-! ## Texts on different lines -/

/-- Segments are cut off in front of another text as they are cut off in front of a given one, if they end there
whenever they do so here. -/
theorem cutAll_flatMap_append {segments : List Segment} {later other : List Char}
    (hends : ∀ segment ∈ segments, ∀ rest, segment.EndsBefore (rest ++ later) →
      segment.EndsBefore (rest ++ other))
    (h : cutAll (segments.flatMap text ++ later) = segments ++ cutAll later) :
    cutAll (segments.flatMap text ++ other) = segments ++ cutAll other := by
  induction segments with
  | nil => rfl
  | cons segment segments ih =>
    rw [List.flatMap_cons, List.append_assoc, List.cons_append, cutAll_eq_cons_iff,
      nextSegment_append_iff] at h ⊢
    obtain ⟨⟨hproper, hend⟩, htail⟩ := h
    exact ⟨⟨hproper, hends segment (by simp) _ hend⟩,
      ih (fun next hnext => hends next (by simp [hnext])) htail⟩

/-- In front of a line end a text without open segments is cut as it is at the end of a source. -/
theorem cutAll_append_newline {text : List Char}
    (hclosed : ∀ segment ∈ cutAll text, segment.isOpen = false) (below : List Char) :
    cutAll (text ++ '\n' :: below) = cutAll text ++ newline :: cutAll below := by
  have htext := flatMap_text_cutAll text
  generalize hcut : cutAll text = segments at hclosed htext ⊢
  subst htext
  have hends : ∀ segment ∈ segments, ∀ rest, segment.EndsBefore (rest ++ []) →
      segment.EndsBefore (rest ++ '\n' :: below) := by
    intro segment hsegment rest hend
    rw [List.append_nil] at hend
    exact hend.append_newline (hclosed segment hsegment) below
  have hnext : NextSegment (newline.text ++ below) newline := .newline
  have hnewline : cutAll ('\n' :: below) = newline :: cutAll below := cutAll_append hnext
  rw [← hnewline]
  exact cutAll_flatMap_append hends (by simpa using hcut)

/-- What two texts yield with a line end between them, if the first one has no open segments. -/
theorem yieldOf_append_newline {α : Type} {yield : Nat → Segment → Option α} {line : Nat}
    {above : List Char} (hclosed : ∀ segment ∈ cutAll above, segment.isOpen = false)
    (hnewline : ∀ line, yield line newline = none) (below : List Char) :
    yieldOf yield line (above ++ '\n' :: below) =
      yieldOf yield line above ++ yieldOf yield (line + (1 + above.count '\n')) below := by
  have hlines : newline.newlines = 1 := rfl
  rw [yieldOf, cutAll_append_newline hclosed, gather_append, flatMap_text_cutAll,
    gather, hnewline, hlines, Nat.add_assoc, Nat.add_comm 1]
  rfl

/-- **Lines are scanned one by one.** If everything in a text is closed, a scan of the text with another one
below it finds what a scan of the first text finds, and then what a scan of the second text finds, as
many lines further down as the first text has. -/
theorem scan_append_newline (above below : String)
    (h : ∀ error ∈ (scan above).errors, ¬ error.Unterminated) :
    (scan (above ++ "\n" ++ below)).tokens = (scan above).tokens.dropLast ++
        (scan below).tokens.map (Token.moveDown (1 + above.toList.count '\n')) ∧
      (scan (above ++ "\n" ++ below)).errors = (scan above).errors ++
        (scan below).errors.map (LexicalError.moveDown (1 + above.toList.count '\n')) := by
  have htext : (above ++ "\n" ++ below).toList = above.toList ++ '\n' :: below.toList := by simp
  rw [scan_errors] at h
  have hclosed := isOpen_eq_false_of_errors h
  constructor
  · rw [scan_tokens, scan_tokens, scan_tokens, htext, List.dropLast_concat,
      yieldOf_append_newline hclosed fun _ => rfl, yieldOf, yieldOf, yieldOf, gather_add (token?_add _)]
    simp [Token.endOfInput, Token.moveDown]
    omega
  · rw [scan_errors, scan_errors, scan_errors, htext,
      yieldOf_append_newline hclosed fun _ => rfl, yieldOf, yieldOf, yieldOf, gather_add (error?_add _)]

/-- The line end inside the string does not matter, nor do the number, the faulty character and the comment in
front of the line end. -/
theorem scan_append_newline_closed :
    (∀ error ∈ (scan "\"a\nb\" @ 1. // c").errors, ¬ error.Unterminated) ∧
      (scan ("\"a\nb\" @ 1. // c" ++ "\n" ++ "5 \"d")).errors =
        [⟨2, "Unexpected character."⟩, ⟨3, "Unterminated string."⟩] := by
  have hclosed : ∀ error ∈ (scan "\"a\nb\" @ 1. // c").errors, ¬ error.Unterminated := by
    decide +kernel
  refine ⟨hclosed, ?_⟩
  rw [(scan_append_newline _ "5 \"d" hclosed).2]
  decide +kernel

/-! ## Texts on the same line -/

namespace Segment

/-- A segment that goes on when text is appended stands at the end or, if it is a number, in front of a last point. -/
theorem EndsBefore.cases_append {segment : Segment} {rest appended : List Char}
    (h : segment.EndsBefore rest) (happended : ¬ segment.EndsBefore (rest ++ appended)) :
    rest = [] ∨ rest = ['.'] ∧ ∃ whole, segment = number whole [] := by
  by_contra hneither
  simp only [not_or, not_and, not_exists] at hneither
  refine happended (h.append hneither.1 ?_ appended)
  intro whole hsegment hrest
  exact hneither.2 hrest whole hsegment

end Segment

/-- The segments of a text of which appended text may make other ones: the last one, if it is not a character
that starts nothing, or a number and a point behind it. -/
def Unsettled (segments : List Segment) : Prop :=
  (segments.length ≤ 1 ∧ ∀ c, stray c ∉ segments) ∨
    ∃ whole, segments = [number whole [], mark .dot]

/-- Appended text leaves the segments of a text as they are, up to the unsettled ones at the end. -/
theorem Segmentation.exists_unsettled {text : List Char} {segments : List Segment}
    (h : Segmentation text segments) (appended : List Char) :
    ∃ kept changed, segments = kept ++ changed ∧ kept <+: cutAll (text ++ appended) ∧
      Unsettled changed := by
  induction h with
  | nil => exact ⟨[], [], rfl, List.nil_prefix, .inl (by simp)⟩
  | @cons text rest segment segments hnext htext hrest ih =>
    subst htext
    obtain ⟨hproper, hends⟩ := hnext.proper_endsBefore
    by_cases hends' : segment.EndsBefore (rest ++ appended)
    · obtain ⟨kept, changed, rfl, hkept, hunsettled⟩ := ih
      refine ⟨segment :: kept, changed, rfl, ?_, hunsettled⟩
      rw [List.append_assoc, cutAll_append (hproper.nextSegment hends')]
      exact List.cons_prefix_cons.mpr ⟨rfl, hkept⟩
    · refine ⟨[], segment :: segments, rfl, List.nil_prefix, ?_⟩
      rcases hends.cases_append hends' with rfl | ⟨rfl, whole, rfl⟩
      · obtain rfl : segments = [] := by simpa using segmentation_iff.mp hrest
        refine .inl ⟨by simp, ?_⟩
        intro c hc
        obtain rfl := List.mem_singleton.mp hc
        exact hends' (endsBefore_of_not_takes (fun _ => id) _)
      · have hdot : cutAll ((mark .dot).text ++ []) = mark .dot :: cutAll [] :=
          cutAll_append (.punctuation (by decide) rfl)
        obtain rfl : segments = [mark .dot] := by simpa using (segmentation_iff.mp hrest).trans hdot
        exact .inr ⟨whole, rfl⟩

/-- The errors of a scan without a last one that says that something is not closed. -/
def Scan.settledErrors (scan : Scan) : List LexicalError :=
  match scan.errors.getLast? with
  | some error => if error.Unterminated then scan.errors.dropLast else scan.errors
  | none => scan.errors

/-- The settled errors are the first ones among the errors. -/
theorem settledErrors_isPrefix (scan : Scan) : scan.settledErrors <+: scan.errors := by
  unfold Scan.settledErrors
  split
  · split
    · exact List.dropLast_prefix _
    · exact List.prefix_rfl
  · exact List.prefix_rfl

/-- Unsettled segments yield no error but one that says that something is not closed. -/
theorem Unsettled.errors {segments : List Segment} (h : Unsettled segments) (line : Nat) :
    gather error? line segments = [] ∨
      ∃ error : LexicalError, error.Unterminated ∧ gather error? line segments = [error] := by
  rcases h with ⟨hlength, hstray⟩ | ⟨whole, rfl⟩
  · match segments with
    | [] => exact .inl rfl
    | [segment] =>
      cases segment with
      | openString => exact .inr ⟨_, .inl rfl, rfl⟩
      | openComment => exact .inr ⟨_, .inr rfl, rfl⟩
      | stray c => simp at hstray
      | word | number | string | mark | lineComment | blockComment | blank | newline =>
        exact .inl rfl
    | _ :: _ :: _ => simp at hlength
  · exact .inl rfl

/-- Segments of a text that does not end with a point are settled but for the last one. -/
theorem Unsettled.length_le {kept changed : List Segment} (h : Unsettled changed)
    (hdot : ((kept ++ changed).flatMap text).getLast? ≠ some '.') : changed.length ≤ 1 := by
  rcases h with ⟨hlength, -⟩ | ⟨whole, rfl⟩
  · exact hlength
  · simp [text, Kind.spelling] at hdot

/-- Unsettled segments are at most two. -/
theorem Unsettled.length_le_two {segments : List Segment} (h : Unsettled segments) :
    segments.length ≤ 2 := by
  rcases h with ⟨hlength, -⟩ | ⟨whole, rfl⟩
  · omega
  · simp

/-- Whatever segments yield, a text yields it again when text is appended, up to what its unsettled segments
yield. -/
theorem exists_unsettled_yieldOf (text appended : List Char) :
    ∃ kept changed, cutAll text = kept ++ changed ∧ Unsettled changed ∧
      ∀ {α : Type} (yield : Nat → Segment → Option α), ∃ line,
        yieldOf yield 1 text = gather yield 1 kept ++ gather yield line changed ∧
          gather yield 1 kept <+: yieldOf yield 1 (text ++ appended) := by
  have hsegmentation := segmentation_iff.mpr (rfl : cutAll text = _)
  obtain ⟨kept, changed, hcut, hkept, hunsettled⟩ := hsegmentation.exists_unsettled appended
  refine ⟨kept, changed, hcut, hunsettled, ?_⟩
  intro α yield
  refine ⟨1 + (kept.flatMap Segment.text).count '\n', ?_, gather_isPrefix yield hkept 1⟩
  rw [yieldOf, hcut, gather_append]

/-- **Appended text reaches back over two lexemes.** All tokens of a text but the last two are found again
when more text is appended, and all but the last one if the text does not end with a point. The errors
are found again too, except that something may be closed that was not. -/
theorem isPrefix_scan_append (source appended : String) :
    (scan source).tokens.dropLast.dropLast.dropLast <+: (scan (source ++ appended)).tokens ∧
      (source.toList.getLast? ≠ some '.' →
        (scan source).tokens.dropLast.dropLast <+: (scan (source ++ appended)).tokens) ∧
      (scan source).settledErrors <+: (scan (source ++ appended)).errors := by
  obtain ⟨kept, changed, hcut, hunsettled, hyield⟩ :=
    exists_unsettled_yieldOf source.toList appended.toList
  obtain ⟨line, htokens, hkeptTokens⟩ := hyield token?
  obtain ⟨line', herrors, hkeptErrors⟩ := hyield error?
  rw [← String.toList_append] at hkeptTokens hkeptErrors
  rw [← scan_errors] at herrors hkeptErrors
  have hall : (scan source).tokens.dropLast = gather token? 1 kept ++ gather token? line changed := by
    rw [scan_tokens, List.dropLast_concat, htokens]
  have hkept : gather token? 1 kept <+: (scan (source ++ appended)).tokens := by
    rw [scan_tokens]
    exact hkeptTokens.trans (List.prefix_append _ _)
  have hchanged := length_gather_le token? line changed
  have hlengths := congrArg List.length hall
  rw [List.length_append] at hlengths
  -- The tokens of the kept segments are found again, so it is enough to drop as many as the others yield.
  have hwithin : ∀ tokens, tokens <+: (scan source).tokens.dropLast →
      tokens.length ≤ (gather token? 1 kept).length →
      tokens <+: (scan (source ++ appended)).tokens := by
    intro tokens htokens' hlength
    rw [hall] at htokens'
    exact (List.prefix_of_prefix_length_le htokens' (List.prefix_append _ _) hlength).trans hkept
  refine ⟨?_, ?_, ?_⟩
  · have htwo := hunsettled.length_le_two
    refine hwithin _ ((List.dropLast_prefix _).trans (List.dropLast_prefix _)) ?_
    rw [List.length_dropLast, List.length_dropLast]
    omega
  · intro hdot
    have htext : (kept ++ changed).flatMap text = source.toList := hcut ▸ flatMap_text_cutAll _
    have hone := hunsettled.length_le (htext ▸ hdot)
    refine hwithin _ (List.dropLast_prefix _) ?_
    rw [List.length_dropLast]
    omega
  · rcases hunsettled.errors line' with hnone | ⟨error, hopen, hone⟩
    · rw [hnone, List.append_nil] at herrors
      exact (settledErrors_isPrefix _).trans (herrors ▸ hkeptErrors)
    · rw [hone] at herrors
      rw [Scan.settledErrors, herrors, List.getLast?_concat, List.dropLast_concat]
      simpa [hopen] using hkeptErrors

/-- A digit behind a point makes one number of two lexemes, so neither of the two is found again. -/
example : (scan "1.").tokens.map Token.lexeme = ["1", ".", ""] ∧
    (scan "1.5").tokens.map Token.lexeme = ["1.5", ""] := by decide +kernel

end LoxLexer
