import LoxLexer.Proofs.Lookahead
import LoxLexer.Proofs.ReferenceScan
import LoxLexer.Text.LineEnding
import Mathlib.Data.List.Infix

/-!
# Carriage returns in front of line feeds

A source text may end its lines with a carriage return and a line feed instead of a line feed alone. Between
lexemes the carriage return is a blank, and inside a string or a comment it is a character like any other.
This file shows that it makes no difference but inside the values of strings: the segments of a text without its
carriage returns are those of the text, with the blanks for the carriage returns left out.
-/

namespace LoxLexer

open Segment

namespace Text

/-- Every carriage return stands right in front of a line feed. -/
def ReturnsPaired (text : List Char) : Prop :=
  ∀ rest, '\r' :: rest <:+ text → rest.head? = some '\n'

instance : DecidablePred ReturnsPaired := fun text =>
  decidable_of_iff (∀ rest ∈ text.tails, rest.head? = some '\r' → rest.tail.head? = some '\n') <| by
    constructor
    · intro h rest hrest
      exact h ('\r' :: rest) ((List.mem_tails _ _).mpr hrest) rfl
    · intro h rest hrest hreturn
      obtain ⟨more, rfl⟩ := List.head?_eq_some_iff.mp hreturn
      exact h more ((List.mem_tails _ _).mp hrest)

/-- Replaces every carriage return that has a line feed behind it by the line feed alone. -/
def replaceReturns : List Char → List Char
  | [] => []
  | '\r' :: '\n' :: rest => '\n' :: replaceReturns rest
  | c :: rest => c :: replaceReturns rest

/-- A text without its carriage returns. -/
def dropReturns (text : List Char) : List Char := text.filter (· ≠ '\r')

/-- Of a text without carriage returns nothing is left out. -/
theorem dropReturns_eq_self {text : List Char} (h : '\r' ∉ text) : dropReturns text = text :=
  List.filter_eq_self.mpr fun c hc => by simpa using ne_of_mem_of_not_mem hc h

/-- Carriage returns are paired if the first one is and those behind the first character are. -/
theorem returnsPaired_cons {c : Char} {rest : List Char} :
    ReturnsPaired (c :: rest) ↔ (c = '\r' → rest.head? = some '\n') ∧ ReturnsPaired rest := by
  constructor
  · intro h
    refine ⟨?_, fun behind hbehind => h behind (hbehind.trans (List.suffix_cons c rest))⟩
    rintro rfl
    exact h rest List.suffix_rfl
  · rintro ⟨hfirst, hrest⟩ behind hbehind
    rcases List.suffix_cons_iff.mp hbehind with heq | hbehind
    · obtain ⟨rfl, rfl⟩ := List.cons.inj heq
      exact hfirst rfl
    · exact hrest behind hbehind

/-- The carriage returns at the end of a text with paired ones are paired. -/
theorem ReturnsPaired.of_append {before after : List Char} (h : ReturnsPaired (before ++ after)) :
    ReturnsPaired after :=
  fun rest hrest => h rest (hrest.trans (List.suffix_append before after))

/-- In front of a character other than a line feed, carriage returns are paired among themselves. -/
theorem ReturnsPaired.of_append_cons {before after : List Char} {c : Char}
    (h : ReturnsPaired (before ++ c :: after)) (hc : c ≠ '\n') : ReturnsPaired before := by
  rintro rest ⟨earlier, rfl⟩
  have hhead := h (rest ++ c :: after) ⟨earlier, by simp⟩
  cases rest with
  | nil => exact absurd (by simpa using hhead) hc
  | cons d rest => simpa using hhead

/-- Carriage returns stay paired in front of another character. -/
theorem ReturnsPaired.concat {text : List Char} {c : Char} (h : ReturnsPaired text) (hc : c ≠ '\r') :
    ReturnsPaired (text ++ [c]) := by
  intro rest hrest
  rcases List.suffix_concat_iff.mp hrest with hnil | ⟨earlier, hearlier, hsuffix⟩
  · simp at hnil
  · cases earlier with
    | nil => exact absurd (List.cons.inj hearlier).1.symm hc
    | cons d earlier =>
      obtain ⟨rfl, rfl⟩ := List.cons.inj hearlier
      obtain ⟨more, rfl⟩ := List.head?_eq_some_iff.mp (h earlier hsuffix)
      rfl

/-- With paired carriage returns, replacing them is leaving them out. -/
theorem replaceReturns_eq {text : List Char} (h : ReturnsPaired text) :
    replaceReturns text = dropReturns text := by
  fun_induction replaceReturns text with
  | case1 => rfl
  | case2 rest ih =>
    rw [ih (returnsPaired_cons.mp (returnsPaired_cons.mp h).2).2]
    rfl
  | case3 c rest hpair ih =>
    obtain ⟨hfirst, hrest⟩ := returnsPaired_cons.mp h
    have hc : c ≠ '\r' := by
      rintro rfl
      obtain ⟨behind, rfl⟩ := List.head?_eq_some_iff.mp (hfirst rfl)
      exact hpair behind rfl rfl
    rw [ih hrest]
    simp [dropReturns, hc]

/-- With paired carriage returns, a line ending of any kind is the one that is left without them. -/
theorem unifyLineEndings_eq {text : List Char} (h : ReturnsPaired text) :
    unifyLineEndings text = dropReturns text := by
  have hfrom : ∀ done, unifyLineEndingsFrom done text = done.reverse ++ dropReturns text := by
    intro done
    fun_induction unifyLineEndingsFrom done text with
    | case1 => simp [dropReturns]
    | case2 done rest ih =>
      rw [ih (returnsPaired_cons.mp (returnsPaired_cons.mp h).2).2]
      simp [dropReturns]
    | case3 done rest hpair ih =>
      obtain ⟨behind, rfl⟩ := List.head?_eq_some_iff.mp ((returnsPaired_cons.mp h).1 rfl)
      exact absurd rfl (hpair behind)
    | case4 done c rest hpair hreturn ih =>
      rw [ih (returnsPaired_cons.mp h).2]
      have hc : c ≠ '\r' := hreturn
      simp [dropReturns, hc]
  exact hfrom []

/-- A character other than a line feed that comes first without the carriage returns comes first with them. -/
theorem eq_cons_of_dropReturns {text more : List Char} {d : Char} (h : ReturnsPaired text)
    (hd : d ≠ '\n') (hdrop : dropReturns text = d :: more) :
    ∃ rest, text = d :: rest ∧ dropReturns rest = more := by
  cases text with
  | nil => simp [dropReturns] at hdrop
  | cons c rest =>
    by_cases hc : c = '\r'
    · subst hc
      obtain ⟨behind, rfl⟩ := List.head?_eq_some_iff.mp ((returnsPaired_cons.mp h).1 rfl)
      exact absurd (by simpa [dropReturns] using (congrArg List.head? hdrop).symm) hd
    · have hfirst : c :: dropReturns rest = d :: more := by simpa [dropReturns, hc] using hdrop
      obtain ⟨rfl, hrest⟩ := List.cons.inj hfirst
      exact ⟨rest, rfl, hrest⟩

/-- Two characters of which the second is no line feed stand next to each other without the carriage returns only
if they do so with them. -/
theorem infix_of_dropReturns {text : List Char} {c d : Char} (h : ReturnsPaired text)
    (hd : d ≠ '\n') (hdrop : [c, d] <:+: dropReturns text) : [c, d] <:+: text := by
  induction text with
  | nil => simp [dropReturns] at hdrop
  | cons e rest ih =>
    have hrest := (returnsPaired_cons.mp h).2
    by_cases he : e = '\r'
    · subst he
      exact List.infix_cons (ih hrest (by simpa [dropReturns] using hdrop))
    · have hkept : dropReturns (e :: rest) = e :: dropReturns rest := by simp [dropReturns, he]
      rw [hkept] at hdrop
      rcases List.infix_cons_iff.mp hdrop with ⟨more, hmore⟩ | hlater
      · obtain ⟨rfl, hbehind⟩ := List.cons.inj hmore
        obtain ⟨tail, rfl, -⟩ := eq_cons_of_dropReturns hrest hd hbehind.symm
        exact ⟨[], tail, rfl⟩
      · exact List.infix_cons (ih hrest hlater)

end Text

/-! ## Segments -/

namespace Segment

/-- A segment without the carriage returns in its body. -/
def withoutReturns : Segment → Segment
  | string body => string (Text.dropReturns body)
  | lineComment body => lineComment (Text.dropReturns body)
  | blockComment body => blockComment (Text.dropReturns body)
  | openString body => openString (Text.dropReturns body)
  | openComment body => openComment (Text.dropReturns body)
  | segment => segment

variable {segment : Segment} {rest : List Char}

/-- Carriage returns stand in bodies only, or are blanks. -/
theorem text_withoutReturns (h : segment.Proper) (hblank : segment ≠ blank '\r') :
    segment.withoutReturns.text = Text.dropReturns segment.text := by
  have hpart : ¬ IsWordPart '\r' := by decide
  cases segment with
  | string body | lineComment body | blockComment body | openString body | openComment body =>
    simp [withoutReturns, text, Text.dropReturns]
  | word chars =>
    refine (Text.dropReturns_eq_self ?_).symm
    intro hmem
    cases chars with
    | nil => exact h
    | cons c chars =>
      rcases List.mem_cons.mp hmem with rfl | hmem
      · exact hpart (.inl h.1)
      · exact hpart (h.2 _ hmem)
  | number whole fraction =>
    refine (Text.dropReturns_eq_self ?_).symm
    intro hmem
    rcases isDecimal_or_point_of_mem h.1 h.2 hmem with hdecimal | hpoint
    · exact hpart (.inr hdecimal)
    · exact absurd hpoint (by decide)
  | mark kind =>
    refine (Text.dropReturns_eq_self ?_).symm
    revert h
    simp only [Proper, text]
    cases kind <;> decide
  | blank c =>
    refine (Text.dropReturns_eq_self ?_).symm
    intro hmem
    obtain rfl := List.mem_singleton.mp hmem
    exact hblank rfl
  | newline => rfl
  | stray c =>
    refine (Text.dropReturns_eq_self ?_).symm
    intro hmem
    obtain rfl := List.mem_singleton.mp hmem
    exact h.1 (by decide)

/-- What a segment takes does not depend on the carriage returns in its body. -/
theorem takes_withoutReturns {d : Char} : segment.withoutReturns.Takes d ↔ segment.Takes d := by
  cases segment <;> rfl

/-- The characters of a segment stay such as the grammar asks for. -/
theorem Proper.withoutReturns (h : segment.Proper) (hpaired : Text.ReturnsPaired (segment.text ++ rest))
    (hrest : segment.isOpen = true → rest = []) : segment.withoutReturns.Proper := by
  have hsub : ∀ {c : Char} {body : List Char}, c ∉ body → c ∉ Text.dropReturns body :=
    fun hc hmem => hc (List.mem_of_mem_filter hmem)
  cases segment with
  | string body | lineComment body | openString body => exact hsub h
  | blockComment body =>
    have htext : (blockComment body).text ++ rest = ['/', '*'] ++ body ++ '*' :: '/' :: rest := by
      simp [text]
    rw [htext] at hpaired
    have hbody := (hpaired.of_append_cons (by decide)).of_append
    rw [Proper, beforeFirst_commentEnd_iff] at h
    exact beforeFirst_commentEnd_iff.mpr fun hmem =>
      h (Text.infix_of_dropReturns hbody (by decide) hmem)
  | openComment body =>
    obtain rfl := hrest rfl
    have htext : (openComment body).text ++ [] = ['/', '*'] ++ body := by simp [text]
    rw [htext] at hpaired
    exact fun hmem => h (Text.infix_of_dropReturns hpaired.of_append (by decide) hmem)
  | word | number | mark | blank | newline | stray => exact h

/-- A segment ends in front of a text as it does with the carriage returns. -/
theorem EndsBefore.withoutReturns (h : segment.EndsBefore rest) (hpaired : Text.ReturnsPaired rest) :
    segment.withoutReturns.EndsBefore (Text.dropReturns rest) := by
  constructor
  · intro d hd htakes
    rw [takes_withoutReturns] at htakes
    obtain ⟨more, hmore⟩ := List.head?_eq_some_iff.mp hd
    by_cases hnewline : d = '\n'
    · subst hnewline
      cases hopen : segment.isOpen with
      | false => exact not_takes_newline hopen htakes
      | true =>
        rw [h.eq_nil hopen] at hmore
        simp [Text.dropReturns] at hmore
    · obtain ⟨tail, rfl, -⟩ := Text.eq_cons_of_dropReturns hpaired hnewline hmore
      exact h.next d rfl htakes
  · intro whole d more hsegment hmore hdecimal
    have hnumber : segment = number whole [] := by
      cases segment <;> simp_all [withoutReturns]
    have hd : d ≠ '\n' := by
      rintro rfl
      exact absurd hdecimal (by decide)
    obtain ⟨tail, rfl, htail⟩ := Text.eq_cons_of_dropReturns hpaired (by decide) hmore
    obtain ⟨behind, rfl, -⟩ :=
      Text.eq_cons_of_dropReturns (Text.returnsPaired_cons.mp hpaired).2 hd htail
    exact h.point whole d behind hnumber rfl hdecimal

end Segment

/-- The segments of a text without its carriage returns are those of the text without theirs, and without the blanks
that are carriage returns. -/
theorem Segmentation.cutAll_dropReturns {text : List Char} {segments : List Segment}
    (h : Segmentation text segments) (hpaired : Text.ReturnsPaired text) :
    cutAll (Text.dropReturns text) = (segments.filter (· ≠ blank '\r')).map withoutReturns := by
  induction h with
  | nil => exact cutAll_nil
  | @cons text rest segment segments hnext htext _ ih =>
    subst htext
    have hrest := hpaired.of_append
    have hdrop : Text.dropReturns (segment.text ++ rest) =
        Text.dropReturns segment.text ++ Text.dropReturns rest := List.filter_append _ _
    rw [hdrop]
    by_cases hblank : segment = blank '\r'
    · subst hblank
      exact ih hrest
    · obtain ⟨hproper, hends⟩ := hnext.proper_endsBefore
      have hnext' := (hproper.withoutReturns hpaired hends.eq_nil).nextSegment
        (hends.withoutReturns hrest)
      rw [← text_withoutReturns hproper hblank, cutAll_append hnext', ih hrest,
        List.filter_cons_of_pos (by simpa using hblank), List.map_cons]

/-! ## Scans -/

/-- A text with a line feed in the place of every carriage return and line feed. -/
def withLineFeeds (text : String) : String := String.ofList (Text.replaceReturns text.toList)

/-- A value with a line feed in the place of every carriage return and line feed. -/
def Literal.withLineFeeds : Literal → Literal
  | text value => text (LoxLexer.withLineFeeds value)
  | number value => number value

/-- A token with a line feed in the place of every carriage return and line feed if it is a string, and any other
token as it is. -/
def Token.withLineFeeds (token : Token) : Token :=
  if token.kind = .string then
    { token with
      lexeme := LoxLexer.withLineFeeds token.lexeme
      literal := token.literal.map Literal.withLineFeeds }
  else token

/-- No word is classified as a string. -/
theorem Kind.ofWord_ne_string (word : String) : ofWord word ≠ string := by
  have hkeywords : ∀ kind ∈ keywords, kind ≠ string := by decide
  unfold ofWord
  cases hfound : ofKeyword? word with
  | none => decide
  | some kind => exact hkeywords kind (List.mem_of_find?_eq_some hfound)

namespace Segment

/-- As many lines end in a text without its carriage returns. -/
theorem count_dropReturns (text : List Char) : (Text.dropReturns text).count '\n' = text.count '\n' := by
  rw [Text.dropReturns, List.count_filter]
  rfl

/-- As many lines end in a segment without the carriage returns in its body. -/
theorem newlines_withoutReturns (segment : Segment) :
    segment.withoutReturns.newlines = segment.newlines := by
  cases segment <;> simp [newlines, withoutReturns, text, count_dropReturns]

/-- What segments yield without their carriage returns, if each of them yields it. -/
theorem gather_withoutReturns {α : Type} (yield : Nat → Segment → Option α) (change : α → α)
    {segments : List Segment} (hblank : ∀ line, yield line (blank '\r') = none)
    (h : ∀ segment ∈ segments, ∀ line,
      yield line segment.withoutReturns = (yield line segment).map change) (line : Nat) :
    gather yield line ((segments.filter (· ≠ blank '\r')).map withoutReturns) =
      (gather yield line segments).map change := by
  induction segments generalizing line with
  | nil => rfl
  | cons segment segments ih =>
    have ih' := ih fun later hlater => h later (by simp [hlater])
    by_cases hreturn : segment = blank '\r'
    · subst hreturn
      rw [gather, hblank]
      exact ih' line
    · rw [List.filter_cons_of_pos (by simpa using hreturn), List.map_cons, gather, gather,
        newlines_withoutReturns, ih', h segment (by simp), List.map_append, Option.toList_map]

/-- The error of a segment does not depend on the carriage returns in its body. -/
theorem error?_withoutReturns (line : Nat) (segment : Segment) :
    segment.withoutReturns.error? line = segment.error? line := by
  have hfault : segment.withoutReturns.fault? = segment.fault? := by cases segment <;> rfl
  rw [error?, error?, hfault, newlines_withoutReturns]

/-- The token of a segment without the carriage returns in its body is the token with line feeds in their place. -/
theorem token?_withoutReturns {text : List Char} (hpaired : Text.ReturnsPaired text)
    {segment : Segment} (hsegment : segment ∈ cutAll text) (line : Nat) :
    segment.withoutReturns.token? line = (segment.token? line).map Token.withLineFeeds := by
  obtain ⟨rest, hnext⟩ := exists_nextSegment_of_mem hsegment
  have hproper := hnext.proper_endsBefore.1
  cases segment with
  | string body =>
    have hbody : Text.ReturnsPaired ('"' :: body) := by
      obtain ⟨before, after, hcut⟩ := List.append_of_mem hsegment
      have htext := flatMap_text_cutAll text
      rw [hcut, List.flatMap_append, List.flatMap_cons] at htext
      rw [← htext, Segment.text, List.append_assoc] at hpaired
      exact hpaired.of_append.of_append_cons (by decide)
    have hvalue := Text.replaceReturns_eq (Text.returnsPaired_cons.mp hbody).2
    have hlexeme := Text.replaceReturns_eq (hbody.concat (by decide : '"' ≠ '\r'))
    have hdrop : Text.dropReturns ('"' :: body ++ ['"']) = '"' :: Text.dropReturns body ++ ['"'] := by
      simp [Text.dropReturns]
    simp only [withoutReturns, token?, Segment.text, Option.map_some, Token.withLineFeeds, if_pos,
      Literal.withLineFeeds, withLineFeeds, String.toList_ofList, hvalue, hlexeme, hdrop]
  | word chars =>
    simp [withoutReturns, token?, Token.withLineFeeds, Kind.ofWord_ne_string]
  | mark kind =>
    have hkind : kind ≠ .string := by
      rintro rfl
      exact absurd (show Kind.string ∈ Kind.marks from hproper) (by decide)
    simp [withoutReturns, token?, Token.withLineFeeds, hkind]
  | number | lineComment | blockComment | blank | newline | openString | openComment | stray => rfl

end Segment

/-- **Line endings do not matter.** If every carriage return stands in front of a line feed, then a scan of the text
with line feeds in the place of both finds the same errors and the same tokens, but for the line endings inside
strings. The text of a file is read with line feeds in the place of all line endings, which are then the same. -/
theorem scan_withLineFeeds (source : String) (h : Text.ReturnsPaired source.toList) :
    (scan (withLineFeeds source)).errors = (scan source).errors ∧
      (scan (withLineFeeds source)).tokens = (scan source).tokens.map Token.withLineFeeds ∧
      Text.unifyLineEndings source.toList = (withLineFeeds source).toList := by
  have htext : (withLineFeeds source).toList = Text.dropReturns source.toList := by
    rw [withLineFeeds, String.toList_ofList, Text.replaceReturns_eq h]
  have hsegmentation := segmentation_iff.mpr (rfl : cutAll source.toList = _)
  have hcut := hsegmentation.cutAll_dropReturns h
  refine ⟨?_, ?_, ?_⟩
  · have herrors := gather_withoutReturns error? id (fun _ => rfl)
      (fun segment (_ : segment ∈ cutAll source.toList) line => by
        rw [error?_withoutReturns, Option.map_id, id]) 1
    rw [scan_errors, scan_errors, htext, yieldOf, hcut, herrors, List.map_id, yieldOf]
  · have htokens := gather_withoutReturns token? Token.withLineFeeds (fun _ => rfl)
      (fun segment hsegment line => token?_withoutReturns h hsegment line) 1
    rw [scan_tokens, scan_tokens, htext, yieldOf, hcut, htokens, Segment.count_dropReturns,
      List.map_append, yieldOf]
    rfl
  · rw [htext, Text.unifyLineEndings_eq h]

/-- Carriage returns inside a string and a comment, behind a point and an operator, and at the end of a comment. -/
theorem scan_withLineFeeds_bodies :
    Text.ReturnsPaired "\"a\r\nb\" /*\r\n*/ 1.\r\n5 =\r\n= // c\r\n@".toList ∧
      (scan (withLineFeeds "\"a\r\nb\" /*\r\n*/ 1.\r\n5 =\r\n= // c\r\n@")).errors =
        [⟨6, "Unexpected character."⟩] ∧
      (scan (withLineFeeds "\"a\r\nb\" /*\r\n*/ 1.\r\n5 =\r\n= // c\r\n@")).tokens.map
          (fun token => (token.lexeme, token.line)) =
        [("\"a\nb\"", 1), ("1", 3), (".", 3), ("5", 4), ("=", 4), ("=", 5), ("", 6)] := by
  have hpaired : Text.ReturnsPaired
      "\"a\r\nb\" /*\r\n*/ 1.\r\n5 =\r\n= // c\r\n@".toList := by decide +kernel
  obtain ⟨herrors, htokens, -⟩ := scan_withLineFeeds _ hpaired
  rw [herrors, htokens]
  exact ⟨hpaired, by decide +kernel, by decide +kernel⟩

end LoxLexer
