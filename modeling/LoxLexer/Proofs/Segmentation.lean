import LoxLexer.Proofs.CutSemantics

/-!
# The reference lexer

`NextSegment` states the lexical grammar: which segment a text starts with. The longest word or
numeral counts, a string or comment reaches to the first closing mark, and an operator takes an equals
sign that follows it. `Segmentation` applies the grammar from the start of a text to its end.
The grammar gives every text exactly one segmentation, the one that `Segment.cut` produces.
-/

namespace LoxLexer

open Segment

/-- The lexical grammar: a non-empty text starts with the given segment. -/
inductive NextSegment : List Char → Segment → Prop
  /-- The longest word. -/
  | word {text chars : List Char} : LongestPrefix IsWord text chars → NextSegment text (.word chars)
  /-- The longest numeral, told apart into the digits before and behind the point. -/
  | number {text whole fraction : List Char} : IsDigits whole → fraction = [] ∨ IsDigits fraction →
      LongestPrefix IsNumeral text (Segment.number whole fraction).text →
      NextSegment text (.number whole fraction)
  /-- Everything through the next quote. -/
  | string {rest body : List Char} : BeforeFirst ['"'] rest body →
      NextSegment ('"' :: rest) (.string body)
  /-- The whole text if there is no further quote. -/
  | openString {rest : List Char} : '"' ∉ rest → NextSegment ('"' :: rest) (.openString rest)
  /-- Everything up to the next line end. -/
  | lineComment {rest body : List Char} : BeforeFirst ['\n'] rest body →
      NextSegment ('/' :: '/' :: rest) (.lineComment body)
  /-- The whole text if there is no further line end. -/
  | lastComment {rest : List Char} : '\n' ∉ rest →
      NextSegment ('/' :: '/' :: rest) (.lineComment rest)
  /-- Everything through the first end that starts behind the opening characters. -/
  | blockComment {rest body : List Char} : BeforeFirst ['*', '/'] rest body →
      NextSegment ('/' :: '*' :: rest) (.blockComment body)
  /-- The whole text if there is no such end. -/
  | openComment {rest : List Char} : ¬ ['*', '/'] <:+: rest →
      NextSegment ('/' :: '*' :: rest) (.openComment rest)
  /-- The two-character form of an operator. -/
  | longOperator {c : Char} {rest : List Char} {kind : Kind} : c ∈ operatorChars →
      kind.spelling.toList = [c, '='] → NextSegment (c :: '=' :: rest) (.mark kind)
  /-- The one-character form of an operator. -/
  | shortOperator {c : Char} {rest : List Char} {kind : Kind} : c ∈ operatorChars →
      kind.spelling.toList = [c] → rest.head? ≠ some '=' → NextSegment (c :: rest) (.mark kind)
  /-- A slash that starts no comment. -/
  | slash {rest : List Char} : rest.head? ≠ some '/' → rest.head? ≠ some '*' →
      NextSegment ('/' :: rest) (.mark .slash)
  /-- One character of punctuation. -/
  | punctuation {c : Char} {rest : List Char} {kind : Kind} : c ∈ punctuationChars →
      kind.spelling.toList = [c] → NextSegment (c :: rest) (.mark kind)
  /-- One blank. -/
  | blank {c : Char} {rest : List Char} : c ∈ blankChars → NextSegment (c :: rest) (.blank c)
  /-- One line end. -/
  | newline {rest : List Char} : NextSegment ('\n' :: rest) .newline
  /-- One character of any other kind. -/
  | stray {c : Char} {rest : List Char} : c ∉ signChars → ¬ IsWordPart c →
      NextSegment (c :: rest) (.stray c)

/-- The grammar applied again and again: a text consists of the given segments. -/
inductive Segmentation : List Char → List Segment → Prop
  /-- An empty text has no segments. -/
  | nil : Segmentation [] []
  /-- Any other text has its first segment and those of what stands behind it. -/
  | cons {text rest : List Char} {segment : Segment} {segments : List Segment} :
      NextSegment text segment → text = segment.text ++ rest → Segmentation rest segments →
      Segmentation text (segment :: segments)

/-! ## The grammar and the cut -/

/-- Every text starts with a run of characters that have a property, and then comes one without it. -/
theorem exists_run (P : Char → Prop) [DecidablePred P] (text : List Char) :
    ∃ run rest, text = run ++ rest ∧ (∀ c ∈ run, P c) ∧ ∀ d ∈ rest.head?, ¬ P d := by
  refine ⟨text.takeWhile (fun c => decide (P c)), text.dropWhile (fun c => decide (P c)),
    List.takeWhile_append_dropWhile.symm, ?_, ?_⟩
  · intro c hc
    simpa using List.mem_takeWhile_imp hc
  · intro d hd
    have hstop := List.head?_dropWhile_not (fun c => decide (P c)) text
    rw [Option.mem_def.mp hd] at hstop
    simpa using hstop

/-- A text that starts with a letter is cut behind its longest word. -/
theorem cut_of_isLetter {c : Char} (hc : IsLetter c) (rest : List Char) :
    ∃ chars, (cut c rest).1 = .word chars ∧ LongestPrefix IsWord (c :: rest) chars := by
  obtain ⟨run, behind, rfl, hrun, hstop⟩ := exists_run IsWordPart rest
  have hword : IsWord (c :: run) := ⟨hc, hrun⟩
  exact ⟨c :: run, by rw [cut_word hword hstop], longestPrefix_isWord hword hstop⟩

/-- A text that starts with a digit is cut behind its longest numeral. -/
theorem cut_of_isDecimal_longest {c : Char} (hc : IsDecimal c) (rest : List Char) :
    ∃ whole fraction, (cut c rest).1 = .number whole fraction ∧ IsDigits whole ∧
      (fraction = [] ∨ IsDigits fraction) ∧
      LongestPrefix IsNumeral (c :: rest) (Segment.number whole fraction).text := by
  obtain ⟨run, behind, rfl, hrun, hstop⟩ := exists_run IsDecimal rest
  have hwhole : IsDigits (c :: run) := isDigits_cons hc hrun
  rw [cut_of_isDecimal hc, ← List.cons_append]
  by_cases hpoint : ∃ d more, behind = '.' :: d :: more ∧ IsDecimal d
  · obtain ⟨d, more, rfl, hd⟩ := hpoint
    obtain ⟨run', behind', rfl, hrun', hstop'⟩ := exists_run IsDecimal more
    have hfraction : IsDigits (d :: run') := isDigits_cons hd hrun'
    refine ⟨c :: run, d :: run', ?_, hwhole, .inr hfraction, ?_⟩
    · have hcut := cutNumber_point hwhole.2 hfraction hstop'
      simp only [List.cons_append, List.append_assoc] at hcut ⊢
      rw [hcut]
    · simpa [Segment.text] using longestPrefix_point hwhole hfraction hstop'
  · push Not at hpoint
    refine ⟨c :: run, [], ?_, hwhole, .inl rfl, longestPrefix_whole hwhole hstop hpoint⟩
    rw [cutNumber_whole hwhole.2 hstop hpoint]

/-- What is cut off behind a slash is what the grammar asks for. -/
theorem nextSegment_cutSlash (rest : List Char) : NextSegment ('/' :: rest) (cutSlash rest).1 := by
  by_cases hslash : rest.head? = some '/'
  · obtain ⟨inner, rfl⟩ := List.head?_eq_some_iff.mp hslash
    by_cases hend : '\n' ∈ inner
    · obtain ⟨body, after, rfl, hbody⟩ := List.eq_append_cons_of_mem hend
      rw [← List.cons_append, cutSlash_line hbody]
      exact .lineComment (beforeFirst_singleton_iff.mpr ⟨hbody, after, rfl⟩)
    · rw [cutSlash_lastLine hend]
      exact .lastComment hend
  by_cases hstar : rest.head? = some '*'
  · obtain ⟨inner, rfl⟩ := List.head?_eq_some_iff.mp hstar
    cases hsplit : splitComment [] inner with
    | some parts =>
      obtain ⟨body, hbody, hfirst⟩ := beforeFirst_of_splitComment hsplit
      obtain ⟨after, rfl⟩ := hfirst.occurs
      rw [List.append_assoc, List.cons_append, List.cons_append, List.nil_append] at hfirst ⊢
      rw [← List.cons_append, cutSlash_block hfirst]
      exact .blockComment hfirst
    | none =>
      have hinfix := not_infix_of_splitComment hsplit
      rw [cutSlash_openBlock hinfix]
      exact .openComment hinfix
  · rw [cutSlash_mark hslash hstar]
    exact .slash hslash hstar

/-- What is cut off a text is what the grammar asks for. -/
theorem nextSegment_cut (c : Char) (rest : List Char) : NextSegment (c :: rest) (cut c rest).1 := by
  by_cases hsign : c ∈ signChars
  · simp only [signChars, List.mem_append] at hsign
    rcases hsign with ((hpunctuation | hoperator) | hblank) | hother
    · obtain ⟨kind, _, hspelling⟩ := exists_punctuation c hpunctuation
      rw [cut_punctuation hpunctuation hspelling]
      exact .punctuation hpunctuation hspelling
    · obtain ⟨kinds, hshort, hlong, hcut⟩ := cut_operator hoperator rest
      rw [hcut]
      by_cases hequal : rest.head? = some '='
      · obtain ⟨behind, rfl⟩ := List.head?_eq_some_iff.mp hequal
        exact .longOperator hoperator hlong
      · rw [cutOperator_short _ hequal]
        exact .shortOperator hoperator hshort hequal
    · rw [cut_blank hblank]
      exact .blank hblank
    · simp only [List.mem_cons, List.not_mem_nil, or_false] at hother
      rcases hother with rfl | rfl | rfl
      · exact nextSegment_cutSlash rest
      · exact .newline
      · rw [cut_quote]
        by_cases hquote : '"' ∈ rest
        · obtain ⟨body, after, rfl, hbody⟩ := List.eq_append_cons_of_mem hquote
          rw [cutString_closed hbody]
          exact .string (beforeFirst_singleton_iff.mpr ⟨hbody, after, rfl⟩)
        · rw [cutString_open hquote]
          exact .openString hquote
  by_cases hletter : IsLetter c
  · obtain ⟨chars, hcut, hlongest⟩ := cut_of_isLetter hletter rest
    rw [hcut]
    exact .word hlongest
  by_cases hdecimal : IsDecimal c
  · obtain ⟨whole, fraction, hcut, hwhole, hfraction, hlongest⟩ :=
      cut_of_isDecimal_longest hdecimal rest
    rw [hcut]
    exact .number hwhole hfraction hlongest
  · have hpart : ¬ IsWordPart c := by simp [IsWordPart, hletter, hdecimal]
    rw [cut_stray hsign hpart]
    exact .stray hsign hpart

/-- The text of a numeral shows which digits stand before and which behind the point. -/
theorem number_text_injective {whole whole' fraction fraction' : List Char}
    (hwhole : IsDigits whole) (hwhole' : IsDigits whole')
    (h : (Segment.number whole fraction).text = (Segment.number whole' fraction').text) :
    whole = whole' ∧ fraction = fraction' := by
  have htake : ∀ {digits fraction : List Char}, IsDigits digits →
      (Segment.number digits fraction).text.takeWhile Char.isDigit = digits := by
    intro digits fraction hdigits
    cases fraction with
    | nil => simpa [Segment.text] using fun d hd => isDigit_iff.mpr (hdigits.2 d hd)
    | cons d fraction =>
      have hpoint : ¬ IsDecimal '.' := by decide
      exact takeWhile_digits hdigits.2 (by simpa using hpoint)
  obtain rfl : whole = whole' := by rw [← htake hwhole, h, htake hwhole']
  cases fraction <;> cases fraction' <;> simp_all [Segment.text]

/-- What the grammar asks for is what is cut off a text. -/
theorem NextSegment.cut_eq {c : Char} {rest : List Char} {segment : Segment}
    (h : NextSegment (c :: rest) segment) : (cut c rest).1 = segment := by
  cases h with
  | @word _ chars hlongest =>
    cases chars with
    | nil => exact hlongest.member.elim
    | cons d chars =>
      obtain rfl := (List.cons_prefix_cons.mp hlongest.starts).1
      obtain ⟨chars', hcut, hlongest'⟩ := cut_of_isLetter hlongest.member.1 rest
      rw [hcut, hlongest'.unique hlongest]
  | @number _ whole fraction hwhole hfraction hlongest =>
    have hc : IsDecimal c := by
      obtain ⟨hne, hall⟩ := hwhole
      cases whole with
      | nil => exact absurd rfl hne
      | cons d whole =>
        have hstarts := hlongest.starts
        cases fraction with
        | nil => exact (List.cons_prefix_cons.mp hstarts).1 ▸ hall d (by simp)
        | cons e fraction => exact (List.cons_prefix_cons.mp hstarts).1 ▸ hall d (by simp)
    obtain ⟨whole', fraction', hcut, hwhole', _, hlongest'⟩ := cut_of_isDecimal_longest hc rest
    obtain ⟨rfl, rfl⟩ := number_text_injective hwhole' hwhole (hlongest'.unique hlongest)
    exact hcut
  | string hbody =>
    obtain ⟨hquote, after, rfl⟩ := beforeFirst_singleton_iff.mp hbody
    rw [cut_quote, cutString_closed hquote]
  | openString hquote => rw [cut_quote, cutString_open hquote]
  | lineComment hbody =>
    obtain ⟨hend, after, rfl⟩ := beforeFirst_singleton_iff.mp hbody
    rw [cut_slash, ← List.cons_append, cutSlash_line hend]
  | lastComment hend => rw [cut_slash, cutSlash_lastLine hend]
  | @blockComment _ body hbody =>
    obtain ⟨after, rfl⟩ := hbody.occurs
    rw [List.append_assoc, List.cons_append, List.cons_append, List.nil_append] at hbody ⊢
    rw [cut_slash, ← List.cons_append, cutSlash_block hbody]
  | openComment hend => rw [cut_slash, cutSlash_openBlock hend]
  | @longOperator _ rest kind hc hspelling =>
    obtain ⟨kinds, _, hlong, hcut⟩ := cut_operator hc ('=' :: rest)
    obtain rfl := Kind.spelling_injective (String.toList_injective (hspelling.trans hlong.symm))
    rw [hcut, cutOperator_long]
  | @shortOperator _ _ kind hc hspelling hequal =>
    obtain ⟨kinds, hshort, _, hcut⟩ := cut_operator hc rest
    obtain rfl := Kind.spelling_injective (String.toList_injective (hspelling.trans hshort.symm))
    rw [hcut, cutOperator_short _ hequal]
  | slash hslash hstar => rw [cut_slash, cutSlash_mark hslash hstar]
  | punctuation hc hspelling => rw [cut_punctuation hc hspelling]
  | blank hc => rw [cut_blank hc]
  | newline => rw [cut_newline]
  | stray hsign hc => rw [cut_stray hsign hc]

/-- Nothing starts where a text has ended. -/
theorem not_nextSegment_nil (segment : Segment) : ¬ NextSegment [] segment := by
  intro h
  cases h with
  | word hlongest =>
    obtain ⟨hstarts, hword, _⟩ := hlongest
    rw [List.prefix_nil.mp hstarts] at hword
    exact hword
  | @number _ whole fraction hwhole _ hlongest =>
    have hnil := List.prefix_nil.mp hlongest.starts
    cases fraction with
    | nil => exact hwhole.1 hnil
    | cons d fraction => simp [Segment.text] at hnil

/-- The grammar and the cut agree about the first segment of every text. -/
theorem nextSegment_iff {c : Char} {rest : List Char} {segment : Segment} :
    NextSegment (c :: rest) segment ↔ (cut c rest).1 = segment := by
  constructor
  · exact NextSegment.cut_eq
  · rintro rfl
    exact nextSegment_cut c rest

/-! ## Cutting a whole text -/

/-- The segments that a text is cut into, from left to right. -/
def Segment.cutAll : List Char → List Segment
  | [] => []
  | c :: rest => (cut c rest).1 :: cutAll (cut c rest).2
termination_by text => text.length
decreasing_by
  have := length_cut_le c rest
  simp only [List.length_cons]
  omega

@[simp] theorem cutAll_nil : cutAll [] = [] := by rw [cutAll]

theorem cutAll_cons (c : Char) (rest : List Char) :
    cutAll (c :: rest) = (cut c rest).1 :: cutAll (cut c rest).2 := by rw [cutAll]

/-- If a text starts with a segment by the grammar, that segment is cut off it and the cut goes on
behind the segment. -/
theorem cutAll_append {segment : Segment} {rest : List Char}
    (h : NextSegment (segment.text ++ rest) segment) :
    cutAll (segment.text ++ rest) = segment :: cutAll rest := by
  generalize htext : segment.text ++ rest = text at h
  cases text with
  | nil => exact absurd h (not_nextSegment_nil segment)
  | cons c behind =>
    have hcut := h.cut_eq
    have happend := text_cut_append c behind
    rw [hcut, ← htext, List.append_cancel_left_eq] at happend
    rw [cutAll_cons, hcut, happend]

/-- The grammar gives a text the segments that it is cut into, and no others. -/
theorem segmentation_iff {text : List Char} {segments : List Segment} :
    Segmentation text segments ↔ segments = cutAll text := by
  constructor
  · intro h
    induction h with
    | nil => simp
    | cons hnext htext _ ih =>
      subst htext
      rw [ih, cutAll_append hnext]
  · rintro rfl
    fun_induction cutAll text with
    | case1 => exact .nil
    | case2 c rest ih => exact .cons (nextSegment_cut c rest) (text_cut_append c rest).symm ih

/-- The segments of a text are known if its first segment and those of the rest are. -/
theorem cutAll_eq_cons_iff {segment : Segment} {rest : List Char} {segments : List Segment} :
    cutAll (segment.text ++ rest) = segment :: segments ↔
      NextSegment (segment.text ++ rest) segment ∧ cutAll rest = segments := by
  constructor
  · intro h
    generalize htext : segment.text ++ rest = text at h ⊢
    cases segmentation_iff.mpr h.symm with
    | cons hnext htext' hrest =>
      obtain rfl := List.append_cancel_left (htext.trans htext')
      exact ⟨hnext, (segmentation_iff.mp hrest).symm⟩
  · rintro ⟨hnext, rfl⟩
    exact cutAll_append hnext

/-- The segments of a text make up the text. -/
theorem flatMap_text_cutAll (text : List Char) : (cutAll text).flatMap Segment.text = text := by
  fun_induction cutAll text with
  | case1 => rfl
  | case2 c rest ih => rw [List.flatMap_cons, ih, text_cut_append]

/-- Every segment of a text is the first one of some text by the grammar. -/
theorem exists_nextSegment_of_mem {text : List Char} {segment : Segment}
    (h : segment ∈ cutAll text) : ∃ rest, NextSegment (segment.text ++ rest) segment := by
  fun_induction cutAll text with
  | case1 => simp at h
  | case2 c rest ih =>
    rcases List.mem_cons.mp h with rfl | h
    · exact ⟨(cut c rest).2, by rw [text_cut_append]; exact nextSegment_cut c rest⟩
    · exact ih h

end LoxLexer
