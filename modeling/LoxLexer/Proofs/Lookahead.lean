import LoxLexer.Proofs.Segmentation

/-!
# Where segments end

Which segment a text starts with depends on what stands behind the segment, but not on much of it: on the
next character and, for a number without a fraction, on the one after that. `EndsBefore` says when
a segment ends in front of a given rest, and `nextSegment_append_iff` that the grammar asks for
nothing else. So one text may be put in the place of another if the segments in front of it still end there.
-/

namespace LoxLexer

open Segment

namespace Kind

/-- The characters that make a longer segment of a mark when they stand right behind it. -/
def continuations : Kind → List Char
  | bang | equal | less | greater => ['=']
  | slash => ['/', '*']
  | _ => []

/-- The kinds of punctuation and operators. -/
def marks : List Kind :=
  [leftParen, rightParen, leftBrace, rightBrace, comma, dot, minus, plus, semicolon, slash, star,
   bang, bangEqual, equal, equalEqual, greater, greaterEqual, less, lessEqual]

/-- How marks are spelled: as punctuation, as an operator in one of its two forms, or as a slash. -/
theorem spelling_of_mem_marks {kind : Kind} (h : kind ∈ marks) :
    (∃ c ∈ punctuationChars, kind.spelling.toList = [c]) ∨
      (∃ c ∈ operatorChars, kind.spelling.toList = [c] ∨ kind.spelling.toList = [c, '=']) ∨
      kind = slash := by
  cases kind <;> first
    | exact absurd h (by decide)
    | exact .inl ⟨_, by decide, rfl⟩
    | exact .inr (.inl ⟨_, by decide, .inl rfl⟩)
    | exact .inr (.inl ⟨_, by decide, .inr rfl⟩)
    | exact .inr (.inr rfl)

/-- A kind that is spelled as one character is a mark. -/
theorem mem_marks_of_spelling {kind : Kind} {c : Char} (h : kind.spelling.toList = [c]) :
    kind ∈ marks := by
  have hlength : kind.spelling.toList.length = 1 := by rw [h]; rfl
  cases kind <;> first
    | decide
    | exact absurd hlength (by decide)

/-- A kind that is spelled with an equals sign behind another character is a mark. -/
theorem mem_marks_of_spelling_equals {kind : Kind} {c : Char}
    (h : kind.spelling.toList = [c, '=']) : kind ∈ marks := by
  have hlast : kind.spelling.toList.getLast? = some '=' := by rw [h]; rfl
  cases kind <;> first
    | decide
    | exact absurd hlast (by decide)

/-- A mark goes on with signs only. -/
theorem mem_of_mem_continuations {kind : Kind} : ∀ c ∈ kind.continuations, c ∈ ['=', '/', '*'] :=
  List.forall_iff_forall_mem.mp (by cases kind <;> decide)

/-- Punctuation does not go on. -/
theorem continuations_punctuation {kind : Kind} : ∀ c ∈ punctuationChars,
    kind.spelling.toList = [c] → kind.continuations = [] :=
  List.forall_iff_forall_mem.mp (by cases kind <;> decide)

/-- The one-character form of an operator goes on with an equals sign. -/
theorem continuations_operator {kind : Kind} : ∀ c ∈ operatorChars,
    kind.spelling.toList = [c] → kind.continuations = ['='] :=
  List.forall_iff_forall_mem.mp (by cases kind <;> decide)

/-- The two-character form of an operator does not go on. -/
theorem continuations_longOperator {kind : Kind} : ∀ c ∈ operatorChars,
    kind.spelling.toList = [c, '='] → kind.continuations = [] :=
  List.forall_iff_forall_mem.mp (by cases kind <;> decide)

end Kind

/-- A longest prefix in a class does not go on behind its end. -/
theorem LongestPrefix.not_append {Class : List Char → Prop} {part rest : List Char}
    (h : LongestPrefix Class (part ++ rest) part) {d : Char} (more : List Char)
    (hmore : (d :: more) <+: rest) : ¬ Class (part ++ d :: more) := by
  intro hclass
  have hle := h.longest (part ++ d :: more) ((List.prefix_append_right_inj part).mpr hmore) hclass
  simp only [List.length_append, List.length_cons] at hle
  omega

/-- Whether a mark occurs first in a place does not depend on what stands behind the mark. -/
theorem beforeFirst_append_iff {mark before : List Char} (after : List Char) :
    BeforeFirst mark (before ++ mark ++ after) before ↔ BeforeFirst mark (before ++ mark) before := by
  constructor
  · rintro ⟨_, hfirst⟩
    refine ⟨List.prefix_rfl, ?_⟩
    intro other hother
    exact hfirst other (hother.trans (List.prefix_append _ after))
  · rintro ⟨_, hfirst⟩
    refine ⟨List.prefix_append _ after, ?_⟩
    intro other hother
    by_contra hshorter
    refine hshorter (hfirst other ?_)
    apply List.prefix_of_prefix_length_le hother (List.prefix_append _ after)
    simp only [List.length_append]
    omega

namespace Segment

/-- Whether a character goes into a segment when it stands right behind it, or makes another one of it. -/
def Takes : Segment → Char → Prop
  | word _, d => IsWordPart d
  | number _ _, d => IsDecimal d
  | mark kind, d => d ∈ kind.continuations
  | lineComment _, d => d ≠ '\n'
  | openString _, _ | openComment _, _ => True
  | string _, _ | blockComment _, _ | blank _, _ | newline, _ | stray _, _ => False

/-- Whether a segment is a string or a block comment that is not closed. -/
def isOpen : Segment → Bool
  | openString _ | openComment _ => true
  | _ => false

/-- A segment that is not closed takes every character. -/
theorem takes_of_isOpen {segment : Segment} (h : segment.isOpen = true) (d : Char) :
    segment.Takes d := by
  cases segment with
  | openString | openComment => trivial
  | word | number | string | mark | lineComment | blockComment | blank | newline | stray =>
    simp [isOpen] at h

/-- Segments that are closed take parts of words and certain signs, and line comments take all that stands on
the line. -/
theorem takes_cases {segment : Segment} {d : Char} (h : segment.Takes d)
    (hclosed : segment.isOpen = false) :
    IsWordPart d ∨ d ∈ ['=', '/', '*'] ∨ (∃ body, segment = lineComment body) ∧ d ≠ '\n' := by
  cases segment with
  | word => exact .inl h
  | number => exact .inl (.inr h)
  | mark kind => exact .inr (.inl (Kind.mem_of_mem_continuations d h))
  | lineComment body => exact .inr (.inr ⟨⟨body, rfl⟩, h⟩)
  | string | blockComment | blank | newline | stray => exact h.elim
  | openString | openComment => simp [isOpen] at hclosed

/-- A segment that stands in front of a text ends there. -/
structure EndsBefore (segment : Segment) (rest : List Char) : Prop where
  /-- The next character does not go into the segment. -/
  next : ∀ d ∈ rest.head?, ¬ segment.Takes d
  /-- A number without a fraction does not get one. -/
  point : ∀ whole d more, segment = number whole [] → rest = '.' :: d :: more → ¬ IsDecimal d

/-- The characters of a segment are such as the grammar asks for, whatever stands behind it. -/
def Proper : Segment → Prop
  | word chars => IsWord chars
  | number whole fraction => IsDigits whole ∧ (fraction = [] ∨ IsDigits fraction)
  | string body => '"' ∉ body
  | mark kind => kind ∈ Kind.marks
  | lineComment body => '\n' ∉ body
  | blockComment body => BeforeFirst ['*', '/'] (body ++ ['*', '/']) body
  | blank c => c ∈ blankChars
  | newline => True
  | openString body => '"' ∉ body
  | openComment body => ¬ ['*', '/'] <:+: body
  | stray c => c ∉ signChars ∧ ¬ IsWordPart c

/-- At the end of a text every segment ends. -/
theorem endsBefore_nil (segment : Segment) : segment.EndsBefore [] :=
  ⟨by simp, by simp⟩

/-- A segment other than a number without a fraction ends where the next character does not go into it. -/
theorem endsBefore_of_next {segment : Segment} {rest : List Char}
    (hnext : ∀ d ∈ rest.head?, ¬ segment.Takes d) (hnumber : ∀ whole, segment ≠ number whole []) :
    segment.EndsBefore rest :=
  ⟨hnext, fun whole _ _ hsegment => absurd hsegment (hnumber whole)⟩

/-- A segment that takes no character ends in front of every text. -/
theorem endsBefore_of_not_takes {segment : Segment} (h : ∀ d, ¬ segment.Takes d) (rest : List Char) :
    segment.EndsBefore rest := by
  refine endsBefore_of_next (fun d _ => h d) ?_
  rintro whole rfl
  exact h '0' (by decide : IsDecimal '0')

/-- A segment that is not closed ends at the end of the text only. -/
theorem EndsBefore.eq_nil {segment : Segment} {rest : List Char} (h : segment.EndsBefore rest)
    (hopen : segment.isOpen = true) : rest = [] := by
  cases rest with
  | nil => rfl
  | cons d rest => exact absurd (takes_of_isOpen hopen d) (h.next d rfl)

end Segment

/-! ## The grammar -/

/-- A digit behind digits. -/
theorem IsDigits.concat {digits : List Char} {d : Char} (hdigits : IsDigits digits)
    (hd : IsDecimal d) : IsDigits (digits ++ [d]) := by
  refine ⟨by simp, ?_⟩
  intro c hc
  rcases List.mem_append.mp hc with hc | hc
  · exact hdigits.2 c hc
  · exact List.mem_singleton.mp hc ▸ hd

/-- A word that is the longest one is followed by no part of a word. -/
theorem not_isWordPart_of_longestPrefix {chars rest : List Char}
    (h : LongestPrefix IsWord (chars ++ rest) chars) : ∀ d ∈ rest.head?, ¬ IsWordPart d := by
  intro d hd hpart
  obtain ⟨more, rfl⟩ := List.head?_eq_some_iff.mp hd
  have hlonger := h.not_append [] ⟨more, rfl⟩
  have hword := h.member
  cases chars with
  | nil => exact hword
  | cons c cs =>
    refine hlonger ⟨hword.1, ?_⟩
    intro e he
    rcases List.mem_append.mp he with he | he
    · exact hword.2 e he
    · exact List.mem_singleton.mp he ▸ hpart

/-- A number that is the longest one ends in front of what follows. -/
theorem endsBefore_of_longestPrefix {whole fraction rest : List Char} (hwhole : IsDigits whole)
    (hfraction : fraction = [] ∨ IsDigits fraction)
    (h : LongestPrefix IsNumeral ((number whole fraction).text ++ rest) (number whole fraction).text) :
    (number whole fraction).EndsBefore rest := by
  constructor
  · intro d hd hdecimal
    obtain ⟨more, rfl⟩ := List.head?_eq_some_iff.mp hd
    apply h.not_append [] ⟨more, rfl⟩
    cases fraction with
    | nil => exact .whole (hwhole.concat hdecimal)
    | cons f fraction =>
      have hlonger := (hfraction.resolve_left (by simp)).concat hdecimal
      simpa [Segment.text] using IsNumeral.point hwhole hlonger
  · rintro whole' d more hsegment rfl hdecimal
    obtain ⟨rfl, rfl⟩ : whole = whole' ∧ fraction = [] := by simpa using hsegment
    apply h.not_append [d] ⟨more, rfl⟩
    exact .point hwhole (isDigits_cons hdecimal (by simp))

/-- What the grammar finds at the start of a text has the right characters and ends in front of the rest. -/
theorem NextSegment.proper_endsBefore {segment : Segment} {rest : List Char}
    (h : NextSegment (segment.text ++ rest) segment) : segment.Proper ∧ segment.EndsBefore rest := by
  generalize htext : segment.text ++ rest = text at h
  cases h with
  | word hlongest =>
    subst htext
    exact ⟨hlongest.member, endsBefore_of_next (not_isWordPart_of_longestPrefix hlongest) (by simp)⟩
  | number hwhole hfraction hlongest =>
    subst htext
    exact ⟨⟨hwhole, hfraction⟩, endsBefore_of_longestPrefix hwhole hfraction hlongest⟩
  | string hbody =>
    exact ⟨(beforeFirst_singleton_iff.mp hbody).1, endsBefore_of_not_takes (fun _ => id) rest⟩
  | openString hquote =>
    obtain rfl : rest = [] := by simpa [Segment.text] using htext
    exact ⟨hquote, endsBefore_nil _⟩
  | @lineComment _ body hbody =>
    obtain ⟨hend, after, rfl⟩ := beforeFirst_singleton_iff.mp hbody
    obtain rfl : rest = '\n' :: after := by simpa [Segment.text] using htext
    exact ⟨hend, endsBefore_of_next (by simp [Takes]) (by simp)⟩
  | lastComment hend =>
    obtain rfl : rest = [] := by simpa [Segment.text] using htext
    exact ⟨hend, endsBefore_nil _⟩
  | @blockComment inner body hbody =>
    obtain rfl : body ++ ['*', '/'] ++ rest = inner := by simpa [Segment.text] using htext
    exact ⟨(beforeFirst_append_iff rest).mp hbody, endsBefore_of_not_takes (fun _ => id) rest⟩
  | openComment hend =>
    obtain rfl : rest = [] := by simpa [Segment.text] using htext
    exact ⟨hend, endsBefore_nil _⟩
  | longOperator hc hspelling =>
    refine ⟨Kind.mem_marks_of_spelling_equals hspelling, endsBefore_of_not_takes ?_ rest⟩
    simp [Takes, Kind.continuations_longOperator _ hc hspelling]
  | shortOperator hc hspelling hequal =>
    obtain rfl : rest = _ := by simpa [Segment.text, hspelling] using htext
    refine ⟨Kind.mem_marks_of_spelling hspelling, endsBefore_of_next ?_ (by simp)⟩
    intro d hd
    rw [Option.mem_def.mp hd] at hequal
    simpa [Takes, Kind.continuations_operator _ hc hspelling] using hequal
  | slash hslash hstar =>
    obtain rfl : rest = _ := by simpa [Segment.text, Kind.spelling] using htext
    refine ⟨show Kind.slash ∈ Kind.marks by decide, endsBefore_of_next ?_ (by simp)⟩
    intro d hd
    rw [Option.mem_def.mp hd] at hslash hstar
    simp_all [Takes, Kind.continuations]
  | punctuation hc hspelling =>
    refine ⟨Kind.mem_marks_of_spelling hspelling, endsBefore_of_not_takes ?_ rest⟩
    simp [Takes, Kind.continuations_punctuation _ hc hspelling]
  | blank hc => exact ⟨hc, endsBefore_of_not_takes (fun _ => id) rest⟩
  | newline => exact ⟨trivial, endsBefore_of_not_takes (fun _ => id) rest⟩
  | stray hsign hc => exact ⟨⟨hsign, hc⟩, endsBefore_of_not_takes (fun _ => id) rest⟩

/-- A segment with the right characters is found by the grammar in front of every rest where it ends. -/
theorem Segment.Proper.nextSegment {segment : Segment} {rest : List Char} (hproper : segment.Proper)
    (hends : segment.EndsBefore rest) : NextSegment (segment.text ++ rest) segment := by
  cases segment with
  | word chars => exact .word (longestPrefix_isWord hproper hends.next)
  | number whole fraction =>
    obtain ⟨hwhole, hfraction⟩ := hproper
    refine .number hwhole hfraction ?_
    cases fraction with
    | nil => exact longestPrefix_whole hwhole hends.next fun d more => hends.point whole d more rfl
    | cons d fraction =>
      exact longestPrefix_point hwhole (hfraction.resolve_left (by simp)) hends.next
  | string body =>
    rw [Segment.text, List.append_assoc, List.cons_append]
    exact .string (beforeFirst_singleton_iff.mpr ⟨hproper, rest, rfl⟩)
  | mark kind =>
    rw [Segment.text]
    rcases Kind.spelling_of_mem_marks hproper with
      ⟨c, hc, hspelling⟩ | ⟨c, hc, hspelling | hspelling⟩ | rfl
    · rw [hspelling]
      exact .punctuation hc hspelling
    · have hnext := hends.next
      simp only [Takes, Kind.continuations_operator _ hc hspelling, List.mem_singleton] at hnext
      rw [hspelling]
      exact .shortOperator hc hspelling fun hequal => hnext _ hequal rfl
    · rw [hspelling]
      exact .longOperator hc hspelling
    · have hnext := hends.next
      simp only [Takes, Kind.continuations] at hnext
      exact .slash (fun h => hnext _ h (by simp)) (fun h => hnext _ h (by simp))
  | lineComment body =>
    cases rest with
    | nil => simpa [Segment.text] using NextSegment.lastComment hproper
    | cons d rest =>
      obtain rfl : d = '\n' := by simpa [Takes] using hends.next d rfl
      exact .lineComment (beforeFirst_singleton_iff.mpr ⟨hproper, rest, rfl⟩)
  | blockComment body =>
    have hbody := (beforeFirst_append_iff rest).mpr hproper
    simpa [Segment.text] using NextSegment.blockComment hbody
  | blank c => exact .blank hproper
  | newline => exact .newline
  | openString body =>
    obtain rfl := hends.eq_nil rfl
    simpa [Segment.text] using NextSegment.openString hproper
  | openComment body =>
    obtain rfl := hends.eq_nil rfl
    simpa [Segment.text] using NextSegment.openComment hproper
  | stray c => exact .stray hproper.1 hproper.2

/-- **Lookahead.** The grammar finds a segment at the start of a text if its characters are such as the
grammar asks for and it ends in front of the rest of the text, and in no other case. -/
theorem nextSegment_append_iff {segment : Segment} {rest : List Char} :
    NextSegment (segment.text ++ rest) segment ↔ segment.Proper ∧ segment.EndsBefore rest :=
  ⟨NextSegment.proper_endsBefore, fun h => h.1.nextSegment h.2⟩

/-! ## Longer texts -/

namespace Segment

/-- What is appended to a text does not matter to a segment in front of it, unless the text has been empty or
is a point that a number may take for its own. -/
theorem EndsBefore.append {segment : Segment} {rest : List Char} (h : segment.EndsBefore rest)
    (hne : rest ≠ []) (hpoint : ∀ whole, segment = number whole [] → rest ≠ ['.'])
    (appended : List Char) : segment.EndsBefore (rest ++ appended) := by
  obtain ⟨c, rest, rfl⟩ := List.exists_cons_of_ne_nil hne
  refine ⟨h.next, ?_⟩
  rintro whole d more hsegment hrest
  obtain ⟨rfl, hbehind⟩ := List.cons.inj hrest
  cases rest with
  | nil => exact absurd rfl (hpoint whole hsegment)
  | cons e rest =>
    obtain ⟨rfl, -⟩ := List.cons.inj hbehind
    exact h.point whole e rest hsegment rfl

/-- No segment that is closed takes a line end. -/
theorem not_takes_newline {segment : Segment} (hclosed : segment.isOpen = false) :
    ¬ segment.Takes '\n' := by
  intro htakes
  rcases takes_cases htakes hclosed with hpart | hsign | ⟨-, hne⟩
  · exact absurd hpart (by decide)
  · exact absurd hsign (by decide)
  · exact hne rfl

/-- A line end may follow every segment that is closed, and it keeps away what stands behind it. -/
theorem EndsBefore.append_newline {segment : Segment} {rest : List Char} (h : segment.EndsBefore rest)
    (hclosed : segment.isOpen = false) (appended : List Char) :
    segment.EndsBefore (rest ++ '\n' :: appended) := by
  by_cases hne : rest = []
  · subst hne
    refine ⟨by simpa using not_takes_newline hclosed, ?_⟩
    simp
  · by_cases hpoint : rest = ['.']
    · subst hpoint
      refine ⟨h.next, ?_⟩
      rintro whole d more - hrest
      obtain ⟨rfl, -⟩ : '\n' = d ∧ _ := by simpa using hrest
      decide
    · exact h.append hne (fun _ _ => hpoint) _

end Segment

end LoxLexer
