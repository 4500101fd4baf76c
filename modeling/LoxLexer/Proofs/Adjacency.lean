import LoxLexer.Proofs.Lookahead
import LoxLexer.Proofs.Unparse
import Mathlib.Data.List.Flatten

/-!
# Lexemes without separators

Lexemes may stand one behind the other without anything between them, unless they run together into other
lexemes or into a comment. Two neighbours do so depending on their kinds, and a number, a point and a number
do so although no two of them do. `Joinable` excludes just these cases, and a text that consists
of lexemes is cut into these lexemes exactly if they are joinable.
-/

namespace LoxLexer

open Segment

/-! ## Lexemes that run together -/

namespace Kind

/-- Whether a kind is that of identifiers or of a keyword. -/
def isWord (kind : Kind) : Bool := kind == identifier || keywords.contains kind

/-- Kinds whose lexemes run together if nothing stands between them. -/
inductive Fuse : Kind → Kind → Prop
  /-- A word goes on into a word or a number. -/
  | word {left right : Kind} : left.isWord = true → right.isWord = true ∨ right = number →
      Fuse left right
  /-- A number goes on into a number. -/
  | number : Fuse number number
  /-- The one-character form of an operator takes an equals sign. -/
  | operator {left right : Kind} : left ∈ [bang, equal, less, greater] →
      right ∈ [equal, equalEqual] → Fuse left right
  /-- A slash starts a comment with another slash or with an asterisk. -/
  | comment {right : Kind} : right ∈ [slash, star] → Fuse slash right

end Kind

namespace Token

/-- Tokens whose lexemes do not run together if nothing stands between them. -/
structure Joinable (tokens : List Token) : Prop where
  /-- No two neighbours run together. -/
  pairs : ∀ left right, [left, right] <:+: tokens → ¬ Kind.Fuse left.kind right.kind
  /-- No number without a fraction gets one from a point and a number. -/
  point : ∀ whole dot right, [whole, dot, right] <:+: tokens → whole.kind = .number →
    '.' ∉ whole.lexeme.toList → dot.kind = .dot → right.kind ≠ .number

/-- Tokens whose lexemes stand one behind the other from a given line on, and then the end of the input. -/
def adjacent (line : Int) : List Token → List Token
  | [] => [endOfInput line]
  | token :: tokens => { token with line := line } :: adjacent (line + token.newlines) tokens

/-- There is nothing to run together among no tokens. -/
theorem joinable_nil : Joinable [] :=
  ⟨by simp, by simp⟩

/-- Tokens are joinable if the first one does not run together with those behind it, and these are
joinable. -/
theorem joinable_cons {token : Token} {tokens : List Token} :
    Joinable (token :: tokens) ↔
      (∀ next ∈ tokens.head?, ¬ Kind.Fuse token.kind next.kind) ∧
        (∀ dot next more, tokens = dot :: next :: more → token.kind = .number →
          '.' ∉ token.lexeme.toList → dot.kind = .dot → next.kind ≠ .number) ∧
        Joinable tokens := by
  constructor
  · rintro ⟨hpairs, hpoint⟩
    refine ⟨?_, ?_, ?_, ?_⟩
    · intro next hnext
      obtain ⟨more, rfl⟩ := List.head?_eq_some_iff.mp hnext
      exact hpairs token next ⟨[], more, by simp⟩
    · rintro dot next more rfl
      exact hpoint token dot next ⟨[], more, by simp⟩
    · intro left right hinfix
      exact hpairs left right (List.infix_cons hinfix)
    · intro whole dot right hinfix
      exact hpoint whole dot right (List.infix_cons hinfix)
  · rintro ⟨hnext, hbehind, hpairs, hpoint⟩
    constructor
    · intro left right hinfix
      rcases List.infix_cons_iff.mp hinfix with ⟨more, hmore⟩ | hinfix
      · obtain ⟨rfl, rfl⟩ := List.cons.inj hmore
        exact hnext right (by simp)
      · exact hpairs left right hinfix
    · intro whole dot right hinfix
      rcases List.infix_cons_iff.mp hinfix with ⟨more, hmore⟩ | hinfix
      · obtain ⟨rfl, rfl⟩ := List.cons.inj hmore
        exact hbehind dot right more (by simp)
      · exact hpoint whole dot right hinfix

end Token

namespace Kind

variable {kind next : Kind}

/-- Marks are no words. -/
theorem isWord_eq_false_of_mem_marks : ∀ kind ∈ marks, kind.isWord = false := by decide

/-- What a word runs together with. -/
theorem fuse_word_iff (hkind : kind.isWord = true) :
    Fuse kind next ↔ next.isWord = true ∨ next = number := by
  constructor
  · intro h
    cases h with
    | word _ hnext => exact hnext
    | number => exact .inr rfl
    | operator hleft =>
      have hmarks : ∀ left ∈ [bang, equal, less, greater], left ∈ marks := by decide
      rw [isWord_eq_false_of_mem_marks kind (hmarks kind hleft)] at hkind
      exact absurd hkind Bool.false_ne_true
    | comment => exact absurd hkind (by decide)
  · exact .word hkind

/-- What a number runs together with. -/
theorem fuse_number_iff : Fuse number next ↔ next = number := by
  constructor
  · intro h
    cases h with
    | word hleft => exact absurd hleft (by decide)
    | number => rfl
    | operator hleft => exact absurd hleft (by decide)
  · rintro rfl
    exact .number

/-- A string runs together with nothing. -/
theorem not_fuse_string : ¬ Fuse string next := by
  intro h
  cases h with
  | word hleft => exact absurd hleft (by decide)
  | operator hleft => exact absurd hleft (by decide)

/-- What a mark runs together with. -/
theorem fuse_mark_iff (hkind : kind ∈ marks) :
    Fuse kind next ↔ (kind ∈ [bang, equal, less, greater] ∧ next ∈ [equal, equalEqual]) ∨
      (kind = slash ∧ next ∈ [slash, star]) := by
  constructor
  · intro h
    cases h with
    | word hleft =>
      rw [isWord_eq_false_of_mem_marks kind hkind] at hleft
      exact absurd hleft Bool.false_ne_true
    | number => exact absurd hkind (by decide)
    | operator hleft hnext => exact .inl ⟨hleft, hnext⟩
    | comment hnext => exact .inr ⟨rfl, hnext⟩
  · rintro (⟨hleft, hnext⟩ | ⟨rfl, hnext⟩)
    · exact .operator hleft hnext
    · exact .comment hnext

/-- Which characters make a longer segment of a mark. -/
theorem mem_continuations_iff {d : Char} :
    d ∈ kind.continuations ↔
      (kind ∈ [bang, equal, less, greater] ∧ d = '=') ∨ (kind = slash ∧ d ∈ ['/', '*']) := by
  cases kind <;> simp [continuations]

end Kind

/-! ## First characters -/

namespace Kind

/-- What the first character of a lexeme tells about its kind. -/
structure StartsWith (kind : Kind) (d : Char) : Prop where
  /-- Parts of words start words and numbers. -/
  isWordPart_iff : IsWordPart d ↔ kind.isWord = true ∨ kind = number
  /-- Digits start numbers. -/
  isDecimal_iff : IsDecimal d ↔ kind = number
  /-- An equals sign starts the two operators for equality. -/
  equals_iff : d = '=' ↔ kind ∈ [equal, equalEqual]
  /-- A slash or an asterisk starts the operator of that name. -/
  comment_iff : d ∈ ['/', '*'] ↔ kind ∈ [slash, star]
  /-- A point is all of its lexeme. -/
  point_iff : d = '.' ↔ kind = dot

/-- A word is classified as a word. -/
theorem isWord_ofWord (word : String) : (ofWord word).isWord = true := by
  unfold ofWord
  cases hfound : ofKeyword? word with
  | none => rfl
  | some kind => simp [isWord, List.mem_of_find?_eq_some hfound]

/-- Parts of words are no signs. -/
theorem ne_sign_of_isWordPart {d : Char} (hd : IsWordPart d) : d ∉ ['=', '/', '*', '.'] := by
  have hsigns : ∀ c ∈ ['=', '/', '*', '.'], ¬ IsWordPart c :=
    List.forall_iff_forall_mem.mp (by decide)
  exact fun h => hsigns d h hd

/-- Letters start words. -/
theorem startsWith_letter {kind : Kind} {d : Char} (hkind : kind.isWord = true) (hd : IsLetter d) :
    kind.StartsWith d := by
  have hnot : ∀ other ∈ [number, dot, equal, equalEqual, slash, star], other.isWord = false := by
    decide
  have hother : kind ∉ [number, dot, equal, equalEqual, slash, star] := by
    intro hmem
    rw [hnot kind hmem] at hkind
    exact Bool.false_ne_true hkind
  have hsign := ne_sign_of_isWordPart (.inl hd)
  simp only [List.mem_cons, List.not_mem_nil, or_false, not_or] at hother hsign
  constructor <;> simp [hkind, hother, hsign, hd, hd.not_isDecimal, IsWordPart]

/-- Digits start numbers. -/
theorem startsWith_digit {d : Char} (hd : IsDecimal d) : number.StartsWith d := by
  have hsign := ne_sign_of_isWordPart (.inr hd)
  simp only [List.mem_cons, List.not_mem_nil, or_false, not_or] at hsign
  constructor <;> simp [hsign, hd, IsWordPart]

/-- A quote starts a string. -/
theorem startsWith_quote : string.StartsWith '"' :=
  ⟨by decide, by decide, by decide, by decide, by decide⟩

/-- A mark starts with the first character of its spelling, and a point is all of it. -/
theorem startsWith_mark (h : kind ∈ marks) : ∃ d tail, kind.spelling.toList = d :: tail ∧
    kind.StartsWith d ∧ (kind = dot → tail = []) := by
  cases kind <;> first
    | exact absurd h (by decide)
    | exact ⟨_, _, rfl, ⟨by decide, by decide, by decide, by decide, by decide⟩, by decide⟩

end Kind

/-! ## Lexemes and their tokens -/

namespace Segment

/-- A segment is the lexeme of a token. -/
structure Spells (segment : Segment) (token : Token) : Prop where
  /-- The segment has the characters of the lexeme. -/
  text_eq : segment.text = token.lexeme.toList
  /-- The grammar allows these characters. -/
  proper : segment.Proper
  /-- The segment yields the token, on whatever line it stands. -/
  token?_eq : ∀ line : Nat, segment.token? line = some { token with line := line }

variable {segment : Segment} {token : Token}

/-- The form of a lexeme tells the kind of its token. -/
theorem Spells.kind_cases (h : segment.Spells token) :
    (∃ chars, segment = word chars ∧ token.kind.isWord = true) ∨
      (∃ whole fraction, segment = number whole fraction ∧ token.kind = .number) ∨
      (∃ body, segment = string body ∧ token.kind = .string) ∨ segment = mark token.kind := by
  have htoken := h.token?_eq 0
  cases segment with
  | word chars =>
    have hkind : Kind.ofWord (String.ofList chars) = token.kind :=
      congrArg Token.kind (Option.some.inj htoken)
    exact .inl ⟨chars, rfl, hkind ▸ Kind.isWord_ofWord _⟩
  | number whole fraction =>
    have hkind : Kind.number = token.kind := congrArg Token.kind (Option.some.inj htoken)
    exact .inr (.inl ⟨whole, fraction, rfl, hkind.symm⟩)
  | string body =>
    have hkind : Kind.string = token.kind := congrArg Token.kind (Option.some.inj htoken)
    exact .inr (.inr (.inl ⟨body, rfl, hkind.symm⟩))
  | mark kind =>
    have hkind : kind = token.kind := congrArg Token.kind (Option.some.inj htoken)
    exact .inr (.inr (.inr (by rw [hkind])))
  | lineComment | blockComment | blank | newline | openString | openComment | stray =>
    simp [token?] at htoken

/-- The first character of a lexeme tells its kind, and a point is followed by nothing. -/
theorem Spells.exists_first (h : segment.Spells token) :
    ∃ d tail, segment.text = d :: tail ∧ token.kind.StartsWith d ∧
      (token.kind = .dot → tail = []) := by
  have hproper := h.proper
  rcases h.kind_cases with ⟨chars, rfl, hkind⟩ | ⟨whole, fraction, rfl, hkind⟩ |
    ⟨body, rfl, hkind⟩ | rfl
  · cases chars with
    | nil => exact hproper.elim
    | cons d tail =>
      refine ⟨d, tail, rfl, Kind.startsWith_letter hkind hproper.1, ?_⟩
      intro hdot
      rw [hdot] at hkind
      exact absurd hkind (by decide)
  · obtain ⟨d, tail, rfl⟩ := List.exists_cons_of_ne_nil hproper.1.1
    have hd : IsDecimal d := hproper.1.2 d (by simp)
    rw [hkind]
    cases fraction with
    | nil => exact ⟨d, tail, rfl, Kind.startsWith_digit hd, by simp⟩
    | cons e fraction => exact ⟨d, _, rfl, Kind.startsWith_digit hd, by simp⟩
  · rw [hkind]
    exact ⟨'"', body ++ ['"'], rfl, Kind.startsWith_quote, by simp⟩
  · exact Kind.startsWith_mark hproper

/-- A lexeme goes on with the first character of the next one if the two run together. -/
theorem Spells.takes_iff (h : segment.Spells token) {next : Kind} {d : Char}
    (hd : next.StartsWith d) : segment.Takes d ↔ Kind.Fuse token.kind next := by
  have hproper := h.proper
  rcases h.kind_cases with ⟨chars, rfl, hkind⟩ | ⟨whole, fraction, rfl, hkind⟩ |
    ⟨body, rfl, hkind⟩ | rfl
  · rw [Takes, hd.isWordPart_iff, Kind.fuse_word_iff hkind]
  · rw [Takes, hd.isDecimal_iff, hkind, Kind.fuse_number_iff]
  · rw [hkind]
    exact iff_of_false id Kind.not_fuse_string
  · rw [Takes, Kind.mem_continuations_iff, Kind.fuse_mark_iff hproper, hd.equals_iff, hd.comment_iff]

/-- A number without a fraction is one whose lexeme has no point. -/
theorem Spells.exists_whole_iff (h : segment.Spells token) :
    (∃ whole, segment = number whole []) ↔
      token.kind = .number ∧ '.' ∉ token.lexeme.toList := by
  rw [← h.text_eq]
  constructor
  · rintro ⟨whole, rfl⟩
    refine ⟨(congrArg Token.kind (Option.some.inj (h.token?_eq 0))).symm, ?_⟩
    intro hmem
    exact absurd (h.proper.1.2 '.' hmem) (by decide)
  · rintro ⟨hnumber, hpoint⟩
    have hproper := h.proper
    rcases h.kind_cases with ⟨chars, rfl, hkind⟩ | ⟨whole, fraction, rfl, -⟩ | ⟨body, rfl, hkind⟩ | rfl
    · rw [hnumber] at hkind
      exact absurd hkind (by decide)
    · cases fraction with
      | nil => exact ⟨whole, rfl⟩
      | cons d fraction => simp [text] at hpoint
    · rw [hnumber] at hkind
      exact absurd hkind (by decide)
    · rw [hnumber] at hproper
      exact absurd (show Kind.number ∈ Kind.marks from hproper) (by decide)

/-- A lexeme ends in front of other lexemes if it runs together neither with the next one nor, as a number,
with a point and a number. -/
theorem Spells.endsBefore_iff (h : segment.Spells token) {segments : List Segment}
    {tokens : List Token} (hspells : List.Forall₂ Spells segments tokens) :
    segment.EndsBefore (segments.flatMap text) ↔
      (∀ next ∈ tokens.head?, ¬ Kind.Fuse token.kind next.kind) ∧
        ∀ dot next more, tokens = dot :: next :: more → token.kind = .number →
          '.' ∉ token.lexeme.toList → dot.kind = .dot → next.kind ≠ .number := by
  cases hspells with
  | nil => simp [endsBefore_nil]
  | @cons right rightToken segments tokens hright hspells =>
    obtain ⟨c, tail, htext, hfirst, htail⟩ := hright.exists_first
    rw [List.flatMap_cons, htext, List.cons_append]
    constructor
    · rintro ⟨hnext, hpoint⟩
      refine ⟨?_, ?_⟩
      · intro next hhead
        obtain rfl : rightToken = next := by simpa using hhead
        exact fun hfuse => hnext c rfl ((h.takes_iff hfirst).mpr hfuse)
      · rintro dot next more htokens hnumber hlexeme hdot hnextNumber
        obtain ⟨rfl, rfl⟩ := List.cons.inj htokens
        obtain ⟨whole, hwhole⟩ := h.exists_whole_iff.mpr ⟨hnumber, hlexeme⟩
        obtain rfl : c = '.' := hfirst.point_iff.mpr hdot
        obtain rfl : tail = [] := htail hdot
        cases hspells with
        | @cons _ _ later _ hbehind _ =>
          obtain ⟨d, tail', htext', hfirst', -⟩ := hbehind.exists_first
          refine hpoint whole d (tail' ++ later.flatMap text) hwhole ?_
            (hfirst'.isDecimal_iff.mpr hnextNumber)
          rw [List.flatMap_cons, htext']
          rfl
    · rintro ⟨hnext, hpoint⟩
      refine ⟨?_, ?_⟩
      · intro d hd
        obtain rfl : c = d := by simpa using hd
        exact fun htakes => hnext rightToken rfl ((h.takes_iff hfirst).mp htakes)
      · rintro whole d more hwhole hrest hdecimal
        obtain ⟨hnumber, hlexeme⟩ := h.exists_whole_iff.mp ⟨whole, hwhole⟩
        obtain ⟨rfl, hbehind⟩ := List.cons.inj hrest
        have hdot : rightToken.kind = .dot := hfirst.point_iff.mp rfl
        obtain rfl : tail = [] := htail hdot
        cases hspells with
        | nil => simp at hbehind
        | @cons _ nextToken _ laterTokens hright' _ =>
          obtain ⟨e, tail', htext', hfirst', -⟩ := hright'.exists_first
          rw [List.flatMap_cons, htext'] at hbehind
          obtain rfl : e = d := (List.cons.inj hbehind).1
          exact hpoint rightToken nextToken laterTokens rfl hnumber hlexeme hdot
            (hfirst'.isDecimal_iff.mp hdecimal)

end Segment

/-! ## Texts that consist of lexemes -/

/-- A text that consists of lexemes is cut into them if their tokens are joinable, and only then. -/
theorem cutAll_flatMap_text_iff {segments : List Segment} {tokens : List Token}
    (hspells : List.Forall₂ Spells segments tokens) :
    cutAll (segments.flatMap text) = segments ↔ Token.Joinable tokens := by
  induction hspells with
  | nil => simpa using Token.joinable_nil
  | @cons segment token segments tokens hfirst hspells ih =>
    rw [List.flatMap_cons, cutAll_eq_cons_iff, ih, Token.joinable_cons, nextSegment_append_iff,
      hfirst.endsBefore_iff hspells, and_iff_right hfirst.proper, and_assoc]

/-- Lexemes are cut out of their own texts. -/
theorem flatMap_cutAll_text {segments : List Segment} (h : ∀ segment ∈ segments, segment.Proper) :
    (segments.map text).flatMap cutAll = segments := by
  induction segments with
  | nil => rfl
  | cons segment segments ih =>
    have hone := cutAll_append ((h segment (by simp)).nextSegment (endsBefore_nil segment))
    rw [List.append_nil, cutAll_nil] at hone
    rw [List.map_cons, List.flatMap_cons, hone, ih fun later hlater => h later (by simp [hlater])]
    rfl

/-- Segments with the right characters are determined by their texts. -/
theorem eq_of_map_text_eq {segments segments' : List Segment}
    (h : ∀ segment ∈ segments, segment.Proper) (h' : ∀ segment ∈ segments', segment.Proper)
    (htext : segments.map text = segments'.map text) : segments = segments' := by
  rw [← flatMap_cutAll_text h, htext, flatMap_cutAll_text h']

/-- The tokens that segments yield have the lexemes among the segments for their lexemes. -/
theorem map_lexeme_gather (line : Nat) (segments : List Segment) :
    (gather token? line segments).map (fun token => token.lexeme.toList) =
      (segments.filter isLexeme).map text := by
  induction segments generalizing line with
  | nil => rfl
  | cons segment segments ih =>
    rw [gather, List.map_append, ih]
    cases segment <;> simp [token?, isLexeme, List.filter_cons]

/-- If the lexemes among some segments make up the text of all of them, then all of them are lexemes. -/
theorem filter_isLexeme_eq_self {segments : List Segment}
    (hne : ∀ segment ∈ segments, segment.text ≠ [])
    (h : (segments.filter isLexeme).flatMap text = segments.flatMap text) :
    segments.filter isLexeme = segments := by
  induction segments with
  | nil => rfl
  | cons segment segments ih =>
    have hne' : ∀ later ∈ segments, later.text ≠ [] := fun later hlater => hne later (by simp [hlater])
    cases hlexeme : segment.isLexeme with
    | true =>
      rw [List.filter_cons_of_pos hlexeme, List.flatMap_cons, List.flatMap_cons,
        List.append_cancel_left_eq] at h
      rw [List.filter_cons_of_pos hlexeme, ih hne' h]
    | false =>
      -- The text of the segment would have to come from the lexemes behind it, which are too short.
      have hlater := ((List.filter_sublist (p := isLexeme) (l := segments)).flatMap text).length_le
      have hpos := List.length_pos_iff.mpr (hne segment (by simp))
      have hlength := congrArg List.length h
      rw [List.filter_cons_of_neg (by simp [hlexeme]), List.flatMap_cons, List.length_append] at hlength
      omega

/-! ## Scans -/

/-- Every list of tokens consists of the tokens of some lexemes, if each of them is consistent. -/
theorem exists_forall₂_spells {tokens : List Token} (h : ∀ token ∈ tokens, token.Consistent) :
    ∃ segments, List.Forall₂ Spells segments tokens := by
  induction tokens with
  | nil => exact ⟨[], .nil⟩
  | cons token tokens ih =>
    obtain ⟨segments, hspells⟩ := ih fun later hlater => h later (by simp [hlater])
    obtain ⟨segment, htext, hnext, htoken⟩ := (h token (by simp)).exists_segment
    have hproper := (htext ▸ hnext []).proper_endsBefore.1
    exact ⟨segment :: segments, .cons ⟨htext, hproper, htoken⟩ hspells⟩

section Spells

variable {segments : List Segment} {tokens : List Token}

/-- The texts of lexemes are the lexemes of their tokens. -/
theorem map_text_of_spells (hspells : List.Forall₂ Spells segments tokens) :
    segments.map text = tokens.map fun token => token.lexeme.toList := by
  induction hspells with
  | nil => rfl
  | cons hfirst _ ih => rw [List.map_cons, List.map_cons, hfirst.text_eq, ih]

/-- Lexemes yield their tokens, one behind the other. -/
theorem gather_token?_of_spells (hspells : List.Forall₂ Spells segments tokens) (line : Nat) :
    gather token? line segments ++
        [Token.endOfInput ((line + (segments.flatMap text).count '\n' : Nat) : Int)] =
      Token.adjacent line tokens := by
  induction hspells generalizing line with
  | nil => rfl
  | @cons segment token segments tokens hfirst _ ih =>
    have hnewlines : segment.newlines = token.newlines := by
      rw [newlines, hfirst.text_eq, Token.newlines]
    have ih' := ih (line + segment.newlines)
    rw [Nat.add_assoc, newlines, ← List.count_append, ← newlines, hnewlines] at ih'
    rw [gather, hfirst.token?_eq, hnewlines, List.append_assoc, List.flatMap_cons, ih']
    push_cast
    rfl

/-- Lexemes yield no errors. -/
theorem gather_error?_of_spells (hspells : List.Forall₂ Spells segments tokens) (line : Nat) :
    gather error? line segments = [] := by
  induction hspells generalizing line with
  | nil => rfl
  | cons hfirst _ ih => rw [gather, error?_of_token? (hfirst.token?_eq line), ih]; rfl

/-- Lexemes have the characters that the grammar asks for. -/
theorem proper_of_spells (hspells : List.Forall₂ Spells segments tokens) :
    ∀ segment ∈ segments, segment.Proper := by
  induction hspells with
  | nil => simp
  | cons hfirst _ ih => exact List.forall_mem_cons.mpr ⟨hfirst.proper, ih⟩

end Spells

/-- No segment of a text is empty. -/
theorem text_ne_nil_of_mem {text : List Char} {segment : Segment} (h : segment ∈ cutAll text) :
    segment.text ≠ [] := by
  fun_induction cutAll text with
  | case1 => simp at h
  | case2 c rest ih =>
    rcases List.mem_cons.mp h with rfl | h
    · exact text_cut_ne_nil c rest
    · exact ih h

/-- If a text consists of lexemes and yields tokens with these lexemes, then it is cut into the lexemes. -/
theorem cutAll_eq_of_map_lexeme {segments : List Segment}
    (hproper : ∀ segment ∈ segments, segment.Proper)
    (h : (yieldOf token? 1 (segments.flatMap text)).map (fun token => token.lexeme.toList) =
      segments.map text) : cutAll (segments.flatMap text) = segments := by
  rw [yieldOf, map_lexeme_gather] at h
  have hflat : ((cutAll (segments.flatMap text)).filter isLexeme).flatMap text =
      (cutAll (segments.flatMap text)).flatMap text := by
    rw [flatMap_text_cutAll, List.flatMap_def, h, ← List.flatMap_def]
  rw [filter_isLexeme_eq_self (fun _ => text_ne_nil_of_mem) hflat] at h
  refine eq_of_map_text_eq ?_ hproper h
  intro segment hsegment
  obtain ⟨rest, hnext⟩ := exists_nextSegment_of_mem hsegment
  exact hnext.proper_endsBefore.1

namespace Token

/-- Tokens that stand one behind the other keep their lexemes. -/
theorem map_lexeme_adjacent (line : Int) (tokens : List Token) :
    (adjacent line tokens).map lexeme = tokens.map lexeme ++ [""] := by
  induction tokens generalizing line with
  | nil => rfl
  | cons token tokens ih => rw [adjacent, List.map_cons, ih]; rfl

/-- **Lexemes without separators.** A scan of lexemes that are written one behind the other finds these
lexemes and no error if their tokens are joinable, and only then. It then finds the tokens themselves,
each on the line on which its lexeme starts. -/
theorem scan_join_iff {tokens : List Token} (h : ∀ token ∈ tokens, token.Consistent) :
    ((scan (String.join (tokens.map lexeme))).tokens.map lexeme = tokens.map lexeme ++ [""] ∧
        (scan (String.join (tokens.map lexeme))).errors = [] ↔ Joinable tokens) ∧
      (scan (String.join (tokens.map lexeme)) = ⟨adjacent 1 tokens, []⟩ ↔ Joinable tokens) := by
  obtain ⟨segments, hspells⟩ := exists_forall₂_spells h
  have hlexemes := map_text_of_spells hspells
  have htext : (String.join (tokens.map lexeme)).toList = segments.flatMap text := by
    rw [String.toList_join, List.flatMap_map, List.flatMap_def, List.flatMap_def, hlexemes]
  have hscan : Joinable tokens → scan (String.join (tokens.map lexeme)) = ⟨adjacent 1 tokens, []⟩ := by
    intro hjoinable
    have hcut := (cutAll_flatMap_text_iff hspells).mpr hjoinable
    rw [scan_eq, htext, yieldOf, yieldOf, hcut, gather_token?_of_spells hspells,
      gather_error?_of_spells hspells]
    rfl
  have hjoinable : (scan (String.join (tokens.map lexeme))).tokens.map lexeme =
      tokens.map lexeme ++ [""] → Joinable tokens := by
    intro hfound
    rw [scan_tokens, htext, List.map_append] at hfound
    have hfound' := congrArg (List.map String.toList) (List.append_cancel_right hfound)
    rw [List.map_map, List.map_map] at hfound'
    exact (cutAll_flatMap_text_iff hspells).mp
      (cutAll_eq_of_map_lexeme (proper_of_spells hspells) (hfound'.trans hlexemes.symm))
  refine ⟨⟨fun hfound => hjoinable hfound.1, ?_⟩, ⟨?_, hscan⟩⟩
  · intro hall
    rw [hscan hall]
    exact ⟨map_lexeme_adjacent 1 tokens, rfl⟩
  · intro hfound
    apply hjoinable
    rw [hfound]
    exact map_lexeme_adjacent 1 tokens

/-- A number, a point and a word stand for themselves without anything between them. -/
theorem scan_join_number_point_word :
    (∀ token ∈ [⟨.number, "1", some (.number (.ofRank false (1023 * Binary64.perSpacing))), 1⟩,
        ⟨.dot, ".", none, 1⟩, ⟨.orWord, "or", none, 1⟩], Consistent token) ∧
      Joinable [⟨.number, "1", some (.number (.ofRank false (1023 * Binary64.perSpacing))), 1⟩,
        ⟨.dot, ".", none, 1⟩, ⟨.orWord, "or", none, 1⟩] := by
  have hdigits : IsDigits ['1'] := isDigits_cons (by decide) (by simp)
  have hconsistent : ∀ token ∈ [⟨.number, "1", some (.number (.ofRank false
      (1023 * Binary64.perSpacing))), 1⟩, ⟨.dot, ".", none, 1⟩, ⟨.orWord, "or", none, 1⟩],
      Consistent token := by
    simp only [List.forall_mem_cons, List.not_mem_nil, false_imp_iff, implies_true, and_true]
    exact ⟨.number (.whole hdigits) (by decide +kernel), .fixed rfl, .fixed rfl⟩
  exact ⟨hconsistent, (scan_join_iff hconsistent).2.mp (by decide +kernel)⟩

/-- Without a fraction a number takes the point and the digits behind it for its own. -/
example : (scan (String.join ["1", ".", "5"])).tokens.map lexeme = ["1.5", ""] ∧
    (scan (String.join ["1.0", ".", "5"])).tokens.map lexeme = ["1.0", ".", "5", ""] := by
  decide +kernel

end Token

end LoxLexer
