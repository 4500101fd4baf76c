import LoxLexer.Proofs.LexicalClasses
import Mathlib.Data.List.Basic

/-!
# What is cut off a text

`Segment.cut` looks at the first character of a text and leaves the rest of the work to one function
for each kind of segment. This file says for each of these functions which segment it cuts off a text
that starts with a given body, so that later files need not open them.
-/

namespace LoxLexer

namespace Kind

/-- Every kind is found by its spelling. -/
theorem ofSpelling?_spelling (kind : Kind) : ofSpelling? kind.spelling = some kind := by
  cases kind <;> rfl

/-- Two kinds with one spelling are the same. -/
theorem spelling_injective : Function.Injective spelling := by
  intro kind kind' h
  have hfound := congrArg ofSpelling? h
  rwa [ofSpelling?_spelling, ofSpelling?_spelling, Option.some.injEq] at hfound

end Kind

namespace Segment

/-! ## The first character -/

/-- The characters that are punctuation by themselves. -/
def punctuationChars : List Char := ['(', ')', '\x7b', '\x7d', ',', '.', '-', '+', ';', '*']

/-- The characters that are an operator by themselves and another one with an equals sign. -/
def operatorChars : List Char := ['!', '=', '<', '>']

/-- The characters that separate lexemes and do nothing else. -/
def blankChars : List Char := [' ', '\r', '\t']

/-- The characters that start a segment of their own kind and are neither letters nor digits. -/
def signChars : List Char := punctuationChars ++ operatorChars ++ blankChars ++ ['/', '\n', '"']

/-- Only punctuation is looked up as punctuation. -/
theorem mem_punctuationChars {c : Char} {kind : Kind} (h : punctuation? c = some kind) :
    c ∈ punctuationChars := by
  unfold punctuation? at h
  split at h <;> simp_all [punctuationChars]

/-- Only operators are looked up as operators. -/
theorem mem_operatorChars {c : Char} {kinds : Kind × Kind} (h : operator? c = some kinds) :
    c ∈ operatorChars := by
  unfold operator? at h
  split at h <;> simp_all [operatorChars]

/-- Every character of punctuation is looked up as the kind that it spells. -/
theorem exists_punctuation : ∀ c ∈ punctuationChars, ∃ kind, punctuation? c = some kind ∧
    kind.spelling.toList = [c] := List.forall_iff_forall_mem.mp (by decide)

/-- Punctuation is cut off by itself, with the kind that it spells. -/
theorem cut_punctuation {c : Char} {kind : Kind} (hc : c ∈ punctuationChars)
    (hspelling : kind.spelling.toList = [c]) (rest : List Char) :
    cut c rest = (mark kind, rest) := by
  obtain ⟨kind', hkind', hspelling'⟩ := exists_punctuation c hc
  obtain rfl := Kind.spelling_injective (String.toList_injective (hspelling.trans hspelling'.symm))
  simp [cut, hkind']

/-- An operator is cut off in its short or its long form, with the kinds that these spell. -/
theorem cut_operator {c : Char} (hc : c ∈ operatorChars) (rest : List Char) :
    ∃ kinds : Kind × Kind, kinds.1.spelling.toList = [c] ∧ kinds.2.spelling.toList = [c, '='] ∧
      cut c rest = cutOperator kinds rest := by
  have hlookup : ∀ d ∈ operatorChars, punctuation? d = none ∧ ∃ kinds, operator? d = some kinds ∧
      kinds.1.spelling.toList = [d] ∧ kinds.2.spelling.toList = [d, '='] :=
    List.forall_iff_forall_mem.mp (by decide)
  obtain ⟨hpunctuation, kinds, hkinds, hshort, hlong⟩ := hlookup c hc
  exact ⟨kinds, hshort, hlong, by simp [cut, hpunctuation, hkinds]⟩

/-- A blank is cut off by itself. -/
theorem cut_blank {c : Char} (hc : c ∈ blankChars) (rest : List Char) :
    cut c rest = (blank c, rest) := by
  simp only [blankChars, List.mem_cons, List.not_mem_nil, or_false] at hc
  rcases hc with rfl | rfl | rfl <;> rfl

/-- A line end is cut off by itself. -/
theorem cut_newline (rest : List Char) : cut '\n' rest = (newline, rest) := rfl

/-- A slash starts a comment or is an operator. -/
theorem cut_slash (rest : List Char) : cut '/' rest = cutSlash rest := rfl

/-- A quote starts a string. -/
theorem cut_quote (rest : List Char) : cut '"' rest = cutString rest := rfl

/-- A character that is no sign starts a numeral or a word, or nothing at all. -/
theorem cut_of_notMem {c : Char} (hc : c ∉ signChars) (rest : List Char) :
    cut c rest =
      if c.isDigit then cutNumber (c :: rest)
      else if startsWord c then
        (word (c :: rest.takeWhile continuesWord), rest.dropWhile continuesWord)
      else (stray c, rest) := by
  simp only [signChars, List.mem_append, not_or] at hc
  obtain ⟨⟨⟨hpunctuation, hoperator⟩, hblank⟩, hother⟩ := hc
  have hpunctuation' : punctuation? c = none := by
    by_contra h
    obtain ⟨kind, hkind⟩ := Option.ne_none_iff_exists'.mp h
    exact hpunctuation (mem_punctuationChars hkind)
  have hoperator' : operator? c = none := by
    by_contra h
    obtain ⟨kinds, hkinds⟩ := Option.ne_none_iff_exists'.mp h
    exact hoperator (mem_operatorChars hkinds)
  simp only [blankChars, List.mem_cons, List.not_mem_nil, or_false, not_or] at hblank hother
  simp [cut, hpunctuation', hoperator', hblank, hother]

/-- No sign is a letter or a digit. -/
theorem not_isWordPart_of_mem_signChars : ∀ c ∈ signChars, ¬ IsWordPart c :=
  List.forall_iff_forall_mem.mp (by decide)

/-! ## Words and numerals -/

/-- A word ends in front of the first character that is no part of a word. -/
theorem cut_word {c : Char} {chars rest : List Char} (hword : IsWord (c :: chars))
    (hrest : ∀ d ∈ rest.head?, ¬ IsWordPart d) :
    cut c (chars ++ rest) = (word (c :: chars), rest) := by
  have hsign : c ∉ signChars := fun h => not_isWordPart_of_mem_signChars c h (.inl hword.1)
  have hdigit : c.isDigit = false := by
    rw [← Bool.not_eq_true, isDigit_iff]
    exact hword.1.not_isDecimal
  have htail : ∀ d ∈ chars, continuesWord d = true := fun d hd => continuesWord_iff.mpr (hword.2 d hd)
  have hstop : rest.takeWhile continuesWord = [] ∧ rest.dropWhile continuesWord = rest := by
    cases rest with
    | nil => simp
    | cons d rest =>
      have hd : ¬ continuesWord d = true := fun h => hrest d rfl (continuesWord_iff.mp h)
      simp [hd]
  rw [cut_of_notMem hsign, hdigit, if_neg (by simp), if_pos (startsWord_iff.mpr hword.1),
    List.takeWhile_append_of_pos htail, List.dropWhile_append_of_pos htail, hstop.1, hstop.2,
    List.append_nil]

/-- What is left behind a run of digits that no further digit follows. -/
theorem dropWhile_digits {digits rest : List Char} (hdigits : ∀ c ∈ digits, IsDecimal c)
    (hrest : ∀ d ∈ rest.head?, ¬ IsDecimal d) :
    (digits ++ rest).dropWhile Char.isDigit = rest := by
  have h := List.takeWhile_append_dropWhile (p := Char.isDigit) (l := digits ++ rest)
  rwa [takeWhile_digits hdigits hrest, List.append_cancel_left_eq] at h

/-- Digits are cut off by themselves if no point with a digit behind it follows. -/
theorem cutNumber_whole {digits rest : List Char} (hdigits : ∀ c ∈ digits, IsDecimal c)
    (hrest : ∀ d ∈ rest.head?, ¬ IsDecimal d)
    (hpoint : ∀ d more, rest = '.' :: d :: more → ¬ IsDecimal d) :
    cutNumber (digits ++ rest) = (number digits [], rest) := by
  unfold cutNumber
  rw [takeWhile_digits hdigits hrest, dropWhile_digits hdigits hrest]
  split
  next d more =>
    have hd : ¬ d.isDigit = true := fun h => hpoint d more rfl (isDigit_iff.mp h)
    rw [if_neg hd]
  next => rfl

/-- Digits with a point behind them and further digits behind the point are cut off as a whole. -/
theorem cutNumber_point {digits fraction rest : List Char} (hdigits : ∀ c ∈ digits, IsDecimal c)
    (hfraction : IsDigits fraction) (hrest : ∀ d ∈ rest.head?, ¬ IsDecimal d) :
    cutNumber (digits ++ '.' :: fraction ++ rest) = (number digits fraction, rest) := by
  have hpoint : ∀ d ∈ ('.' :: fraction ++ rest).head?, ¬ IsDecimal d := by
    simp only [List.cons_append, List.head?_cons, Option.mem_some_iff, forall_eq']
    decide
  obtain ⟨hne, hall⟩ := hfraction
  cases fraction with
  | nil => exact absurd rfl hne
  | cons f fraction =>
    have hf : f.isDigit = true := isDigit_iff.mpr (hall f (by simp))
    have htail : ∀ d ∈ fraction, IsDecimal d := fun d hd => hall d (by simp [hd])
    unfold cutNumber
    rw [List.append_assoc, takeWhile_digits hdigits hpoint, dropWhile_digits hdigits hpoint]
    simp [hf, takeWhile_digits htail hrest, dropWhile_digits htail hrest]

/-- A text that starts with a digit starts with a numeral. -/
theorem cut_of_isDecimal {c : Char} (hc : IsDecimal c) (rest : List Char) :
    cut c rest = cutNumber (c :: rest) := by
  have hsign : c ∉ signChars := fun h => not_isWordPart_of_mem_signChars c h (.inr hc)
  rw [cut_of_notMem hsign, if_pos (isDigit_iff.mpr hc)]

/-- A character that is neither a sign nor a part of a word starts nothing. -/
theorem cut_stray {c : Char} (hsign : c ∉ signChars) (hc : ¬ IsWordPart c) (rest : List Char) :
    cut c rest = (stray c, rest) := by
  have hdigit : ¬ c.isDigit = true := fun h => hc (.inr (isDigit_iff.mp h))
  have hletter : ¬ startsWord c = true := fun h => hc (.inl (startsWord_iff.mp h))
  rw [cut_of_notMem hsign, if_neg hdigit, if_neg hletter]

/-! ## Strings and comments -/

/-- What stands in front of a character that does not occur earlier. -/
theorem takeWhile_ne {c : Char} {body after : List Char} (hbody : c ∉ body) :
    (body ++ c :: after).takeWhile (· ≠ c) = body := by
  have hall : ∀ d ∈ body, decide (d ≠ c) = true := by
    intro d hd
    simpa using ne_of_mem_of_not_mem hd hbody
  rw [List.takeWhile_append_of_pos hall]
  simp

/-- What is left from the first occurrence of a character on. -/
theorem dropWhile_ne {c : Char} {body after : List Char} (hbody : c ∉ body) :
    (body ++ c :: after).dropWhile (· ≠ c) = c :: after := by
  have h := List.takeWhile_append_dropWhile (p := (· ≠ c)) (l := body ++ c :: after)
  rwa [takeWhile_ne hbody, List.append_cancel_left_eq] at h

/-- A text in which a character does not occur stands in front of it as a whole. -/
theorem takeWhile_dropWhile_of_notMem {c : Char} {text : List Char} (h : c ∉ text) :
    text.takeWhile (· ≠ c) = text ∧ text.dropWhile (· ≠ c) = [] := by
  have hall : ∀ d ∈ text, decide (d ≠ c) = true := by
    intro d hd
    simpa using ne_of_mem_of_not_mem hd h
  exact ⟨List.takeWhile_eq_self_iff.mpr hall, List.dropWhile_eq_nil_iff.mpr hall⟩

/-- A string reaches to the next quote. -/
theorem cutString_closed {body after : List Char} (hbody : '"' ∉ body) :
    cutString (body ++ '"' :: after) = (string body, after) := by
  unfold cutString
  rw [takeWhile_ne hbody, dropWhile_ne hbody]

/-- A string without a closing quote reaches to the end. -/
theorem cutString_open {rest : List Char} (hrest : '"' ∉ rest) :
    cutString rest = (openString rest, []) := by
  obtain ⟨htake, hdrop⟩ := takeWhile_dropWhile_of_notMem hrest
  unfold cutString
  rw [htake, hdrop]

/-- A line comment reaches to the next line end. -/
theorem cutSlash_line {body after : List Char} (hbody : '\n' ∉ body) :
    cutSlash ('/' :: body ++ '\n' :: after) = (lineComment body, '\n' :: after) := by
  simp only [cutSlash, List.cons_append, takeWhile_ne hbody, dropWhile_ne hbody]

/-- A line comment on the last line reaches to the end. -/
theorem cutSlash_lastLine {body : List Char} (hbody : '\n' ∉ body) :
    cutSlash ('/' :: body) = (lineComment body, []) := by
  obtain ⟨htake, hdrop⟩ := takeWhile_dropWhile_of_notMem hbody
  simp only [cutSlash, htake, hdrop]

/-- What the search for the end of a block comment passes over lies in front of the first end. -/
theorem beforeFirst_of_splitComment {before rest body after : List Char}
    (h : splitComment before rest = some (body, after)) :
    ∃ inner, body = before.reverse ++ inner ∧ BeforeFirst ['*', '/'] rest inner := by
  fun_induction splitComment before rest with
  | case1 before rest =>
    obtain ⟨rfl, rfl⟩ : before.reverse = body ∧ rest = after := by simpa using h
    exact ⟨[], by simp, ⟨rest, rfl⟩, fun _ _ => Nat.zero_le _⟩
  | case2 before c rest hends ih =>
    obtain ⟨inner, rfl, ⟨⟨behind, rfl⟩, hfirst⟩⟩ := ih h
    refine ⟨c :: inner, by simp, ⟨behind, by simp⟩, ?_⟩
    intro other hother
    cases other with
    | nil =>
      obtain ⟨more, hmore⟩ := hother
      obtain ⟨rfl, hrest⟩ := List.cons.inj hmore
      exact absurd hrest.symm (hends more rfl)
    | cons d other =>
      obtain ⟨rfl, htail⟩ := List.cons_prefix_cons.mp hother
      have hle := hfirst other htail
      simpa using hle
  | case3 => simp at h

/-- The search for the end of a block comment fails only if there is no end. -/
theorem not_infix_of_splitComment {before rest : List Char} (h : splitComment before rest = none) :
    ¬ ['*', '/'] <:+: rest := by
  fun_induction splitComment before rest with
  | case1 => simp at h
  | case2 before c rest hends ih =>
    rw [List.infix_cons_iff]
    rintro (⟨more, hmore⟩ | hinfix)
    · obtain ⟨rfl, hrest⟩ := List.cons.inj hmore
      exact hends more rfl hrest.symm
    · exact ih h hinfix
  | case3 => simp

/-- A block comment reaches through its first end. -/
theorem cutSlash_block {body after : List Char}
    (hbody : BeforeFirst ['*', '/'] (body ++ '*' :: '/' :: after) body) :
    cutSlash ('*' :: body ++ '*' :: '/' :: after) = (blockComment body, after) := by
  have hsplit : splitComment [] (body ++ '*' :: '/' :: after) = some (body, after) := by
    cases h : splitComment [] (body ++ '*' :: '/' :: after) with
    | none => exact absurd ⟨body, after, by simp⟩ (not_infix_of_splitComment h)
    | some parts =>
      obtain ⟨body', after'⟩ := parts
      obtain ⟨inner, rfl, hinner⟩ := beforeFirst_of_splitComment h
      obtain rfl := hbody.unique hinner
      have happend := splitComment_append h
      simpa using happend.symm
  simp only [cutSlash, List.cons_append, hsplit]

/-- A block comment without an end reaches to the end of the text. -/
theorem cutSlash_openBlock {body : List Char} (hbody : ¬ ['*', '/'] <:+: body) :
    cutSlash ('*' :: body) = (openComment body, []) := by
  have hsplit : splitComment [] body = none := by
    cases h : splitComment [] body with
    | none => rfl
    | some parts =>
      have happend := splitComment_append h
      exact absurd ⟨parts.1, parts.2, by simpa using happend.symm⟩ hbody
  simp only [cutSlash, hsplit]

/-- A slash is an operator if neither a slash nor an asterisk follows it. -/
theorem cutSlash_mark {rest : List Char} (hslash : rest.head? ≠ some '/')
    (hstar : rest.head? ≠ some '*') : cutSlash rest = (mark .slash, rest) := by
  unfold cutSlash
  split <;> simp_all

/-! ## Operators -/

/-- An operator with an equals sign behind it is the long one. -/
theorem cutOperator_long (kinds : Kind × Kind) (rest : List Char) :
    cutOperator kinds ('=' :: rest) = (mark kinds.2, rest) := rfl

/-- An operator without an equals sign behind it is the short one. -/
theorem cutOperator_short (kinds : Kind × Kind) {rest : List Char} (hrest : rest.head? ≠ some '=') :
    cutOperator kinds rest = (mark kinds.1, rest) := by
  unfold cutOperator
  split <;> simp_all

end Segment

end LoxLexer
