import LoxLexer.Proofs.Answers
import LoxLexer.Proofs.TokenLists

/-!
# Reading printed tokens back

Tokens are printed below one another, with their lexemes and the texts of strings as they are. A string may hold line
ends and anything that looks like other printed tokens, so the lines of the print say nothing. The print
can be read from its start all the same: the name of the kind tells how far the lexeme reaches, and the
lexeme determines the value that is printed behind it. So no two lists of tokens that scans find
have the same print, but for what is not printed.
-/

namespace LoxLexer

/-! ## Texts in front of a mark -/

/-- What stands in front of the first mark can be told from what stands behind it. -/
theorem append_mark_inj {mark : Char} {before before' after after' : List Char}
    (hbefore : mark ∉ before) (hbefore' : mark ∉ before')
    (h : before ++ mark :: after = before' ++ mark :: after') : before = before' ∧ after = after' := by
  have hfirst : BeforeFirst [mark] (before ++ mark :: after) before :=
    beforeFirst_singleton_iff.mpr ⟨hbefore, after, rfl⟩
  have hfirst' : BeforeFirst [mark] (before ++ mark :: after) before' :=
    beforeFirst_singleton_iff.mpr ⟨hbefore', after', h⟩
  obtain rfl := hfirst.unique hfirst'
  exact ⟨rfl, List.tail_eq_of_cons_eq (List.append_cancel_left h)⟩

namespace CommandLine

/-! ## Printed line numbers -/

/-- An integer is printed as the digits of its absolute value, behind a sign if it is negative. -/
theorem toList_toString_int (n : Int) :
    (toString n).toList = (if 0 ≤ n then [] else ['-']) ++ Nat.toDigits 10 n.natAbs := by
  rw [Int.toString_eq_repr, Int.repr_eq_if]
  split
  next hn =>
    have habs : n.toNat = n.natAbs := by omega
    rw [habs, Nat.toList_repr, List.nil_append]
  next hn =>
    have habs : (-n).toNat = n.natAbs := by omega
    rw [habs, String.toList_append, Nat.toList_repr]
    rfl

/-- Only digits and a sign stand in a printed integer. -/
theorem isDecimal_or_sign_of_mem {n : Int} {c : Char} (h : c ∈ (toString n).toList) :
    IsDecimal c ∨ c = '-' := by
  rw [toList_toString_int, List.mem_append] at h
  rcases h with hsign | hdigit
  · right
    split at hsign <;> simp_all
  · exact .inl (isDigit_iff.mp (Nat.isDigit_of_mem_toDigits (by decide) (by decide) hdigit))

/-- No space stands in a printed integer. -/
theorem space_notMem_toString_int (n : Int) : ' ' ∉ (toString n).toList := by
  intro hmem
  rcases isDecimal_or_sign_of_mem hmem with hdigit | hsign
  · exact absurd hdigit (by decide)
  · exact absurd hsign (by decide)

/-- Different integers are printed differently. -/
theorem toString_int_injective {m n : Int} (h : (toString m).toList = (toString n).toList) : m = n := by
  have hread : ∀ k : Nat, Nat.ofDigitChars 10 (Nat.toDigits 10 k) 0 = k := fun k =>
    Nat.ofDigitChars_toDigits (by decide) (by decide)
  have hdigits : ∀ k, '-' ∉ Nat.toDigits 10 k := by
    intro k hmem
    exact absurd (Nat.isDigit_of_mem_toDigits (by decide) (by decide) hmem) (by decide)
  have habs : ∀ {j k : Nat}, Nat.toDigits 10 j = Nat.toDigits 10 k → j = k := by
    intro j k hjk
    rw [← hread j, hjk, hread]
  rw [toList_toString_int, toList_toString_int] at h
  split at h <;> split at h
  · have := habs h
    omega
  · exact absurd (h ▸ List.mem_append_left _ (List.mem_singleton_self '-')) (hdigits _)
  · exact absurd (h ▸ List.mem_append_left _ (List.mem_singleton_self '-')) (hdigits _)
  · have := habs (List.tail_eq_of_cons_eq h)
    omega

/-- The spaces in front of a padded number can be told from the number. -/
theorem dropWhile_padLeft (width : Nat) (n : Int) (rest : List Char) :
    ((padLeft width n).toList ++ ' ' :: rest).dropWhile (· = ' ') = (toString n).toList ++ ' ' :: rest := by
  have hspaces : ∀ c ∈ List.replicate (width - (toString n).length) ' ', decide (c = ' ') = true := by
    intro c hc
    simpa using (List.mem_replicate.mp hc).2
  have hne : (toString n).toList ≠ [] := by
    rw [toList_toString_int]
    exact List.append_ne_nil_of_right_ne_nil _ Nat.toDigits_ne_nil
  rw [padLeft, String.toList_append, String.toList_ofList, List.append_assoc,
    List.dropWhile_append_of_pos hspaces]
  obtain ⟨first, digits, hdigits⟩ := List.exists_cons_of_ne_nil hne
  have hfirst : first ≠ ' ' := by
    rintro rfl
    exact space_notMem_toString_int n (hdigits ▸ List.mem_cons_self)
  rw [hdigits, List.cons_append, List.dropWhile_cons_of_neg (by simpa using hfirst)]

/-- A padded number can be read back, however many digits it has. -/
theorem padLeft_inj {width : Nat} {m n : Int} {rest rest' : List Char}
    (h : (padLeft width m).toList ++ ' ' :: rest = (padLeft width n).toList ++ ' ' :: rest') :
    m = n ∧ rest = rest' := by
  have htrimmed := congrArg (List.dropWhile (· = ' ')) h
  rw [dropWhile_padLeft, dropWhile_padLeft] at htrimmed
  obtain ⟨hdigits, hrest⟩ := append_mark_inj (space_notMem_toString_int m)
    (space_notMem_toString_int n) htrimmed
  exact ⟨toString_int_injective hdigits, hrest⟩

end CommandLine

/-! ## Lexemes and values -/

/-- All characters of a word can stand in a word. -/
theorem isWordPart_of_mem {word : List Char} (h : IsWord word) {c : Char} (hc : c ∈ word) :
    IsWordPart c := by
  cases word with
  | nil => simp at hc
  | cons first rest =>
    rcases List.mem_cons.mp hc with rfl | hc
    · exact .inl h.1
    · exact h.2 c hc

namespace Kind

/-- No space stands in the name of a kind or in its spelling. -/
theorem space_notMem_name_spelling (kind : Kind) :
    ' ' ∉ kind.name.toList ∧ ' ' ∉ kind.spelling.toList := by
  cases kind <;> decide

/-- Kinds have different names. -/
theorem name_injective {kind kind' : Kind} (h : kind.name = kind'.name) : kind = kind' := by
  have hfound : ∀ k : Kind, ofName? k.name = some k := by
    intro k
    cases k <;> rfl
  rw [← Option.some.injEq, ← hfound, h, hfound]

end Kind

namespace Token

/-- A token that a scan can find: a consistent one, or the mark for the end of the input. -/
def IsFound (token : Token) : Prop := token.Consistent ∨ ∃ line, token = endOfInput line

/-- The tokens of a scan can be found. -/
theorem WellFormed.isFound {tokens : List Token} (h : WellFormed tokens) : ∀ token ∈ tokens, token.IsFound := by
  obtain ⟨lexemes, line, rfl, hconsistent⟩ := h.ending
  intro token htoken
  rcases List.mem_append.mp htoken with hlexeme | hend
  · exact .inl (hconsistent token hlexeme)
  · exact .inr ⟨line, List.mem_singleton.mp hend⟩

/-- What can be printed for a token that can be found: a string between quotes with its text, a numeral with its
number, or a lexeme without a value. Only in the first case there may be spaces in the lexeme. -/
theorem IsFound.shape {token : Token} (h : token.IsFound) :
    (token.kind = .string ∧ ∃ value : String, '"' ∉ value.toList ∧
        token.lexeme = "\"" ++ value ++ "\"" ∧ token.literal = some (.text value)) ∨
      (token.kind = .number ∧ ' ' ∉ token.lexeme.toList ∧ ∃ value,
        Binary64.ofText? token.lexeme = some value ∧ token.literal = some (.number value)) ∨
      (token.kind ≠ .string ∧ token.kind ≠ .number ∧ ' ' ∉ token.lexeme.toList ∧
        token.literal = none) := by
  rcases h with h | ⟨line, rfl⟩
  · cases h with
    | @fixed kind line hfixed =>
      have hstring : kind ≠ .string := by
        rintro rfl
        simp [Kind.isFixed] at hfixed
      have hnumber : kind ≠ .number := by
        rintro rfl
        simp [Kind.isFixed] at hfixed
      exact .inr (.inr ⟨hstring, hnumber, (Kind.space_notMem_name_spelling kind).2, rfl⟩)
    | @identifier name line hword =>
      have hspace : ' ' ∉ name.toList := fun hmem =>
        absurd (isWordPart_of_mem hword hmem) (by decide)
      exact .inr (.inr ⟨Kind.noConfusion, Kind.noConfusion, hspace, rfl⟩)
    | @number numeral value line hnumeral hvalue =>
      obtain ⟨whole, fraction, hwhole, hfraction, htext⟩ := hnumeral.exists_parts
      have hspace : ' ' ∉ numeral.toList := fun hmem =>
        absurd (isDecimal_or_point_of_mem hwhole hfraction (htext ▸ hmem)) (by decide)
      exact .inr (.inl ⟨rfl, hspace, value, hvalue, rfl⟩)
    | @string value line hquote => exact .inl ⟨rfl, value, hquote, rfl, rfl⟩
  · exact .inr (.inr ⟨Kind.noConfusion, Kind.noConfusion, by simp [endOfInput], rfl⟩)

/-- In front of a space, the lexeme of a token can be told from what stands behind it if the kind of the token is
known, and the lexeme determines the value. -/
theorem IsFound.lexeme_inj {token other : Token} (h : token.IsFound) (hother : other.IsFound)
    (hkind : token.kind = other.kind) {rest rest' : List Char}
    (htexts : token.lexeme.toList ++ ' ' :: rest = other.lexeme.toList ++ ' ' :: rest') :
    token.lexeme = other.lexeme ∧ token.literal = other.literal ∧ rest = rest' := by
  rcases h.shape with ⟨hstring, value, hquote, hlexeme, hliteral⟩ |
      ⟨hnumber, hspace, value, hvalue, hliteral⟩ | ⟨hstring, hnumber, hspace, hliteral⟩ <;>
    rcases hother.shape with ⟨hstring', value', hquote', hlexeme', hliteral'⟩ |
      ⟨hnumber', hspace', value', hvalue', hliteral'⟩ | ⟨hstring', hnumber', hspace', hliteral'⟩
  case inl.inl =>
    -- A string may hold spaces, so its end is the first quote behind the one that opens it.
    have hquoted : ∀ (text : String) (behind : List Char), ("\"" ++ text ++ "\"").toList ++ ' ' :: behind =
        '"' :: (text.toList ++ '"' :: ' ' :: behind) := by
      simp
    rw [hlexeme, hlexeme', hquoted, hquoted, List.cons.injEq] at htexts
    obtain ⟨hvalues, hrest⟩ := append_mark_inj hquote hquote' htexts.2
    obtain rfl := String.toList_injective hvalues
    exact ⟨hlexeme.trans hlexeme'.symm, hliteral.trans hliteral'.symm, List.tail_eq_of_cons_eq hrest⟩
  case inr.inl.inr.inl =>
    obtain ⟨hlexemes, hrest⟩ := append_mark_inj hspace hspace' htexts
    have hlexeme := String.toList_injective hlexemes
    rw [hlexeme, hvalue', Option.some.injEq] at hvalue
    rw [hliteral, hliteral', hvalue]
    exact ⟨hlexeme, rfl, hrest⟩
  case inr.inr.inr.inr =>
    obtain ⟨hlexemes, hrest⟩ := append_mark_inj hspace hspace' htexts
    exact ⟨String.toList_injective hlexemes, hliteral.trans hliteral'.symm, hrest⟩
  -- In the other cases the kinds differ.
  all_goals simp_all

/-- The print of a token consists of the name of its kind, its lexeme and its value. -/
theorem toList_render (token : Token) :
    token.render.toList = token.kind.name.toList ++ ' ' :: (token.lexeme.toList ++ ' ' ::
      ((token.literal.map Literal.render).getD "").toList) := by
  simp [render]

/-- A printed token can be told from what stands on the lines behind it. -/
theorem IsFound.render_inj {token other : Token} (h : token.IsFound) (hother : other.IsFound)
    {rest rest' : List Char}
    (hprint : token.render.toList ++ '\n' :: rest = other.render.toList ++ '\n' :: rest') :
    (token.kind, token.lexeme, token.literal) = (other.kind, other.lexeme, other.literal) ∧
      rest = rest' := by
  simp only [toList_render, List.append_assoc, List.cons_append] at hprint
  obtain ⟨hnames, hprint⟩ := append_mark_inj (Kind.space_notMem_name_spelling _).1
    (Kind.space_notMem_name_spelling _).1 hprint
  have hkind := Kind.name_injective (String.toList_injective hnames)
  obtain ⟨hlexeme, hliteral, hrest⟩ := h.lexeme_inj hother hkind hprint
  rw [hliteral] at hrest
  rw [hkind, hlexeme, hliteral]
  exact ⟨rfl, List.tail_eq_of_cons_eq (List.append_cancel_left hrest)⟩

end Token

/-! ## Printed lists -/

namespace CommandLine

variable {settings : Settings}

/-- Two tokens of which all that is printed is the same: all but the line, and the line too if lines are shown. -/
structure PrintedAlike (settings : Settings) (token other : Token) : Prop where
  /-- The tokens have the same kind, lexeme and value. -/
  content : (token.kind, token.lexeme, token.literal) = (other.kind, other.lexeme, other.literal)
  /-- They have the same line if lines are shown. -/
  line : settings.showLines = true → token.line = other.line

/-- Where lines are shown, all of a token is printed. -/
theorem PrintedAlike.eq {token other : Token} (h : PrintedAlike settings token other)
    (hshow : settings.showLines = true) : token = other := by
  obtain ⟨hcontent, hline⟩ := h
  cases token
  cases other
  simp_all

/-- Tokens of which all that is printed is the same are printed in the same way. -/
theorem PrintedAlike.tokenLine_eq {token other : Token} (h : PrintedAlike settings token other) :
    tokenLine settings token = tokenLine settings other := by
  have hrender : token.render = other.render := by
    obtain ⟨hkind, hlexeme, hliteral⟩ : _ ∧ _ ∧ _ := by simpa using h.content
    rw [Token.render, Token.render, hkind, hlexeme, hliteral]
  rw [tokenLine, tokenLine, hrender]
  split
  next hshow => rw [h.line hshow]
  next => rfl

/-- The line of a token can be told from what stands below it. -/
theorem printedAlike_of_append {token other : Token} (h : token.IsFound) (hother : other.IsFound)
    {rest rest' : List Char} (hprint : (tokenLine settings token).toList ++ rest =
      (tokenLine settings other).toList ++ rest') :
    PrintedAlike settings token other ∧ rest = rest' := by
  by_cases hshow : settings.showLines = true
  · have hline : ∀ (shown : Token) (below : List Char), (tokenLine settings shown).toList ++ below =
        (padLeft 4 shown.line).toList ++ ' ' :: (shown.render.toList ++ '\n' :: below) := by
      intro shown below
      simp [tokenLine, hshow]
    rw [hline, hline] at hprint
    obtain ⟨hlines, hprint⟩ := padLeft_inj hprint
    obtain ⟨hcontent, hrest⟩ := h.render_inj hother hprint
    exact ⟨⟨hcontent, fun _ => hlines⟩, hrest⟩
  · have hline : ∀ (shown : Token) (below : List Char), (tokenLine settings shown).toList ++ below =
        shown.render.toList ++ '\n' :: below := by
      intro shown below
      simp [tokenLine, hshow]
    rw [hline, hline] at hprint
    obtain ⟨hcontent, hrest⟩ := h.render_inj hother hprint
    exact ⟨⟨hcontent, fun h => absurd h hshow⟩, hrest⟩

/-- Nothing is printed for no tokens. -/
theorem tokenLines_nil (settings : Settings) : tokenLines settings [] = "" := rfl

/-- The line of a token comes in front of those of the tokens behind it. -/
theorem tokenLines_cons (settings : Settings) (token : Token) (tokens : List Token) :
    tokenLines settings (token :: tokens) = tokenLine settings token ++ tokenLines settings tokens := by
  simp [tokenLines]

/-- Where there are tokens, something is printed. -/
theorem tokenLines_cons_ne_empty (settings : Settings) (token : Token) (tokens : List Token) :
    tokenLines settings (token :: tokens) ≠ "" := by
  intro hempty
  have hlength := congrArg String.length hempty
  simp [tokenLines_cons, tokenLine] at hlength

/-- Lists of tokens that can be found have the same print if and only if all that is printed of their tokens is
the same, one by one. -/
theorem tokenLines_eq_iff {tokens others : List Token} (h : ∀ token ∈ tokens, token.IsFound)
    (hothers : ∀ token ∈ others, token.IsFound) :
    tokenLines settings tokens = tokenLines settings others ↔
      List.Forall₂ (PrintedAlike settings) tokens others := by
  induction tokens generalizing others with
  | nil =>
    cases others with
    | nil => simp
    | cons other others => simp [(tokenLines_cons_ne_empty settings other others).symm, tokenLines_nil]
  | cons token tokens ih =>
    cases others with
    | nil => simp [tokenLines_cons_ne_empty settings token tokens, tokenLines_nil]
    | cons other others =>
      obtain ⟨htoken, htokens⟩ := List.forall_mem_cons.mp h
      obtain ⟨hother, hothers⟩ := List.forall_mem_cons.mp hothers
      rw [List.forall₂_cons, ← ih htokens hothers, tokenLines_cons, tokenLines_cons]
      constructor
      · intro hprint
        have hchars := congrArg String.toList hprint
        rw [String.toList_append, String.toList_append] at hchars
        obtain ⟨halike, hrest⟩ := printedAlike_of_append htoken hother hchars
        exact ⟨halike, String.toList_injective hrest⟩
      · rintro ⟨halike, hrest⟩
        rw [halike.tokenLine_eq, hrest]

/-- All that is printed of two lists is the same if their contents are the same and, where lines are shown, the lists
themselves. -/
theorem forall₂_printedAlike_iff {tokens others : List Token} :
    List.Forall₂ (PrintedAlike settings) tokens others ↔
      tokens.map (fun token => (token.kind, token.lexeme, token.literal)) =
          others.map (fun token => (token.kind, token.lexeme, token.literal)) ∧
        (settings.showLines = true → tokens = others) := by
  induction tokens generalizing others with
  | nil => cases others <;> simp
  | cons token tokens ih =>
    cases others with
    | nil => simp
    | cons other others =>
      rw [List.forall₂_cons, ih, List.map_cons, List.map_cons, List.cons.injEq, List.cons.injEq]
      constructor
      · rintro ⟨halike, hcontents, hlists⟩
        exact ⟨⟨halike.content, hcontents⟩, fun hshow => ⟨halike.eq hshow, hlists hshow⟩⟩
      · rintro ⟨⟨hcontent, hcontents⟩, hlists⟩
        exact ⟨⟨hcontent, fun hshow => congrArg Token.line (hlists hshow).1⟩, hcontents,
          fun hshow => (hlists hshow).2⟩

end CommandLine

open CommandLine

/-- **Printed tokens can be read back.** Two texts are answered with the same print of their tokens if and only if their
scans find the same kinds, lexemes and values in the same order and, where lines are shown, on the same
lines. -/
theorem stdout_eq_iff (settings : Settings) (ansi : Bool) (source other : String) :
    (answer settings ansi source).stdout = (answer settings ansi other).stdout ↔
      (scan source).tokens.map (fun token => (token.kind, token.lexeme, token.literal)) =
          (scan other).tokens.map (fun token => (token.kind, token.lexeme, token.literal)) ∧
        (settings.showLines = true → (scan source).tokens = (scan other).tokens) := by
  rw [answer_eq, answer_eq, ← forall₂_printedAlike_iff]
  exact tokenLines_eq_iff (Token.wellFormed_scan source).isFound (Token.wellFormed_scan other).isFound

end LoxLexer
