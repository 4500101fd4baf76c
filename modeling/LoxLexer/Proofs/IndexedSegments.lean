import LoxLexer.Proofs.CutSemantics
import LoxLexer.Proofs.IndexedScan
import LoxLexer.Proofs.NumeralValue
import LoxLexer.Proofs.ScanSemantics

/-!
# Segments by positions

A `Scanner` stands for the session that holds the text in front of it. Each of its functions takes one kind of
segment, and takes it as `Segment.cut` cuts it off: behind the segment the scanner stands where `Scanner.past` says,
and has told the listener of the error if there is one, `Scanner.outcome`. A whole round is therefore the step of a
session, `round_eq` and `session_past`, and nothing but a listener breaks it off.
-/

namespace LoxLexer

open Segment

namespace Scanner

variable {σ : Type} {scanner : Scanner} {memory : σ} {listener : Option (Listener σ)} {c : Char}
  {following after : List Char}

/-! ## What a segment yields -/

/-- The session that a scanner stands for. -/
def session (scanner : Scanner) : Session :=
  ⟨scanner.rest, scanner.line, scanner.tokens, scanner.errors⟩

/-- The scanner behind the segment in front of it, of which it has taken note. -/
def past (scanner : Scanner) (segment : Segment) : Scanner :=
  let next := scanner.session.consume segment []
  { scanner.marked.passing segment.text with tokens := next.tokens, errors := next.errors }

/-- What a round leads to. -/
def outcome (listener : Option (Listener σ)) (scanner : Scanner) (memory : σ) (segment : Segment) :
    EStateM.Result Interrupt (Scanner × σ) Unit :=
  let (memory, stopped) := Listener.tell listener memory (segment.error? scanner.line)
  if stopped then .error .stopped (scanner.past segment, memory)
  else .ok () (scanner.past segment, memory)

/-- What a round leads to depends on whether the listener stops the scan. -/
theorem outcome_of_tell {segment : Segment} {memory' : σ} {stopped : Bool}
    (h : Listener.tell listener memory (segment.error? scanner.line) = (memory', stopped)) :
    outcome listener scanner memory segment =
      if stopped then .error .stopped (scanner.past segment, memory')
      else .ok () (scanner.past segment, memory') := by
  rw [outcome, h]

/-- Nothing has to be done about a segment that is neither a lexeme nor faulty. -/
theorem outcome_of_silent (segment : Segment) (htoken : segment.token? scanner.line = none)
    (hfault : segment.fault? = none) :
    outcome listener scanner memory segment = .ok () (scanner.marked.passing segment.text, memory) := by
  have herror : segment.error? scanner.line = none := by rw [error?, hfault]; rfl
  simp only [outcome, past, Session.consume, session, htoken, herror]
  rfl

/-- A token is all that a lexeme yields. -/
theorem addToken_eq {kind : Kind} {literal : Option Literal} (segment : Segment)
    (h : scanner.rest = segment.text ++ after)
    (htoken : segment.token? scanner.line =
      some ⟨kind, String.ofList segment.text, literal, scanner.line⟩) (hfault : segment.fault? = none) :
    addToken kind literal (scanner.marked.passing segment.text, memory) =
      outcome listener scanner memory segment := by
  have herror : segment.error? scanner.line = none := by rw [error?, hfault]; rfl
  rw [addToken]
  refine (bind_ok rfl).trans ?_
  refine (bind_ok (cutOut_lexeme h)).trans ?_
  simp only [outcome, past, Session.consume, session, htoken, herror]
  rfl

/-- An error is all that a faulty segment yields. -/
theorem signal_eq {fault : SourceFault} (segment : Segment)
    (htoken : segment.token? scanner.line = none) (hfault : segment.fault? = some fault) :
    signal listener fault (scanner.marked.passing segment.text, memory) =
      outcome listener scanner memory segment := by
  -- The error is kept as a whole, so that asking the listener is not unfolded.
  obtain ⟨error, herror⟩ : ∃ error : LexicalError,
      error = ⟨(scanner.marked.passing segment.text).line, fault.message⟩ := ⟨_, rfl⟩
  have hnoticed : segment.error? scanner.line = some error := by
    rw [error?, hfault, herror]
    rfl
  simp only [outcome, past, Session.consume, session, htoken, hnoticed]
  rw [signal]
  refine (bind_ok rfl).trans ?_
  refine (bind_ok rfl).trans ?_
  by_cases hstopped : (Listener.tell listener memory (some error)).2 = true
  · rw [if_pos hstopped]
    subst herror
    exact congrFun (if_pos hstopped) _
  · rw [if_neg hstopped]
    subst herror
    exact congrFun (if_neg hstopped) _

/-! ## Segments -/

/-- An operator is taken as it is cut off. -/
theorem scanOperator_eq {kinds : Kind × Kind} (hc : operator? c = some kinds)
    (h : scanner.rest = c :: following) :
    scanOperator kinds (scanner.marked.passing [c], memory) =
      outcome listener scanner memory (cutOperator kinds following).1 := by
  have happend := text_cutOperator_append hc following
  have hrest : (scanner.marked.passing [c]).rest = following := rest_passing h
  rw [scanOperator]
  by_cases hequals : following.head? = some '='
  · obtain ⟨later, rfl⟩ := List.head?_eq_some_iff.mp hequals
    rw [cutOperator_long] at happend ⊢
    have htext : (Segment.mark kinds.2).text = [c, '='] :=
      List.append_cancel_right (happend.trans (List.append_cons [c] '=' later))
    refine (bind_ok (matchNext_of_cons hrest (by decide))).trans ?_
    rw [passing_append, List.singleton_append, ← htext]
    exact addToken_eq (.mark kinds.2) (h.trans happend.symm) rfl rfl
  · rw [cutOperator_short kinds hequals] at happend ⊢
    have htext : (Segment.mark kinds.1).text = [c] := List.append_cancel_right happend
    refine (bind_ok (matchNext_of_head?_ne (hrest ▸ hequals))).trans ?_
    rw [← htext]
    exact addToken_eq (.mark kinds.1) (h.trans happend.symm) rfl rfl

/-- One round of the search for the end of a block comment, if the end is not here. -/
theorem skipBlockComment_succ (h : scanner.rest = c :: following)
    (hends : ∀ later, c = '*' → following ≠ '/' :: later) (rounds : Nat) :
    skipBlockComment listener (rounds + 1) (scanner, memory) =
      skipBlockComment listener rounds (scanner.passing [c], memory) := by
  have htest : ¬ (decide (scanner.rest.head? = some '*') &&
      decide (scanner.rest.tail.head? = some '/')) = true := by
    rw [h, List.head?_cons, List.tail_cons, Bool.and_eq_true, decide_eq_true_iff, decide_eq_true_iff]
    rintro ⟨hstar, hslash⟩
    obtain ⟨later, hlater⟩ := List.head?_eq_some_iff.mp hslash
    exact hends later (Option.some.inj hstar) hlater
  rw [skipBlockComment]
  refine (bind_ok (atEnd_eq scanner memory)).trans ?_
  rw [h, List.isEmpty_cons, if_neg Bool.false_ne_true]
  refine (bind_ok (peek_eq scanner memory)).trans ?_
  refine (bind_ok (peekNext_eq scanner memory)).trans ?_
  rw [if_neg htest]
  exact bind_ok (advanceCounting_eq h)

/-- A block comment that ends is passed over through its end. -/
theorem skipBlockComment_closed {before text body : List Char} {rounds : Nat}
    (hsplit : splitComment before text = some (body, after)) (h : scanner.rest = text)
    (hrounds : text.length ≤ rounds) :
    ∃ inner, body = before.reverse ++ inner ∧
      skipBlockComment listener rounds (scanner, memory) =
        .ok () (scanner.passing (inner ++ ['*', '/']), memory) := by
  fun_induction splitComment before text generalizing scanner rounds with
  | case1 before later =>
    obtain ⟨rfl, rfl⟩ : before.reverse = body ∧ later = after := by simpa using hsplit
    refine ⟨[], by simp, ?_⟩
    have hlater : (scanner.passing ['*']).rest = '/' :: later := rest_passing h
    rw [skipBlockComment.eq_def]
    refine (bind_ok (atEnd_eq scanner memory)).trans ?_
    rw [h, List.isEmpty_cons, if_neg Bool.false_ne_true]
    refine (bind_ok (peek_eq scanner memory)).trans ?_
    refine (bind_ok (peekNext_eq scanner memory)).trans ?_
    rw [h, if_pos (by simp)]
    refine (bind_ok (discard_advance_eq h (by decide))).trans ?_
    rw [discard_advance_eq hlater (by decide), passing_append]
    rfl
  | case2 before c later hends ih =>
    have hlater : (scanner.passing [c]).rest = later := rest_passing h
    cases rounds with
    | zero => simp at hrounds
    | succ rounds =>
      obtain ⟨inner, rfl, hskip⟩ := ih hsplit hlater (by simpa using hrounds)
      refine ⟨c :: inner, by simp, ?_⟩
      rw [skipBlockComment_succ h (fun more hc hmore => hends more hc hmore), hskip, passing_append]
      rfl
  | case3 => simp at hsplit

/-- A block comment that does not end is passed over to the end of the source, which is an error. -/
theorem skipBlockComment_open {before text : List Char} {rounds : Nat}
    (hsplit : splitComment before text = none) (h : scanner.rest = text) (hrounds : text.length ≤ rounds) :
    skipBlockComment listener rounds (scanner, memory) =
      signal listener .unterminatedComment (scanner.passing text, memory) := by
  fun_induction splitComment before text generalizing scanner rounds with
  | case1 => simp at hsplit
  | case2 before c later hends ih =>
    have hlater : (scanner.passing [c]).rest = later := rest_passing h
    cases rounds with
    | zero => simp at hrounds
    | succ rounds =>
      rw [skipBlockComment_succ h (fun more hc hmore => hends more hc hmore),
        ih hsplit hlater (by simpa using hrounds), passing_append]
      rfl
  | case3 =>
    rw [skipBlockComment.eq_def]
    refine (bind_ok (atEnd_eq scanner memory)).trans ?_
    rw [h]
    rfl

/-- A block comment is taken as it is cut off. -/
theorem skipBlockComment_eq {later : List Char} (h : scanner.rest = '/' :: '*' :: later) :
    skipBlockComment listener scanner.source.length (scanner.marked.passing ['/', '*'], memory) =
      outcome listener scanner memory (cutSlash ('*' :: later)).1 := by
  have hlater : (scanner.marked.passing ['/', '*']).rest = later := rest_passing h
  have hlength : later.length ≤ scanner.source.length := by
    rw [← hlater]
    exact length_rest_le _
  cases hsplit : splitComment [] later with
  | none =>
    rw [cutSlash, hsplit, skipBlockComment_open hsplit hlater hlength, passing_append]
    exact signal_eq (openComment later) rfl rfl
  | some parts =>
    obtain ⟨body, after⟩ := parts
    obtain ⟨inner, hbody, hskip⟩ := skipBlockComment_closed hsplit hlater hlength
    obtain rfl : body = inner := hbody
    rw [cutSlash, hsplit, hskip, passing_append]
    exact (outcome_of_silent (blockComment body) rfl rfl).symm

/-- A slash is taken as it is cut off. -/
theorem scanSlash_eq (h : scanner.rest = '/' :: following) :
    scanSlash listener (scanner.marked.passing ['/'], memory) =
      outcome listener scanner memory (cutSlash following).1 := by
  have hrest : (scanner.marked.passing ['/']).rest = following := rest_passing h
  rw [scanSlash]
  by_cases hslash : following.head? = some '/'
  · obtain ⟨later, rfl⟩ := List.head?_eq_some_iff.mp hslash
    have hlater : (scanner.marked.passing (['/'] ++ ['/'])).rest = later := rest_passing h
    refine (bind_ok (matchNext_of_cons hrest (by decide))).trans ?_
    rw [if_pos rfl, passing_append, skipLineComment_eq, passing_append, hlater]
    exact (outcome_of_silent (lineComment (later.takeWhile (· ≠ '\n'))) rfl rfl).symm
  refine (bind_ok (matchNext_of_head?_ne (hrest ▸ hslash))).trans ?_
  by_cases hstar : following.head? = some '*'
  · obtain ⟨later, rfl⟩ := List.head?_eq_some_iff.mp hstar
    refine (bind_ok (matchNext_of_cons hrest (by decide))).trans ?_
    refine (bind_ok rfl).trans ?_
    rw [passing_append]
    exact skipBlockComment_eq h
  · rw [cutSlash_mark hslash hstar]
    refine (bind_ok (matchNext_of_head?_ne (hrest ▸ hstar))).trans ?_
    exact addToken_eq (.mark .slash) h rfl rfl

/-- The body of a string is passed over up to the next quote. -/
theorem loop_notAt_quote (memory : σ) (h : scanner.rest = '"' :: following) :
    loop (notAt '"') advanceCounting (scanner.marked.passing ['"'], memory) =
      .ok () (scanner.marked.passing ('"' :: following.takeWhile (· ≠ '"')), memory) := by
  have hrest : (scanner.marked.passing ['"']).rest = following := rest_passing h
  have hloop := loop_eq (fun scanner => notAt_eq '"' scanner memory)
    (fun _ _ _ hrest _ => advanceCounting_eq hrest) (scanner.marked.passing ['"'])
  rwa [hrest, passing_append] at hloop

/-- A string without a closing quote is an error. -/
theorem scanString_open {body : List Char} (hbody : '"' ∉ body) (h : scanner.rest = '"' :: body) :
    scanString listener (scanner.marked.passing ['"'], memory) =
      outcome listener scanner memory (.openString body) := by
  have hloop := loop_notAt_quote memory h
  rw [(takeWhile_dropWhile_of_notMem hbody).1] at hloop
  have hbehind : (scanner.marked.passing ('"' :: body)).rest = [] :=
    rest_passing (h.trans (List.append_nil _).symm)
  rw [scanString]
  refine (bind_ok hloop).trans ?_
  refine (bind_ok (atEnd_eq _ _)).trans ?_
  rw [hbehind]
  exact signal_eq (.openString body) rfl rfl

/-- A string with a closing quote is a token, and its value is what stands between the quotes. -/
theorem scanString_closed {body : List Char} (hbody : '"' ∉ body)
    (h : scanner.rest = '"' :: (body ++ '"' :: after)) :
    scanString listener (scanner.marked.passing ['"'], memory) =
      outcome listener scanner memory (.string body) := by
  have hloop := loop_notAt_quote memory h
  rw [takeWhile_ne hbody] at hloop
  have hbehind : (scanner.marked.passing ('"' :: body)).rest = '"' :: after := rest_passing h
  have hwhole : scanner.rest = (Segment.string body).text ++ after := by simp [h, text]
  have hinner : scanner.rest = ['"'] ++ body ++ '"' :: after := h
  have hlast : scanner.current + ['"'].length + body.length =
      scanner.current + ('"' :: body ++ ['"']).length - 1 := by
    simp only [List.length_append, List.length_cons, List.length_nil]
    omega
  have hslice : cutOut (scanner.current + ['"'].length) (scanner.current + ['"'].length + body.length)
      (scanner.marked.passing ('"' :: body ++ ['"']), memory) = _ := cutOut_eq hinner rfl
  rw [hlast] at hslice
  rw [scanString]
  refine (bind_ok hloop).trans ?_
  refine (bind_ok (atEnd_eq _ _)).trans ?_
  rw [hbehind, List.isEmpty_cons, if_neg Bool.false_ne_true]
  refine (bind_ok (discard_advance_eq hbehind (by decide))).trans ?_
  rw [passing_append]
  refine (bind_ok rfl).trans ?_
  refine (bind_ok hslice).trans ?_
  exact addToken_eq (.string body) hwhole rfl rfl

/-- A string is taken as it is cut off. -/
theorem scanString_eq (h : scanner.rest = '"' :: following) :
    scanString listener (scanner.marked.passing ['"'], memory) =
      outcome listener scanner memory (cutString following).1 := by
  obtain ⟨body, behind, rfl, hbody, hstop⟩ := exists_run (· ≠ '"') following
  have hnotMem : '"' ∉ body := fun hmem => hbody '"' hmem rfl
  cases behind with
  | nil =>
    rw [List.append_nil] at h ⊢
    rw [cutString_open hnotMem]
    exact scanString_open hnotMem h
  | cons d after =>
    obtain rfl : d = '"' := by simpa using hstop d rfl
    rw [cutString_closed hnotMem]
    exact scanString_closed hnotMem h

/-- A numeral is converted into the number that its segment stands for. -/
theorem addNumber_eq {whole fraction : List Char} (hwhole : IsDigits whole)
    (hfraction : fraction = [] ∨ IsDigits fraction)
    (h : scanner.rest = (Segment.number whole fraction).text ++ after) :
    addNumber (scanner.marked.passing (Segment.number whole fraction).text, memory) =
      outcome listener scanner memory (.number whole fraction) := by
  have hnumeral : IsNumeral (Segment.number whole fraction).text := by
    cases fraction with
    | nil => exact .whole hwhole
    | cons d fraction => exact .point hwhole (hfraction.resolve_left (by simp))
  have hvalue : toNumber (Segment.number whole fraction).text
      (scanner.marked.passing (Segment.number whole fraction).text, memory) =
        .ok (Decimal.ofParts false whole fraction 0).toBinary64
          (scanner.marked.passing (Segment.number whole fraction).text, memory) := by
    rw [toNumber, if_pos hnumeral, ofText?_numeral hwhole hfraction]
    rfl
  rw [addNumber]
  refine (bind_ok rfl).trans ?_
  refine (bind_ok (cutOut_lexeme h)).trans ?_
  refine (bind_ok hvalue).trans ?_
  exact addToken_eq (.number whole fraction) h rfl rfl

/-- Digits are passed over up to the first character that is none. -/
theorem skipRun_digits {text run : List Char} (h : scanner.rest = text ++ (run ++ after))
    (hrun : ∀ c ∈ run, IsDecimal c) (hstop : ∀ d ∈ after.head?, ¬ IsDecimal d) :
    skipRun Char.isDigit (scanner.marked.passing text, memory) =
      .ok () (scanner.marked.passing (text ++ run), memory) := by
  have hrest : (scanner.marked.passing text).rest = run ++ after := rest_passing h
  rw [skipRun_eq (by decide), hrest, takeWhile_digits hrun hstop, passing_append]

/-- A number is taken as it is cut off. -/
theorem scanNumber_eq (hc : c.isDigit = true) (h : scanner.rest = c :: following) :
    scanNumber (scanner.marked.passing [c], memory) =
      outcome listener scanner memory (cutNumber (c :: following)).1 := by
  obtain ⟨run, behind, rfl, hrun, hstop⟩ := exists_run IsDecimal following
  have hwhole : IsDigits (c :: run) := isDigits_cons (isDigit_iff.mp hc) hrun
  have hrest : scanner.rest = [c] ++ (run ++ behind) := h
  have hbehind : (scanner.marked.passing (c :: run)).rest = behind := rest_passing h
  rw [scanNumber]
  refine (bind_ok (skipRun_digits hrest hrun hstop)).trans ?_
  refine (bind_ok (peek_eq _ _)).trans ?_
  refine (bind_ok (peekNext_eq _ _)).trans ?_
  rw [List.singleton_append, hbehind, ← List.cons_append]
  by_cases hpoint : ∃ d more, behind = '.' :: d :: more ∧ IsDecimal d
  · obtain ⟨d, more, rfl, hd⟩ := hpoint
    obtain ⟨run', behind', rfl, hrun', hstop'⟩ := exists_run IsDecimal more
    have hfraction : IsDigits (d :: run') := isDigits_cons hd hrun'
    have htext : (Segment.number (c :: run) (d :: run')).text = c :: run ++ ['.'] ++ d :: run' := by
      simp [text]
    have hassoc : c :: run ++ '.' :: d :: (run' ++ behind') =
        c :: run ++ '.' :: d :: run' ++ behind' := by simp
    have hpassed : scanner.rest = c :: run ++ ['.'] ++ (d :: run' ++ behind') := h.trans (by simp)
    have hlexeme : scanner.rest = (Segment.number (c :: run) (d :: run')).text ++ behind' :=
      h.trans (by simp [htext])
    rw [if_pos (by simpa using isDigit_iff.mpr hd)]
    refine (bind_ok (discard_advance_eq hbehind (by decide))).trans ?_
    rw [passing_append]
    refine (bind_ok (skipRun_digits hpassed hfraction.2 hstop')).trans ?_
    rw [hassoc, cutNumber_point hwhole.2 hfraction hstop', ← htext]
    exact addNumber_eq hwhole (.inr hfraction) hlexeme
  · push Not at hpoint
    have htest : ¬ (decide (behind.head? = some '.') && behind.tail.head?.any Char.isDigit) = true := by
      rw [Bool.and_eq_true, decide_eq_true_iff]
      rintro ⟨hhead, hdigit⟩
      obtain ⟨more, rfl⟩ := List.head?_eq_some_iff.mp hhead
      cases more with
      | nil => exact absurd hdigit Bool.false_ne_true
      | cons d more => exact hpoint d more rfl (isDigit_iff.mp hdigit)
    rw [cutNumber_whole hwhole.2 hstop hpoint, if_neg htest]
    exact addNumber_eq hwhole (.inl rfl) h

/-- A word is taken as it is cut off. -/
theorem scanWord_eq (h : scanner.rest = c :: following) :
    scanWord (scanner.marked.passing [c], memory) =
      outcome listener scanner memory (.word (c :: following.takeWhile continuesWord)) := by
  have hrest : (scanner.marked.passing [c]).rest = following := rest_passing h
  have htext : scanner.rest =
      (c :: following.takeWhile continuesWord) ++ following.dropWhile continuesWord := by
    rw [List.cons_append, List.takeWhile_append_dropWhile, h]
  have hloop := skipRun_eq (by decide : continuesWord '\n' = false) (scanner.marked.passing [c]) memory
  rw [hrest, passing_append] at hloop
  rw [scanWord]
  refine (bind_ok hloop).trans ?_
  refine (bind_ok rfl).trans ?_
  refine (bind_ok (cutOut_lexeme htext)).trans ?_
  exact addToken_eq (.word (c :: following.takeWhile continuesWord)) htext rfl rfl

/-- What is in front of a scanner is taken as it is cut off. -/
theorem scanToken_eq (h : scanner.rest = c :: following) :
    scanToken listener (scanner.marked, memory) =
      outcome listener scanner memory (cut c following).1 := by
  have hmarked : scanner.marked.rest = c :: following := h
  rw [scanToken]
  refine (bind_ok (advance_eq hmarked)).trans ?_
  by_cases hnewline : c = '\n'
  · -- The end of a line is the only character that is taken and counted in two steps.
    subst hnewline
    have hsilent : outcome listener scanner memory .newline = _ := outcome_of_silent .newline rfl rfl
    exact hsilent.symm
  rw [← passing_singleton hnewline, cut]
  cases hpunctuation : punctuation? c with
  | some kind =>
    have htext := text_punctuation hpunctuation
    rw [← htext]
    exact addToken_eq (.mark kind) (by rw [h, htext]; rfl) rfl rfl
  | none =>
  cases hoperator : operator? c with
  | some kinds => exact scanOperator_eq hoperator h
  | none =>
  dsimp only
  by_cases hslash : c = '/'
  · subst hslash
    exact scanSlash_eq h
  by_cases hblank : (c = ' ' || c = '\r' || c = '\t') = true
  · simp only [if_neg hslash, if_pos hblank]
    exact (outcome_of_silent (.blank c) rfl rfl).symm
  by_cases hquote : c = '"'
  · subst hquote
    exact scanString_eq h
  simp only [if_neg hslash, if_neg hblank, if_neg hnewline, if_neg hquote]
  by_cases hdigit : c.isDigit = true
  · simp only [if_pos hdigit]
    exact scanNumber_eq hdigit h
  by_cases hletter : startsWord c = true
  · simp only [if_neg hdigit, if_pos hletter]
    exact scanWord_eq h
  · simp only [if_neg hdigit, if_neg hletter]
    exact signal_eq (.stray c) rfl rfl

/-! ## Rounds -/

theorem unfinished_eq (scanner : Scanner) (memory : σ) :
    unfinished (scanner, memory) = .ok (!scanner.rest.isEmpty) (scanner, memory) :=
  bind_ok (atEnd_eq scanner memory)

/-- A round takes the first segment of the text in front of the scanner. -/
theorem round_eq (h : scanner.rest = c :: following) :
    round listener (scanner, memory) = outcome listener scanner memory (cut c following).1 := by
  rw [round]
  exact (bind_ok rfl).trans (scanToken_eq h)

/-- A round does to the session that a scanner stands for what consuming the next segment does. -/
theorem session_past (h : scanner.rest = c :: following) :
    (scanner.past (cut c following).1).session =
      scanner.session.consume (cut c following).1 (cut c following).2 := by
  have hrest : (scanner.marked.passing (cut c following).1.text).rest = (cut c following).2 :=
    rest_passing (h.trans (text_cut_append c following).symm)
  have hpast : (scanner.past (cut c following).1).rest = (cut c following).2 := hrest
  rw [session, hpast]
  rfl

end Scanner

end LoxLexer
