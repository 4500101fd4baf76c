import LoxLexer.Proofs.LexicalClasses
import LoxLexer.Source.Session

/-!
# Scanning by positions

A session holds the text that is still to be scanned. The same scan can be done with positions in the whole
source: a `Scanner` stands at a position, remembers where the present lexeme starts, and looks at single
characters. Such a scan may fail in ways in which a session cannot, and each of them has a name, `Interrupt`.

For each operation that looks at the source there is one equation, which says where the operation leaves a
scanner with a given text in front of it. A loop passes over the characters that its test accepts, `loop_eq`.
-/

namespace LoxLexer

open Segment

/-- Numerals can be told from other texts: a numeral is a run of digits, or there is a point in it with digits
on both sides. -/
theorem isNumeral_iff {text : List Char} : IsNumeral text ↔ IsDigits text ∨
    ∃ i < text.length, text[i]? = some '.' ∧ IsDigits (text.take i) ∧ IsDigits (text.drop (i + 1)) := by
  constructor
  · intro h
    cases h with
    | whole hdigits => exact .inl hdigits
    | @point digits fraction hdigits hfraction =>
      exact .inr ⟨digits.length, by simp, by simp, by simpa using hdigits, by simpa using hfraction⟩
  · rintro (hdigits | ⟨i, hi, hpoint, hdigits, hfraction⟩)
    · exact .whole hdigits
    · have htext : text.take i ++ '.' :: text.drop (i + 1) = text := by
        rw [List.getElem?_eq_getElem hi, Option.some.injEq] at hpoint
        rw [← hpoint, ← List.drop_eq_getElem_cons hi, List.take_append_drop]
      rw [← htext]
      exact .point hdigits hfraction

instance : DecidablePred IsDigits := fun _ => inferInstanceAs (Decidable (_ ∧ _))

instance : DecidablePred IsNumeral := fun _ => decidable_of_iff _ isNumeral_iff.symm

/-! ## The scanner -/

/-- Why a scanner breaks off. Only the first reason lies outside the scanner. -/
inductive Interrupt where
  /-- A listener has stopped the scan. -/
  | stopped
  /-- A character outside the source was asked for. -/
  | outside
  /-- A piece of the source was asked for that ends in front of its start. -/
  | reversed
  /-- A text that is no numeral was to be converted into a number. -/
  | notNumeral
  /-- A loop went on for longer than the source has characters. -/
  | endless
  deriving DecidableEq, Repr

/-- A scan with positions in the source. -/
structure Scanner where
  /-- The whole source text. -/
  source : List Char
  /-- Where the present lexeme starts. -/
  start : Nat
  /-- The position of the next character. -/
  current : Nat
  /-- The line of the next character, counted from one. -/
  line : Nat
  /-- The line on which the present lexeme starts. -/
  startLine : Nat
  /-- The tokens found so far. -/
  tokens : Array Token
  /-- The errors found so far. -/
  errors : Array LexicalError

/-- What a scanner does. The state holds what the listener remembers as well, and an interrupt leaves the state
as it is when it happens. -/
abbrev ScannerM (σ : Type) := EStateM Interrupt (Scanner × σ)

namespace Scanner

variable {σ : Type}

/-- A scanner in front of a source. -/
def atStart (source : String) : Scanner := ⟨source.toList, 0, 0, 1, 1, #[], #[]⟩

/-! ### Single characters -/

/-- Whether the source is used up. -/
def atEnd : ScannerM σ Bool := do
  let scanner := (← get).1
  return decide (scanner.source.length ≤ scanner.current)

/-- The character at a position. -/
def charAt (position : Nat) : ScannerM σ Char := do
  match (← get).1.source[position]? with
  | some c => return c
  | none => throw .outside

/-- Goes on to the next position. -/
def moveOn : ScannerM σ Unit :=
  modify fun (scanner, memory) => ({ scanner with current := scanner.current + 1 }, memory)

/-- Notes that a line has ended. -/
def countLine : ScannerM σ Unit :=
  modify fun (scanner, memory) => ({ scanner with line := scanner.line + 1 }, memory)

/-- Takes the next character. -/
def advance : ScannerM σ Char := do
  let c ← charAt (← get).1.current
  moveOn
  return c

/-- Takes the next character if it is the expected one. -/
def matchNext (expected : Char) : ScannerM σ Bool := do
  if ← atEnd then return false
  if (← charAt (← get).1.current) ≠ expected then return false
  moveOn
  return true

/-- The next character, if there is one. -/
def peek : ScannerM σ (Option Char) := do
  if ← atEnd then return none
  return some (← charAt (← get).1.current)

/-- The character behind the next one, if there is one. -/
def peekNext : ScannerM σ (Option Char) := do
  let scanner := (← get).1
  if scanner.source.length ≤ scanner.current + 1 then return none
  return some (← charAt (scanner.current + 1))

/-- Takes the next character, and counts the line if it ends one. -/
def advanceCounting : ScannerM σ Unit := do
  if (← peek) = some '\n' then countLine
  discard advance

/-! ### Pieces of the source, tokens and errors -/

/-- The source between two positions. -/
def cutOut (first last : Nat) : ScannerM σ (List Char) := do
  if last < first then throw .reversed
  return ((← get).1.source.take last).drop first

/-- The value of a numeral. -/
def toNumber (text : List Char) : ScannerM σ Binary64 :=
  if IsNumeral text then
    match Binary64.ofText? (String.ofList text) with
    | some value => return value
    | none => throw .notNumeral
  else throw .notNumeral

/-- Adds a token with the text between the start of the lexeme and the present position. -/
def addToken (kind : Kind) (literal : Option Literal) : ScannerM σ Unit := do
  let scanner := (← get).1
  let lexeme ← cutOut scanner.start scanner.current
  let token : Token := ⟨kind, String.ofList lexeme, literal, scanner.startLine⟩
  modify fun (scanner, memory) => ({ scanner with tokens := scanner.tokens.push token }, memory)

/-- Notes an error on the present line and tells the listener, if there is one. -/
def signal (listener : Option (Listener σ)) (fault : SourceFault) : ScannerM σ Unit := do
  let (scanner, memory) ← get
  let error : LexicalError := ⟨scanner.line, fault.message⟩
  let (memory, stopped) := Listener.tell listener memory (some error)
  set ({ scanner with errors := scanner.errors.push error }, memory)
  if stopped then throw .stopped

/-! ### Loops -/

/-- Does something as long as a test succeeds, at most so many times. -/
def repeatWhile (test : ScannerM σ Bool) (body : ScannerM σ Unit) : Nat → ScannerM σ Unit
  | 0 => do if ← test then throw .endless
  | rounds + 1 => do
      if ← test then
        body
        repeatWhile test body rounds

/-- Does something as long as a test succeeds, at most once for each character of the source. -/
def loop (test : ScannerM σ Bool) (body : ScannerM σ Unit) : ScannerM σ Unit := do
  repeatWhile test body (← get).1.source.length

/-! ### Segments -/

/-- Takes an operator, the longer one if an equals sign follows. -/
def scanOperator (kinds : Kind × Kind) : ScannerM σ Unit := do
  addToken (if ← matchNext '=' then kinds.2 else kinds.1) none

/-- Whether there is a next character and it is another one than the given one. -/
def notAt (closing : Char) : ScannerM σ Bool := do
  return (← peek) ≠ some closing && !(← atEnd)

/-- Passes over the rest of a line. -/
def skipLineComment : ScannerM σ Unit := loop (notAt '\n') (discard advance)

/-- Passes over a block comment through its first end, in at most so many rounds. -/
def skipBlockComment (listener : Option (Listener σ)) (rounds : Nat) : ScannerM σ Unit := do
  if ← atEnd then signal listener .unterminatedComment
  else if (← peek) = some '*' && (← peekNext) = some '/' then
    discard advance
    discard advance
  else match rounds with
    | 0 => throw .endless
    | rounds + 1 =>
        advanceCounting
        skipBlockComment listener rounds

/-- Takes what starts with a slash. -/
def scanSlash (listener : Option (Listener σ)) : ScannerM σ Unit := do
  if ← matchNext '/' then skipLineComment
  else if ← matchNext '*' then skipBlockComment listener (← get).1.source.length
  else addToken .slash none

/-- Takes a string behind its opening quote. -/
def scanString (listener : Option (Listener σ)) : ScannerM σ Unit := do
  loop (notAt '"') advanceCounting
  if ← atEnd then signal listener .unterminatedString
  else
    discard advance
    let scanner := (← get).1
    let body ← cutOut (scanner.start + 1) (scanner.current - 1)
    addToken .string (some (.text (String.ofList body)))

/-- Whether there is a next character and it is accepted. -/
def isAt (accepts : Char → Bool) : ScannerM σ Bool := do
  return (← peek).any accepts

/-- Takes the characters that are accepted, up to the first one that is not. -/
def skipRun (accepts : Char → Bool) : ScannerM σ Unit := loop (isAt accepts) (discard advance)

/-- Adds the number between the start of the lexeme and the present position. -/
def addNumber : ScannerM σ Unit := do
  let scanner := (← get).1
  let value ← toNumber (← cutOut scanner.start scanner.current)
  addToken .number (some (.number value))

/-- Takes a number behind its first digit. -/
def scanNumber : ScannerM σ Unit := do
  skipRun Char.isDigit
  if (← peek) = some '.' && (← peekNext).any Char.isDigit then
    discard advance
    skipRun Char.isDigit
  addNumber

/-- Takes a word behind its first character. -/
def scanWord : ScannerM σ Unit := do
  skipRun continuesWord
  let scanner := (← get).1
  let word ← cutOut scanner.start scanner.current
  addToken (Kind.ofWord (String.ofList word)) none

/-- Takes one character and what belongs to it. -/
def scanToken (listener : Option (Listener σ)) : ScannerM σ Unit := do
  let c ← advance
  match punctuation? c, operator? c with
  | some kind, _ => addToken kind none
  | _, some kinds => scanOperator kinds
  | _, _ =>
      if c = '/' then scanSlash listener
      else if c = ' ' || c = '\r' || c = '\t' then pure ()
      else if c = '\n' then countLine
      else if c = '"' then scanString listener
      else if c.isDigit then scanNumber
      else if startsWord c then scanWord
      else signal listener .unexpectedCharacter

/-! ### Rounds -/

/-- Marks the start of a lexeme. -/
def markStart : ScannerM σ Unit :=
  modify fun (scanner, memory) =>
    ({ scanner with start := scanner.current, startLine := scanner.line }, memory)

/-- Marks the start of a lexeme and takes it. -/
def round (listener : Option (Listener σ)) : ScannerM σ Unit := do
  markStart
  scanToken listener

/-- Notes the end of the input. -/
def conclude : ScannerM σ (Array Token) := do
  modify fun (scanner, memory) =>
    ({ scanner with tokens := scanner.tokens.push (Token.endOfInput scanner.line) }, memory)
  return (← get).1.tokens

/-- Whether the source is not used up yet. -/
def unfinished : ScannerM σ Bool := do return !(← atEnd)

/-- Scans the source up to its end, in at most so many rounds. -/
def scanTokens (listener : Option (Listener σ)) (rounds : Nat) : ScannerM σ (Array Token) := do
  repeatWhile unfinished (round listener) rounds
  conclude

/-! ## What the operations do -/

section Equations

variable {scanner : Scanner} {memory : σ} {c : Char} {following after : List Char}

/-- An operation that succeeds is followed by the next one. -/
theorem bind_ok {α β : Type} {first : ScannerM σ α} {next : α → ScannerM σ β} {state state' : Scanner × σ}
    {a : α} (h : first state = .ok a state') : (first >>= next) state = next a state' := by
  show EStateM.bind first next state = _
  rw [EStateM.bind, h]

/-- An operation that is broken off is not followed by the next one. -/
theorem bind_error {α β : Type} {first : ScannerM σ α} {next : α → ScannerM σ β}
    {state state' : Scanner × σ} {interrupt : Interrupt} (h : first state = .error interrupt state') :
    (first >>= next) state = .error interrupt state' := by
  show EStateM.bind first next state = _
  rw [EStateM.bind, h]

/-- The text in front of a scanner. -/
def rest (scanner : Scanner) : List Char := scanner.source.drop scanner.current

/-- The scanner at the next position. -/
def moved (scanner : Scanner) : Scanner := { scanner with current := scanner.current + 1 }

/-- The scanner behind a text that it passes over, with the lines counted that end in the text. -/
def passing (scanner : Scanner) (text : List Char) : Scanner :=
  { scanner with current := scanner.current + text.length, line := scanner.line + text.count '\n' }

/-- The scanner at the start of a lexeme. -/
def marked (scanner : Scanner) : Scanner :=
  { scanner with start := scanner.current, startLine := scanner.line }

theorem passing_append (scanner : Scanner) (first next : List Char) :
    (scanner.passing first).passing next = scanner.passing (first ++ next) := by
  simp [passing, Nat.add_assoc]

theorem passing_singleton (hc : c ≠ '\n') : scanner.passing [c] = scanner.moved := by
  simp [passing, moved, hc]

theorem rest_passing {text : List Char} (h : scanner.rest = text ++ after) :
    (scanner.passing text).rest = after := by
  rw [rest, passing, ← List.drop_drop]
  rw [rest] at h
  rw [h, List.drop_left]

theorem source_getElem?_current (h : scanner.rest = c :: following) :
    scanner.source[scanner.current]? = some c := by
  rw [← List.head?_drop]
  exact congrArg List.head? h

theorem atEnd_eq (scanner : Scanner) (memory : σ) :
    atEnd (scanner, memory) = .ok scanner.rest.isEmpty (scanner, memory) := by
  have h : decide (scanner.source.length ≤ scanner.current) = scanner.rest.isEmpty := by
    rw [Bool.eq_iff_iff, List.isEmpty_iff, rest, List.drop_eq_nil_iff, decide_eq_true_iff]
  rw [← h]
  rfl

theorem charAt_eq {position : Nat} (h : scanner.source[position]? = some c) :
    charAt position (scanner, memory) = .ok c (scanner, memory) := by
  rw [charAt]
  refine (bind_ok rfl).trans ?_
  simp only [h]
  rfl

theorem advance_eq (h : scanner.rest = c :: following) :
    advance (scanner, memory) = .ok c (scanner.moved, memory) := by
  rw [advance]
  refine (bind_ok rfl).trans ?_
  exact (bind_ok (charAt_eq (source_getElem?_current h))).trans rfl

theorem matchNext_of_cons (h : scanner.rest = c :: following) (hc : c ≠ '\n') :
    matchNext c (scanner, memory) = .ok true (scanner.passing [c], memory) := by
  rw [matchNext, passing_singleton hc]
  refine (bind_ok (atEnd_eq scanner memory)).trans ?_
  rw [h]
  refine (bind_ok rfl).trans ?_
  refine (bind_ok (charAt_eq (source_getElem?_current h))).trans ?_
  rw [if_neg (not_not_intro rfl)]
  rfl

theorem matchNext_of_head?_ne {expected : Char} (h : scanner.rest.head? ≠ some expected) :
    matchNext expected (scanner, memory) = .ok false (scanner, memory) := by
  rw [matchNext]
  refine (bind_ok (atEnd_eq scanner memory)).trans ?_
  cases hrest : scanner.rest with
  | nil => rfl
  | cons c following =>
    refine (bind_ok rfl).trans ?_
    refine (bind_ok (charAt_eq (source_getElem?_current hrest))).trans ?_
    rw [if_pos (by simpa [hrest] using h)]
    rfl

theorem peek_eq (scanner : Scanner) (memory : σ) :
    peek (scanner, memory) = .ok scanner.rest.head? (scanner, memory) := by
  rw [peek]
  refine (bind_ok (atEnd_eq scanner memory)).trans ?_
  cases h : scanner.rest with
  | nil => rfl
  | cons c following =>
    refine (bind_ok rfl).trans ?_
    exact (bind_ok (charAt_eq (source_getElem?_current h))).trans rfl

theorem peekNext_eq (scanner : Scanner) (memory : σ) :
    peekNext (scanner, memory) = .ok scanner.rest.tail.head? (scanner, memory) := by
  have htail : scanner.rest.tail.head? = scanner.source[scanner.current + 1]? := by
    rw [rest, List.tail_drop, List.head?_drop]
  rw [peekNext, htail]
  refine (bind_ok rfl).trans ?_
  by_cases hlast : scanner.source.length ≤ scanner.current + 1
  · rw [if_pos hlast, List.getElem?_eq_none hlast]
    rfl
  · rw [if_neg hlast, List.getElem?_eq_getElem (Nat.lt_of_not_le hlast)]
    exact (bind_ok (charAt_eq (List.getElem?_eq_getElem (Nat.lt_of_not_le hlast)))).trans rfl

theorem advanceCounting_eq (h : scanner.rest = c :: following) :
    advanceCounting (scanner, memory) = .ok () (scanner.passing [c], memory) := by
  rw [advanceCounting]
  refine (bind_ok (peek_eq scanner memory)).trans ?_
  rw [h, List.head?_cons]
  by_cases hc : c = '\n'
  · subst hc
    have hcounted : ({ scanner with line := scanner.line + 1 } : Scanner).rest = '\n' :: following := h
    exact (bind_ok rfl).trans (bind_ok (advance_eq hcounted))
  · rw [if_neg (by simpa using hc), passing_singleton hc]
    exact bind_ok (advance_eq h)

theorem discard_advance_eq (h : scanner.rest = c :: following) (hc : c ≠ '\n') :
    (discard advance : ScannerM σ Unit) (scanner, memory) = .ok () (scanner.passing [c], memory) := by
  rw [passing_singleton hc]
  exact bind_ok (advance_eq h)

/-- A loop passes over the characters that its test accepts, if it has a round for each character that is left
and its body takes one character. -/
theorem repeatWhile_eq {accepts : Char → Bool} {test : ScannerM σ Bool} {body : ScannerM σ Unit} {rounds : Nat}
    (htest : ∀ scanner, test (scanner, memory) = .ok (scanner.rest.head?.any accepts) (scanner, memory))
    (hbody : ∀ (scanner : Scanner) c following, scanner.rest = c :: following → accepts c = true →
      body (scanner, memory) = .ok () (scanner.passing [c], memory))
    (hrounds : scanner.rest.length ≤ rounds) :
    repeatWhile test body rounds (scanner, memory) =
      .ok () (scanner.passing (scanner.rest.takeWhile accepts), memory) := by
  induction rounds generalizing scanner with
  | zero =>
    have hrest := List.eq_nil_of_length_eq_zero (Nat.le_zero.mp hrounds)
    rw [repeatWhile]
    refine (bind_ok (htest scanner)).trans ?_
    rw [hrest]
    rfl
  | succ rounds ih =>
    rw [repeatWhile]
    refine (bind_ok (htest scanner)).trans ?_
    cases hrest : scanner.rest with
    | nil => rfl
    | cons c following =>
      rw [List.head?_cons, Option.any_some, List.takeWhile_cons]
      by_cases hc : accepts c = true
      · have hpassed : (scanner.passing [c]).rest = following := rest_passing hrest
        have hrounds' : (scanner.passing [c]).rest.length ≤ rounds := by
          rw [hrest] at hrounds
          rw [hpassed]
          exact Nat.le_of_succ_le_succ hrounds
        rw [if_pos hc, if_pos hc]
        refine (bind_ok (hbody scanner c following hrest hc)).trans ?_
        rw [ih hrounds', passing_append, hpassed]
        rfl
      · rw [if_neg hc, if_neg hc]
        rfl

/-- No more is in front of a scanner than the source has characters. -/
theorem length_rest_le (scanner : Scanner) : scanner.rest.length ≤ scanner.source.length := by
  rw [rest, List.length_drop]
  exact Nat.sub_le _ _

/-- A loop has enough rounds to pass over all the characters that its test accepts. -/
theorem loop_eq {accepts : Char → Bool} {test : ScannerM σ Bool} {body : ScannerM σ Unit}
    (htest : ∀ scanner, test (scanner, memory) = .ok (scanner.rest.head?.any accepts) (scanner, memory))
    (hbody : ∀ (scanner : Scanner) c following, scanner.rest = c :: following → accepts c = true →
      body (scanner, memory) = .ok () (scanner.passing [c], memory)) (scanner : Scanner) :
    loop test body (scanner, memory) =
      .ok () (scanner.passing (scanner.rest.takeWhile accepts), memory) :=
  (bind_ok rfl).trans (repeatWhile_eq htest hbody scanner.length_rest_le)

theorem notAt_eq (closing : Char) (scanner : Scanner) (memory : σ) :
    notAt closing (scanner, memory) =
      .ok (scanner.rest.head?.any (· ≠ closing)) (scanner, memory) := by
  rw [notAt]
  refine (bind_ok (peek_eq scanner memory)).trans ?_
  refine (bind_ok (atEnd_eq scanner memory)).trans ?_
  cases scanner.rest <;> simp <;> rfl

theorem skipLineComment_eq (scanner : Scanner) (memory : σ) :
    skipLineComment (scanner, memory) =
      .ok () (scanner.passing (scanner.rest.takeWhile (· ≠ '\n')), memory) := by
  refine loop_eq (fun scanner => notAt_eq '\n' scanner memory) ?_ scanner
  intro scanner c following hrest hc
  exact discard_advance_eq hrest (by simpa using hc)

/-- A run of characters is passed over as a whole. -/
theorem skipRun_eq {accepts : Char → Bool} (hnewline : accepts '\n' = false) (scanner : Scanner)
    (memory : σ) :
    skipRun accepts (scanner, memory) =
      .ok () (scanner.passing (scanner.rest.takeWhile accepts), memory) := by
  have htest (scanner : Scanner) : isAt accepts (scanner, memory) =
      .ok (scanner.rest.head?.any accepts) (scanner, memory) := bind_ok (peek_eq scanner memory)
  refine loop_eq htest ?_ scanner
  intro scanner c following hrest hc
  refine discard_advance_eq hrest ?_
  rintro rfl
  exact absurd (hc.symm.trans hnewline) (by decide)

/-! ### Pieces of the source -/

/-- A piece of the source in front of a scanner, at any later time. -/
theorem cutOut_eq {before text : List Char} {state : Scanner × σ}
    (h : scanner.rest = before ++ text ++ after) (hsource : state.1.source = scanner.source) :
    cutOut (scanner.current + before.length) (scanner.current + before.length + text.length) state =
      .ok text state := by
  have hcut : (state.1.source.take (scanner.current + before.length + text.length)).drop
      (scanner.current + before.length) = text := by
    rw [List.drop_take, Nat.add_sub_cancel_left, hsource, ← List.drop_drop]
    rw [rest] at h
    rw [h, List.append_assoc, List.drop_left, List.take_left]
  rw [cutOut, if_neg (by omega)]
  refine (bind_ok rfl).trans ?_
  refine (bind_ok rfl).trans ?_
  exact congrArg (EStateM.Result.ok · _) hcut

/-- What a scanner has passed over since the start of a lexeme. -/
theorem cutOut_lexeme {text : List Char} (h : scanner.rest = text ++ after) :
    cutOut scanner.current (scanner.current + text.length) (scanner.marked.passing text, memory) =
      .ok text (scanner.marked.passing text, memory) := by
  have hrest : scanner.rest = [] ++ text ++ after := h
  exact cutOut_eq hrest rfl

end Equations

end Scanner

end LoxLexer
