import LoxLexer.Number.Decimal
import LoxLexer.Token

/-!
# Segments of source text

A scan cuts the source from left to right into segments: lexemes, comments, blanks, and pieces that
are faulty. `Segment.cut` takes the first segment off a non-empty text. Nothing is lost in a cut,
`text_cut_append`, and every segment has at least one character, `text_ne_nil`, so that cutting can go
on to the end of the text.
-/

namespace LoxLexer

/-- What can be wrong with a piece of source. -/
inductive SourceFault where
  /-- A character that starts no lexeme. -/
  | unexpectedCharacter
  /-- A string without a closing quote. -/
  | unterminatedString
  /-- A block comment without an end. -/
  | unterminatedComment
  deriving DecidableEq, Repr

/-- The wording of a fault. -/
def SourceFault.message : SourceFault → String
  | unexpectedCharacter => "Unexpected character."
  | unterminatedString => "Unterminated string."
  | unterminatedComment => "Unterminated block comment."

/-- A piece of source that is consumed in one step. -/
inductive Segment where
  /-- A keyword or an identifier. -/
  | word (chars : List Char)
  /-- Digits, and the digits after a point if there are any. -/
  | number (whole fraction : List Char)
  /-- The text between two quotes. -/
  | string (body : List Char)
  /-- Punctuation or an operator, which is spelled in one way only. -/
  | mark (kind : Kind)
  /-- The text from two slashes to the end of the line. -/
  | lineComment (body : List Char)
  /-- The text between the two ends of a block comment. -/
  | blockComment (body : List Char)
  /-- A space, tab or carriage return. -/
  | blank (c : Char)
  /-- The end of a line. -/
  | newline
  /-- The text after a quote that is never closed. -/
  | openString (body : List Char)
  /-- The text after the start of a block comment that is never ended. -/
  | openComment (body : List Char)
  /-- A character that starts no lexeme. -/
  | stray (c : Char)
  deriving DecidableEq, Repr

namespace Segment

/-- The source text of a segment. -/
def text : Segment → List Char
  | word chars => chars
  | number whole [] => whole
  | number whole (d :: fraction) => whole ++ '.' :: d :: fraction
  | string body => '"' :: body ++ ['"']
  | mark kind => kind.spelling.toList
  | lineComment body => '/' :: '/' :: body
  | blockComment body => '/' :: '*' :: body ++ ['*', '/']
  | blank c => [c]
  | newline => ['\n']
  | openString body => '"' :: body
  | openComment body => '/' :: '*' :: body
  | stray c => [c]

/-- How many lines end inside a segment. -/
def newlines (segment : Segment) : Nat := segment.text.count '\n'

/-- The token that a segment on a given line yields. -/
def token? (line : Nat) (segment : Segment) : Option Token :=
  let lexeme := String.ofList segment.text
  match segment with
  | word chars => some ⟨Kind.ofWord (String.ofList chars), lexeme, none, line⟩
  | number whole fraction =>
      let value := (Decimal.ofParts false whole fraction 0).toBinary64
      some ⟨.number, lexeme, some (.number value), line⟩
  | string body => some ⟨.string, lexeme, some (.text (String.ofList body)), line⟩
  | mark kind => some ⟨kind, lexeme, none, line⟩
  | _ => none

/-- What is wrong with a segment. -/
def fault? : Segment → Option SourceFault
  | openString _ => some .unterminatedString
  | openComment _ => some .unterminatedComment
  | stray _ => some .unexpectedCharacter
  | _ => none

/-- The error that a segment on a given line yields. It is noticed at the end of the segment. -/
def error? (line : Nat) (segment : Segment) : Option LexicalError :=
  segment.fault?.map fun fault => ⟨line + segment.newlines, fault.message⟩

/-- Whether a character can start a word. -/
def startsWord (c : Char) : Bool := c.isAlpha || c = '_'

/-- Whether a character can continue a word. -/
def continuesWord (c : Char) : Bool := startsWord c || c.isDigit

/-- The punctuation that a character is by itself, whatever follows. -/
def punctuation? : Char → Option Kind
  | '(' => some .leftParen
  | ')' => some .rightParen
  | '\x7b' => some .leftBrace
  | '\x7d' => some .rightBrace
  | ',' => some .comma
  | '.' => some .dot
  | '-' => some .minus
  | '+' => some .plus
  | ';' => some .semicolon
  | '*' => some .star
  | _ => none

/-- The operators that a character is by itself and together with an equals sign. -/
def operator? : Char → Option (Kind × Kind)
  | '!' => some (.bang, .bangEqual)
  | '=' => some (.equal, .equalEqual)
  | '<' => some (.less, .lessEqual)
  | '>' => some (.greater, .greaterEqual)
  | _ => none

/-- Cuts an operator, the longer one if an equals sign follows. -/
def cutOperator (kinds : Kind × Kind) : List Char → Segment × List Char
  | '=' :: rest => (mark kinds.2, rest)
  | rest => (mark kinds.1, rest)

/-- Cuts a string, given the text after its opening quote. -/
def cutString (rest : List Char) : Segment × List Char :=
  let body := rest.takeWhile (· ≠ '"')
  match rest.dropWhile (· ≠ '"') with
  | [] => (openString body, [])
  | _ :: after => (string body, after)

/-- Looks for the end of a block comment, given what precedes the text inside the comment, the last
character first. -/
def splitComment (before : List Char) : List Char → Option (List Char × List Char)
  | '*' :: '/' :: rest => some (before.reverse, rest)
  | c :: rest => splitComment (c :: before) rest
  | [] => none

/-- Cuts a segment that starts with a slash: a comment, or the slash alone. -/
def cutSlash : List Char → Segment × List Char
  | '/' :: rest => (lineComment (rest.takeWhile (· ≠ '\n')), rest.dropWhile (· ≠ '\n'))
  | '*' :: rest =>
      match splitComment [] rest with
      | some (body, after) => (blockComment body, after)
      | none => (openComment rest, [])
  | rest => (mark .slash, rest)

/-- Cuts a number. A point belongs to it only if a digit follows the point. -/
def cutNumber (digits : List Char) : Segment × List Char :=
  let whole := digits.takeWhile Char.isDigit
  match digits.dropWhile Char.isDigit with
  | '.' :: d :: rest =>
      if d.isDigit then
        (number whole (d :: rest.takeWhile Char.isDigit), rest.dropWhile Char.isDigit)
      else (number whole [], '.' :: d :: rest)
  | rest => (number whole [], rest)

/-- Cuts the first segment off a text, given its first character and the rest. -/
def cut (c : Char) (rest : List Char) : Segment × List Char :=
  match punctuation? c, operator? c with
  | some kind, _ => (mark kind, rest)
  | _, some kinds => cutOperator kinds rest
  | _, _ =>
      if c = '/' then cutSlash rest
      else if c = ' ' || c = '\r' || c = '\t' then (blank c, rest)
      else if c = '\n' then (newline, rest)
      else if c = '"' then cutString rest
      else if c.isDigit then cutNumber (c :: rest)
      else if startsWord c then
        (word (c :: rest.takeWhile continuesWord), rest.dropWhile continuesWord)
      else (stray c, rest)

/-! ## Nothing is lost in a cut -/

theorem text_cutString_append (rest : List Char) :
    (cutString rest).1.text ++ (cutString rest).2 = '"' :: rest := by
  have h := List.takeWhile_append_dropWhile (p := (· ≠ '"')) (l := rest)
  unfold cutString
  split
  next hdrop => rw [hdrop] at h; simpa [text] using h
  next d after hdrop =>
    have hd : d = '"' := by
      have := List.head?_dropWhile_not (· ≠ '"') rest
      rw [hdrop] at this
      simpa using this
    subst hd
    rw [hdrop] at h
    simpa [text] using h

theorem splitComment_append {before rest body after : List Char}
    (h : splitComment before rest = some (body, after)) :
    before.reverse ++ rest = body ++ '*' :: '/' :: after := by
  fun_induction splitComment before rest with
  | case1 before rest =>
      simp only [Option.some.injEq, Prod.mk.injEq] at h
      rw [← h.1, ← h.2]
  | case2 before c rest _ ih => simpa using ih h
  | case3 => simp at h

theorem text_cutSlash_append (rest : List Char) :
    (cutSlash rest).1.text ++ (cutSlash rest).2 = '/' :: rest := by
  unfold cutSlash
  split
  next rest => simp [text]
  next rest =>
    split
    next body after h =>
      have hsplit := splitComment_append h
      simp only [List.reverse_nil, List.nil_append] at hsplit
      simp [text, hsplit]
    next => simp [text]
  next rest => simp [text, Kind.spelling]

theorem text_cutOperator_append {c : Char} {kinds : Kind × Kind} (h : operator? c = some kinds)
    (rest : List Char) : (cutOperator kinds rest).1.text ++ (cutOperator kinds rest).2 = c :: rest := by
  unfold operator? at h
  unfold cutOperator
  split at h <;> simp only [Option.some.injEq, reduceCtorEq] at h <;> subst h <;> split <;>
    simp [text, Kind.spelling]

theorem text_cutNumber_append (digits : List Char) :
    (cutNumber digits).1.text ++ (cutNumber digits).2 = digits := by
  have h := List.takeWhile_append_dropWhile (p := Char.isDigit) (l := digits)
  unfold cutNumber
  split
  next d rest hdrop =>
    rw [hdrop] at h
    split
    next => simpa [text] using h
    next => simpa [text] using h
  next => simp [text]

theorem text_punctuation {c : Char} {kind : Kind} (h : punctuation? c = some kind) :
    (mark kind).text = [c] := by
  unfold punctuation? at h
  split at h <;> simp only [Option.some.injEq, reduceCtorEq] at h <;> subst h <;>
    simp [text, Kind.spelling]

/-- The text of the first segment followed by the rest is the text that was cut. -/
theorem text_cut_append (c : Char) (rest : List Char) :
    (cut c rest).1.text ++ (cut c rest).2 = c :: rest := by
  unfold cut
  split
  next kind _ h => simp [text_punctuation h]
  next kinds _ h _ => exact text_cutOperator_append h rest
  next =>
    split
    next h => rw [h]; exact text_cutSlash_append rest
    split
    next => simp [text]
    split
    next h => simp [text, h]
    split
    next h => rw [h]; exact text_cutString_append rest
    split
    next => exact text_cutNumber_append (c :: rest)
    split
    next => simp [text]
    next => simp [text]

theorem cutNumber_text_ne_nil {c : Char} (h : c.isDigit = true) (rest : List Char) :
    (cutNumber (c :: rest)).1.text ≠ [] := by
  unfold cutNumber
  split
  next => split <;> simp [text, h]
  next => simp [text, h]

/-- Every segment that is cut off has at least one character. -/
theorem text_cut_ne_nil (c : Char) (rest : List Char) : (cut c rest).1.text ≠ [] := by
  unfold cut
  split
  next kind _ h => simp [text_punctuation h]
  next kinds _ h _ =>
    unfold operator? at h
    unfold cutOperator
    split at h <;> simp only [Option.some.injEq, reduceCtorEq] at h <;> subst h <;> split <;>
      simp [text, Kind.spelling]
  next =>
    split
    next =>
      unfold cutSlash
      split
      next => simp [text]
      next => split <;> simp [text]
      next => simp [text, Kind.spelling]
    split
    next => simp [text]
    split
    next => simp [text]
    split
    next => unfold cutString; split <;> simp [text]
    split
    next h => exact cutNumber_text_ne_nil h rest
    split
    next => simp [text]
    next => simp [text]

/-- What is left after a cut is no longer than what followed the first character. -/
theorem length_cut_le (c : Char) (rest : List Char) : (cut c rest).2.length ≤ rest.length := by
  have happend := congrArg List.length (text_cut_append c rest)
  have hpos := List.length_pos_iff.mpr (text_cut_ne_nil c rest)
  simp only [List.length_append, List.length_cons] at happend
  omega

end Segment

end LoxLexer
