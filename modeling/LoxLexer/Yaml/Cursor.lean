import LoxLexer.Yaml.Fault

/-!
# Places in a document

A cursor is a place in the text of a document: what follows it, how many characters precede it, and
its line and column. Reading a part of the document moves a cursor forward. Loops that read pieces of
any kind go through `iterate`, which ends because every piece takes at least one character. For this
the cursor counts the characters that follow it.
-/

namespace LoxLexer.Yaml

/-- Whether a character ends a line. Carriage returns are line feeds by the time a text gets here. -/
def isBreak (c : Char) : Bool := c = '\n' || c = '\x85' || c = '\u2028' || c = '\u2029'

/-- Whether a character is a space, a tab or the end of a line. -/
def isGap (c : Char) : Bool := c = ' ' || c = '\t' || isBreak c

/-- Whether a line ends at a place, given the character there, if there is one. -/
def endsLine (c? : Option Char) : Bool := c?.all isBreak

/-- Whether a line or a word ends at a place; a tab does not end a word here. -/
def endsWord (c? : Option Char) : Bool := c?.all fun c => c = ' ' || isBreak c

/-- Whether there is no visible character at a place. -/
def endsAtom (c? : Option Char) : Bool := c?.all isGap

/-- The character that a line end is read as: all kinds of line ends but two are read alike. -/
def foldBreak (c : Char) : Char := if c = '\x85' then '\n' else c

/-- Whether a character can be part of a name: an ASCII letter or digit, a hyphen or an underscore. -/
def isNameChar (c : Char) : Bool := c.isAlphanum || c = '-' || c = '_'

/-- Whether a character may occur in a document at all. -/
def isAllowed (c : Char) : Bool :=
  let code := c.toNat
  code = 0x9 || code = 0xA || code = 0xD || (0x20 ≤ code && code ≤ 0x7E) || code = 0x85 ||
    (0xA0 ≤ code && code != 0xFFFE && code != 0xFFFF)

/-- A place in a text. -/
structure Cursor where
  /-- The text from the place on. -/
  rest : List Char
  /-- The number of characters from the place on. -/
  remaining : Nat
  /-- The number of characters before the place. -/
  index : Nat
  /-- The number of lines that end before the place. -/
  line : Nat
  /-- The number of characters between the start of the line and the place, a byte order mark not
  being counted. -/
  column : Nat

namespace Cursor

/-- The start of a text. -/
def start (text : List Char) : Cursor := ⟨text, text.length, 0, 0, 0⟩

/-- The character at a place. -/
def peek (cursor : Cursor) : Option Char := cursor.rest.head?

/-- The character a number of characters after a place. -/
def peekAt (cursor : Cursor) (distance : Nat) : Option Char := cursor.rest[distance]?

/-- The place after the next character. -/
def next (cursor : Cursor) : Cursor :=
  match cursor.rest with
  | [] => cursor
  | c :: rest =>
      let remaining := cursor.remaining - 1
      if isBreak c then ⟨rest, remaining, cursor.index + 1, cursor.line + 1, 0⟩
      else if c = '\uFEFF' then ⟨rest, remaining, cursor.index + 1, cursor.line, cursor.column⟩
      else ⟨rest, remaining, cursor.index + 1, cursor.line, cursor.column + 1⟩

/-- The place a number of characters further on. -/
def skip (cursor : Cursor) (count : Nat) : Cursor := count.repeat next cursor

/-- The longest run of characters of a class, and the place after it. -/
def span (cursor : Cursor) (inClass : Char → Bool) : List Char × Cursor :=
  let run := cursor.rest.takeWhile inClass
  (run, cursor.skip run.length)

/-- The place after the longest run of characters of a class. -/
def skipWhile (cursor : Cursor) (inClass : Char → Bool) : Cursor := (cursor.span inClass).2

/-- The place after the spaces, but not beyond a column. -/
def skipIndent (cursor : Cursor) (column : Nat) : Cursor :=
  let spaces := (cursor.rest.takeWhile (· = ' ')).length
  cursor.skip (min spaces (column - cursor.column))

/-- Whether three equal marks stand at a place, with nothing visible after them. -/
def atMarker (cursor : Cursor) (mark : Char) : Bool :=
  match cursor.rest with
  | a :: b :: c :: rest => a = mark && b = mark && c = mark && endsAtom rest.head?
  | _ => false

/-- Whether a place, if it is at the start of a line, is at the start or the end of a document. -/
def atDocumentMarker (cursor : Cursor) : Bool := cursor.atMarker '-' || cursor.atMarker '.'

/-- Reads pieces one after the other until there is none to read. A step takes what is known so far
and a place, and gives back what is known after the piece and the place after it. -/
def iterate {σ : Type} (step : σ → Cursor → Except Fault (Option (σ × Cursor)))
    (state : σ) (cursor : Cursor) : Except Fault (σ × Cursor) :=
  match step state cursor with
  | .error fault => .error fault
  | .ok none => .ok (state, cursor)
  | .ok (some (state, next)) =>
      if _h : next.remaining < cursor.remaining then iterate step state next
      else .error .malformed
termination_by cursor.remaining

end Cursor

end LoxLexer.Yaml
