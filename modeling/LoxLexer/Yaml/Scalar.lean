import LoxLexer.Yaml.Cursor

/-!
# The texts of scalars

A scalar is written plainly, between single or double quotes, or as an indented block. Each form has
its own way to fold lines: a line end inside a scalar becomes a space, and further line ends are kept.
The text is gathered with its last character first.
-/

namespace LoxLexer.Yaml

/-- What a line end and the line ends after it leave in a folded text, the last character first. -/
def foldLines (first : Char) (further : List Char) : List Char :=
  further.reverse ++ (if first != '\n' then [first] else if further.isEmpty then [' '] else [])

/-! ## Plain scalars -/

/-- Whether a plain scalar ends at a character, given the character after it. A colon ends it before
a gap, and between brackets before punctuation too; between brackets, so does the punctuation itself. -/
def endsPlain (inFlow : Bool) (c : Char) (next? : Option Char) : Bool :=
  isGap c ||
    (c = ':' && (endsAtom next? || (inFlow && next?.any [',', '[', ']', '\x7b', '\x7d'].contains))) ||
    (inFlow && [',', '?', '[', ']', '\x7b', '\x7d'].contains c)

/-- The number of characters up to the end of a plain run, added to the number before them. -/
def plainLength (inFlow : Bool) (before : Nat) : List Char → Nat
  | [] => before
  | c :: rest => if endsPlain inFlow c rest.head? then before else plainLength inFlow (before + 1) rest

/-- The reading of a plain scalar. -/
structure PlainState where
  /-- The text so far, the last character first. -/
  done : List Char
  /-- What the gap after the text stands for if more text follows, the last character first. -/
  gap : List Char
  /-- Whether a line ends in this gap. -/
  lineEnded : Bool
  /-- Whether no text can follow the gap. -/
  stopped : Bool

/-- The line ends and spaces between two lines of a plain scalar, from the second line end on. The
reading stops before the start or the end of a document. -/
def plainBreaks (cursor : Cursor) : Except Fault ((List Char × Bool) × Cursor) :=
  Cursor.iterate
    (fun (breaks, stopped) cursor =>
      match cursor.peek with
      | some c =>
          if stopped then .ok none
          else if c = ' ' then .ok (some ((breaks, false), cursor.next))
          else if isBreak c then
            .ok (some ((breaks ++ [foldBreak c], cursor.next.atDocumentMarker), cursor.next))
          else .ok none
      | none => .ok none)
    ([], cursor.atDocumentMarker) cursor

/-- Reads the gap after a run of plain text. -/
def plainGap (inFlow : Bool) (minColumn : Int) (done : List Char) (cursor : Cursor) :
    Except Fault (PlainState × Cursor) := do
  let (spaces, afterSpaces) := cursor.span (· = ' ')
  let tooFarLeft (place : Cursor) : Bool := !inFlow && (place.column : Int) < minColumn
  match afterSpaces.peek.filter isBreak with
  | some c =>
      let ((breaks, atMarker), place) ← plainBreaks afterSpaces.next
      .ok (⟨done, foldLines (foldBreak c) breaks, true, atMarker || tooFarLeft place⟩, place)
  | none =>
      .ok (⟨done, spaces, false, spaces.isEmpty || tooFarLeft afterSpaces⟩, afterSpaces)

/-- Reads a plain scalar. Outside of brackets its further lines start at a least column. The answer
also says whether a line ended after the text. -/
def plainScalar (inFlow : Bool) (minColumn : Int) (cursor : Cursor) :
    Except Fault ((List Char × Bool) × Cursor) := do
  let (state, place) ← Cursor.iterate
    (fun (state : PlainState) cursor => do
      let length := plainLength inFlow 0 cursor.rest
      if state.stopped || cursor.peek = some '#' || length = 0 then return none
      let text := cursor.rest.take length
      let next ← plainGap inFlow minColumn (text.reverse ++ state.gap ++ state.done)
        (cursor.skip length)
      return some next)
    ⟨[], [], false, false⟩ cursor
  return ((state.done.reverse, state.lineEnded), place)

/-! ## Quoted scalars -/

/-- The character that an escape of one letter stands for. -/
def escapedChar? : Char → Option Char
  | '0' => some '\x00'
  | 'a' => some '\x07'
  | 'b' => some '\x08'
  | 't' => some '\t'
  | '\t' => some '\t'
  | 'n' => some '\n'
  | 'v' => some '\x0B'
  | 'f' => some '\x0C'
  | 'r' => some '\r'
  | 'e' => some '\x1B'
  | ' ' => some ' '
  | '"' => some '"'
  | '\\' => some '\\'
  | '/' => some '/'
  | 'N' => some '\x85'
  | '_' => some '\xA0'
  | 'L' => some '\u2028'
  | 'P' => some '\u2029'
  | _ => none

/-- How many hexadecimal digits follow the letter of an escape by code point. -/
def escapeWidth? : Char → Option Nat
  | 'x' => some 2
  | 'u' => some 4
  | 'U' => some 8
  | _ => none

/-- The value of a hexadecimal digit. -/
def hexDigit? (c : Char) : Option Nat :=
  if c.isDigit then some (c.toNat - '0'.toNat)
  else if 'a' ≤ c ∧ c ≤ 'f' then some (c.toNat - 'a'.toNat + 10)
  else if 'A' ≤ c ∧ c ≤ 'F' then some (c.toNat - 'A'.toNat + 10)
  else none

/-- The number that the first characters of a text denote in hexadecimal. -/
def hexPrefix? (width : Nat) (text : List Char) : Option Nat :=
  let digits := text.take width
  if digits.length < width then none
  else digits.foldl (fun total c => do return 16 * (← total) + (← hexDigit? c)) (some 0)

/-- The line ends between two lines of a quoted scalar, from the second one on. No document may start
or end between them. -/
def quotedBreaks (cursor : Cursor) : Except Fault (List Char × Cursor) := do
  if cursor.atDocumentMarker then throw .malformed
  let skipBlanks (cursor : Cursor) := cursor.skipWhile fun c => c = ' ' || c = '\t'
  Cursor.iterate
    (fun breaks cursor =>
      match cursor.peek with
      | some c =>
          if isBreak c then
            if cursor.next.atDocumentMarker then .error .malformed
            else .ok (some (breaks ++ [foldBreak c], skipBlanks cursor.next))
          else .ok none
      | none => .ok none)
    [] (skipBlanks cursor)

/-- A text in reverse. -/
def reversedPoints (text : List Char) : CodeText := (CodeText.ofChars text).reverse

/-- Reads an escape, given what precedes it and the place after the backslash. -/
def escape (done : CodeText) (cursor : Cursor) : Except Fault (CodeText × Cursor) := do
  let some c := cursor.peek | throw .malformed
  if let some plain := escapedChar? c then return (.char plain :: done, cursor.next)
  if let some width := escapeWidth? c then
    let some code := hexPrefix? width cursor.next.rest | throw .malformed
    if 0x110000 ≤ code then throw (.codePoint (Nat.pow 2 31 ≤ code))
    return (.ofNat code :: done, cursor.next.skip width)
  if isBreak c then
    let (breaks, place) ← quotedBreaks cursor.next
    return (reversedPoints breaks ++ done, place)
  throw .malformed

/-- Reads a gap inside a quoted scalar, given what precedes it. -/
def quotedGap (done : CodeText) (cursor : Cursor) : Except Fault (CodeText × Cursor) := do
  let (blanks, afterBlanks) := cursor.span fun c => c = ' ' || c = '\t'
  let some c := afterBlanks.peek | throw .malformed
  if isBreak c then
    let (breaks, place) ← quotedBreaks afterBlanks.next
    return (CodeText.ofChars (foldLines (foldBreak c) breaks) ++ done, place)
  return (reversedPoints blanks ++ done, afterBlanks)

/-- Reads one piece of a quoted scalar, given what precedes it; there is none at the closing quote. -/
def quotedPiece (double : Bool) (done : CodeText) (cursor : Cursor) :
    Except Fault (Option (CodeText × Cursor)) := do
  let some c := cursor.peek | throw .malformed
  if c = (if double then '"' else '\'') then
    if !double && cursor.peekAt 1 = some '\'' then return some (.char '\'' :: done, cursor.skip 2)
    return none
  if double && c = '\\' then return some (← escape done cursor.next)
  if isGap c then return some (← quotedGap done cursor)
  return some (.char c :: done, cursor.next)

/-- Reads a quoted scalar, given the place of its opening quote. -/
def quotedScalar (double : Bool) (cursor : Cursor) : Except Fault (CodeText × Cursor) := do
  let (points, place) ← Cursor.iterate (quotedPiece double) [] cursor.next
  return (points.reverse, place.next)

/-! ## Block scalars -/

/-- What happens to the line ends after the text of a block scalar. -/
inductive Chomping where
  /-- The first one is kept. -/
  | clip
  /-- None is kept. -/
  | strip
  /-- All are kept. -/
  | keep
  deriving DecidableEq

/-- The chomping that a sign asks for. -/
def Chomping.ofSign? : Char → Option Chomping
  | '+' => some .keep
  | '-' => some .strip
  | _ => none

/-- Reads an optional sign of chomping. -/
def chompingSign (cursor : Cursor) : Option Chomping × Cursor :=
  match cursor.peek.bind Chomping.ofSign? with
  | some chomping => (some chomping, cursor.next)
  | none => (none, cursor)

/-- Reads an optional digit of indentation, which must not be zero. -/
def indentDigit (cursor : Cursor) : Except Fault (Option Nat × Cursor) :=
  match cursor.peek with
  | some c =>
      if c = '0' then .error .malformed
      else if c.isDigit then .ok (some (c.toNat - '0'.toNat), cursor.next)
      else .ok (none, cursor)
  | none => .ok (none, cursor)

/-- The place after the rest of a line that may only hold a comment, and after its end. -/
def skipRestOfLine (cursor : Cursor) : Except Fault Cursor :=
  let place := cursor.skipWhile (· = ' ')
  let place := if place.peek = some '#' then place.skipWhile (!isBreak ·) else place
  if endsLine place.peek then .ok place.next else .error .malformed

/-- Reads the signs after the mark of a block scalar, in either order, and the rest of the line. -/
def blockHeader (cursor : Cursor) : Except Fault ((Chomping × Option Nat) × Cursor) := do
  let (before, place) := chompingSign cursor
  let (indent, place) ← indentDigit place
  let (chomping, place) := if before.isSome then (before, place) else chompingSign place
  if !endsWord place.peek then throw .malformed
  return ((chomping.getD .clip, indent), ← skipRestOfLine place)

/-- The line ends before the first line of a block scalar, the greatest column that their spaces
reach, and the place after them. -/
def blockLead (cursor : Cursor) : (List Char × Nat) × Cursor :=
  let run := cursor.rest.takeWhile fun c => c = ' ' || isBreak c
  let (place, deepest) := run.foldl
    (fun (place, deepest) c => (place.next, if c = ' ' then max deepest place.next.column else deepest))
    (cursor, 0)
  (((run.filter isBreak).map foldBreak, deepest), place)

/-- The line ends between two lines of a block scalar, and the place after the indentation of the
second one. -/
def blockBreaks (indent : Nat) (cursor : Cursor) : Except Fault (List Char × Cursor) :=
  Cursor.iterate
    (fun breaks cursor =>
      match cursor.peek with
      | some c =>
          if isBreak c then .ok (some (breaks ++ [foldBreak c], cursor.next.skipIndent indent))
          else .ok none
      | none => .ok none)
    [] (cursor.skipIndent indent)

/-- The reading of a block scalar. -/
structure BlockState where
  /-- The text so far, the last character first. -/
  done : List Char
  /-- The end of the last line that was read, if it has one. -/
  lineEnd : Option Char
  /-- Whether this line starts with a visible character. -/
  solid : Bool
  /-- The line ends after it. -/
  breaks : List Char

/-- What stands between the last line and the next one, the last character first. In a folded scalar
the end of a line is a space if both lines start with a visible character. -/
def BlockState.gap (folded : Bool) (next? : Option Char) (state : BlockState) : List Char :=
  let nextSolid := !next?.any fun c => c = ' ' || c = '\t'
  let first := match state.lineEnd with
    | none => []
    | some c =>
        if folded && c = '\n' && state.solid && nextSolid then
          (if state.breaks.isEmpty then [' '] else [])
        else [c]
  state.breaks.reverse ++ first

/-- Reads the lines of a block scalar that are indented to a column. -/
def blockLines (folded : Bool) (indent : Nat) (lead : List Char) (cursor : Cursor) :
    Except Fault (BlockState × Cursor) :=
  Cursor.iterate
    (fun (state : BlockState) cursor => do
      if cursor.column != indent || cursor.peek = none then return none
      let (line, place) := cursor.span (!isBreak ·)
      let (breaks, next) ← blockBreaks indent place.next
      let solid := !cursor.peek.any fun c => c = ' ' || c = '\t'
      let done := line.reverse ++ (state.gap folded cursor.peek ++ state.done)
      return some (⟨done, place.peek.map foldBreak, solid, breaks⟩, next))
    ⟨[], none, false, lead⟩ cursor

/-- Reads a block scalar, given the place of its mark and the indentation of the collection around
it. -/
def blockScalar (folded : Bool) (parentIndent : Int) (cursor : Cursor) :
    Except Fault (List Char × Cursor) := do
  let ((chomping, increment), afterHeader) ← blockHeader cursor.next
  let minIndent := (max (parentIndent + 1) 1).toNat
  let (lead, indent, place) ← match increment with
    | some increment => do
        let indent := minIndent + increment - 1
        let (breaks, place) ← blockBreaks indent afterHeader
        pure (breaks, indent, place)
    | none =>
        let ((breaks, deepest), place) := blockLead afterHeader
        pure (breaks, max minIndent deepest, place)
  let (state, place) ← blockLines folded indent lead place
  let ending := if chomping = .strip then [] else state.lineEnd.toList
  let trailing := if chomping = .keep then state.breaks else []
  return (state.done.reverse ++ ending ++ trailing, place)

end LoxLexer.Yaml
