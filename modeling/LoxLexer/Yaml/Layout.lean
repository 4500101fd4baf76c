import LoxLexer.Yaml.Symbol

/-!
# Layout of a document

The indentation of a document marks out its block collections, and a scalar, alias, anchor, tag or
bracket turns out to start a key only when a colon follows it on the same line. Reading therefore keeps
the columns of the open block collections and, for every level of brackets, the last symbol that may
still turn out to be the start of a key. `Symbol.ofText` gives the symbols of a text, with the ones
that indentation and such keys imply put in.
-/

namespace LoxLexer.Yaml

/-- A symbol that may turn out to start a key. -/
structure KeyCandidate where
  /-- How many symbols precede it. -/
  position : Nat
  /-- Whether it must turn out so, because it stands where only a key can stand. -/
  required : Bool
  /-- Where it starts. -/
  index : Nat
  /-- The line on which it starts. -/
  line : Nat
  /-- The column in which it starts. -/
  column : Nat

/-- The reading of a document's symbols. -/
structure Layout where
  /-- The place reached. -/
  cursor : Cursor
  /-- The symbols read so far, the last one first. -/
  symbols : List Symbol
  /-- How many symbols have been read. -/
  count : Nat
  /-- The column of the innermost open block collection; -1 outside of all. -/
  indent : Int
  /-- The columns of the block collections around it, the innermost first. -/
  outerIndents : List Int
  /-- Whether a key may start here. -/
  keyAllowed : Bool
  /-- The key candidate inside the innermost brackets. -/
  candidate : Option KeyCandidate
  /-- The key candidates outside of these brackets, one for each level. -/
  outerCandidates : List (Option KeyCandidate)

namespace Layout

/-- The start of a document. -/
def start (text : List Char) : Layout := ⟨Cursor.start text, [], 0, -1, [], true, none, []⟩

/-- Whether the place is inside brackets. -/
def inFlow (layout : Layout) : Bool := !layout.outerCandidates.isEmpty

/-- Adds a symbol. -/
def push (symbol : Symbol) (layout : Layout) : Layout :=
  { layout with symbols := symbol :: layout.symbols, count := layout.count + 1 }

/-- Puts a symbol in after a number of symbols. -/
def insertAt (position : Nat) (symbol : Symbol) (layout : Layout) : Layout :=
  let (later, earlier) := layout.symbols.splitAt (layout.count - position)
  { layout with symbols := later ++ symbol :: earlier, count := layout.count + 1 }

/-- Adds an indicator of a number of characters. -/
def pushIndicator (symbol : Symbol) (width : Nat) (layout : Layout) : Layout :=
  push symbol { layout with cursor := layout.cursor.skip width }

/-- Says whether a key may start from here on. -/
def allowKey (allowed : Bool) (layout : Layout) : Layout := { layout with keyAllowed := allowed }

/-- Whether a key candidate is too far back, by its line or its distance. -/
def isStale (cursor : Cursor) (candidate : KeyCandidate) : Bool :=
  candidate.line != cursor.line || 1024 < cursor.index - candidate.index

/-- Drops a candidate if it is too far back. A required one must not be. -/
def dropStale (cursor : Cursor) : Option KeyCandidate → Except Fault (Option KeyCandidate)
  | none => .ok none
  | some candidate =>
      if !isStale cursor candidate then .ok (some candidate)
      else if candidate.required then .error .malformed
      else .ok none

/-- Drops all candidates that are too far back. -/
def dropAllStale (layout : Layout) : Except Fault Layout := do
  let candidate ← dropStale layout.cursor layout.candidate
  let outer ← layout.outerCandidates.mapM (dropStale layout.cursor)
  return { layout with candidate := candidate, outerCandidates := outer }

/-- Gives up the candidate inside the innermost brackets, which must not be a required one. -/
def giveUpCandidate (layout : Layout) : Except Fault Layout :=
  if layout.candidate.any KeyCandidate.required then .error .malformed
  else .ok { layout with candidate := none }

/-- Makes the symbol that starts here the key candidate, if a key may start here. -/
def markCandidate (layout : Layout) : Except Fault Layout := do
  if !layout.keyAllowed then return layout
  let layout ← layout.giveUpCandidate
  let cursor := layout.cursor
  let required := !layout.inFlow && layout.indent = cursor.column
  return { layout with
    candidate := some ⟨layout.count, required, cursor.index, cursor.line, cursor.column⟩ }

/-- Closes the block collections that start to the right of a column, given the enclosing columns. -/
def closeBlocks (column : Int) (layout : Layout) : List Int → Layout
  | [] => layout
  | outer :: rest =>
      if column < layout.indent then
        closeBlocks column
          (push .blockEnd { layout with indent := outer, outerIndents := rest }) rest
      else layout

/-- Closes the block collections that start to the right of a column. Between brackets indentation
means nothing. -/
def unwind (column : Int) (layout : Layout) : Layout :=
  if layout.inFlow then layout else closeBlocks column layout layout.outerIndents

/-- Opens a block collection at a column unless one is open there or to the right of it; the symbol
that starts it goes to a position among the symbols. -/
def openBlock (column position : Nat) (symbol : Symbol) (layout : Layout) : Layout :=
  if layout.inFlow || column ≤ layout.indent then layout
  else insertAt position symbol { layout with
    indent := column
    outerIndents := layout.indent :: layout.outerIndents }

/-- Opens a block collection at the place itself. -/
def openBlockHere (symbol : Symbol) (layout : Layout) : Layout :=
  openBlock layout.cursor.column layout.count symbol layout

/-- Moves past spaces, comments and line ends. Outside of brackets, a key may start on a new line. -/
def skipGap (layout : Layout) : Except Fault Layout := do
  let cursor := layout.cursor
  let start := if cursor.index = 0 && cursor.peek = some '\uFEFF' then cursor.next else cursor
  let (lineEnded, place) ← Cursor.iterate
    (fun lineEnded cursor =>
      match cursor.peek with
      | some c =>
          if c = ' ' then .ok (some (lineEnded, cursor.skipWhile (· = ' ')))
          else if c = '#' then .ok (some (lineEnded, cursor.skipWhile (!isBreak ·)))
          else if isBreak c then .ok (some (true, cursor.next))
          else .ok none
      | none => .ok none)
    false start
  return { layout with
    cursor := place
    keyAllowed := layout.keyAllowed || (lineEnded && !layout.inFlow) }

/-! ## The symbols by their first character -/

/-- A directive, or the start or the end of a document. -/
def documentMarker (read : Cursor → Except Fault (Symbol × Cursor)) (layout : Layout) :
    Except Fault Layout := do
  let layout ← (layout.unwind (-1)).giveUpCandidate
  let (symbol, place) ← read layout.cursor
  return push symbol { layout with cursor := place, keyAllowed := false }

/-- An opening bracket. -/
def openFlow (symbol : Symbol) (layout : Layout) : Except Fault Layout := do
  let layout ← layout.markCandidate
  return pushIndicator symbol 1 { layout with
    candidate := none
    outerCandidates := layout.candidate :: layout.outerCandidates
    keyAllowed := true }

/-- A closing bracket. -/
def closeFlow (symbol : Symbol) (layout : Layout) : Except Fault Layout := do
  let layout ← layout.giveUpCandidate
  match layout.outerCandidates with
  | [] => throw .malformed
  | candidate :: outer =>
      return pushIndicator symbol 1 { layout with
        candidate := candidate
        outerCandidates := outer
        keyAllowed := false }

/-- A comma between brackets. -/
def flowEntry (layout : Layout) : Except Fault Layout := do
  return pushIndicator .flowEntry 1 (allowKey true (← layout.giveUpCandidate))

/-- The hyphen before an entry of a sequence. -/
def blockEntry (layout : Layout) : Except Fault Layout := do
  if !layout.inFlow && !layout.keyAllowed then throw .malformed
  let layout ← (layout.openBlockHere .blockSequenceStart).giveUpCandidate
  return pushIndicator .blockEntry 1 (allowKey true layout)

/-- The question mark before a key. -/
def explicitKey (layout : Layout) : Except Fault Layout := do
  if !layout.inFlow && !layout.keyAllowed then throw .malformed
  let layout ← (layout.openBlockHere .blockMappingStart).giveUpCandidate
  return pushIndicator .key 1 (allowKey (!layout.inFlow) layout)

/-- The colon before a value. If there is a key candidate, it is a key now, and may start a mapping. -/
def mappingValue (layout : Layout) : Except Fault Layout := do
  match layout.candidate with
  | some candidate =>
      let layout := insertAt candidate.position .key { layout with candidate := none }
      let layout := layout.openBlock candidate.column candidate.position .blockMappingStart
      return pushIndicator .value 1 (allowKey false layout)
  | none =>
      if !layout.inFlow && !layout.keyAllowed then throw .malformed
      let layout ← (layout.openBlockHere .blockMappingStart).giveUpCandidate
      return pushIndicator .value 1 (allowKey (!layout.inFlow) layout)

/-- A symbol that may start a key, and after which no key may start. -/
def keyStart (read : Cursor → Except Fault (Symbol × Cursor)) (layout : Layout) :
    Except Fault Layout := do
  let layout ← layout.markCandidate
  let (symbol, place) ← read layout.cursor
  return push symbol { layout with cursor := place, keyAllowed := false }

/-- A quoted scalar. -/
def quoted (double : Bool) : Layout → Except Fault Layout :=
  keyStart fun cursor => do
    let (text, place) ← quotedScalar double cursor
    return (.scalar text false, place)

/-- A plain scalar. If it ends with a line, a key may start after it. -/
def plain (layout : Layout) : Except Fault Layout := do
  let layout ← layout.markCandidate
  let ((text, lineEnded), place) ← plainScalar layout.inFlow (layout.indent + 1) layout.cursor
  return push (.scalar (CodeText.ofChars text) true)
    { layout with cursor := place, keyAllowed := lineEnded }

/-- A block scalar. A key may start after it. -/
def block (folded : Bool) (layout : Layout) : Except Fault Layout := do
  let layout ← layout.giveUpCandidate
  let (text, place) ← blockScalar folded layout.indent layout.cursor
  return push (.scalar (CodeText.ofChars text) false)
    { layout with cursor := place, keyAllowed := true }

/-- Whether a plain scalar can start with a character, given the character after it. -/
def startsPlain (inFlow : Bool) (c : Char) (next? : Option Char) : Bool :=
  !(isGap c || "-?:,[]\x7b\x7d#&*!|>'\"%@\x60".toList.contains c) ||
    (!endsAtom next? && (c = '-' || (!inFlow && (c = '?' || c = ':'))))

/-- Reads the symbol that starts with a character. -/
def symbolAt (c : Char) (layout : Layout) : Except Fault Layout := do
  let cursor := layout.cursor
  let loose := endsAtom (cursor.peekAt 1)
  if cursor.column = 0 && c = '%' then
    layout.documentMarker Symbol.readDirective
  else if cursor.column = 0 && cursor.atMarker '-' then
    layout.documentMarker fun cursor => .ok (.documentStart, cursor.skip 3)
  else if cursor.column = 0 && cursor.atMarker '.' then
    layout.documentMarker fun cursor => .ok (.documentEnd, cursor.skip 3)
  else if c = '[' then layout.openFlow .flowSequenceStart
  else if c = '\x7b' then layout.openFlow .flowMappingStart
  else if c = ']' then layout.closeFlow .flowSequenceEnd
  else if c = '\x7d' then layout.closeFlow .flowMappingEnd
  else if c = ',' then layout.flowEntry
  else if c = '-' && loose then layout.blockEntry
  else if c = '?' && (layout.inFlow || loose) then layout.explicitKey
  else if c = ':' && (layout.inFlow || loose) then layout.mappingValue
  else if c = '*' then layout.keyStart fun cursor => do
    let (name, place) ← Symbol.anchorName cursor
    return (.alias name, place)
  else if c = '&' then layout.keyStart fun cursor => do
    let (name, place) ← Symbol.anchorName cursor
    return (.anchor name, place)
  else if c = '!' then layout.keyStart Symbol.readTag
  else if c = '|' && !layout.inFlow then layout.block false
  else if c = '>' && !layout.inFlow then layout.block true
  else if c = '\'' then layout.quoted false
  else if c = '"' then layout.quoted true
  else if startsPlain layout.inFlow c (cursor.peekAt 1) then layout.plain
  else throw .malformed

/-- Reads the next symbol and closes the collections that end before it. The answer is empty at the
end of the text, where all collections end. -/
def step (layout : Layout) : Except Fault (Layout × Bool) := do
  let layout ← (← layout.skipGap).dropAllStale
  match layout.cursor.peek with
  | some c => return (← symbolAt c (layout.unwind layout.cursor.column), true)
  | none => return (← (layout.unwind (-1)).giveUpCandidate, false)

/-- How many symbols are settled: in front of a key candidate, others may still be put in. -/
def settled (layout : Layout) : Nat :=
  (layout.candidate :: layout.outerCandidates).foldl
    (fun count candidate? =>
      match candidate?.filter fun candidate => !isStale layout.cursor candidate with
      | some candidate => min count candidate.position
      | none => count)
    layout.count

/-- The symbols of a text whose reading has to stop: those that are settled, and why there are no
more. -/
def stop (fault : Fault) (layout : Layout) : List Symbol :=
  (layout.symbols.drop (layout.count - layout.settled)).reverse ++ [.unreadable fault]

/-- Reads all symbols that follow. If this has to stop, the last symbol says why. -/
def readAll (layout : Layout) : List Symbol :=
  match layout.step with
  | .error fault => layout.stop fault
  | .ok (next, false) => next.symbols.reverse
  | .ok (next, true) =>
      if _h : next.cursor.remaining < layout.cursor.remaining then readAll next
      else next.stop .malformed
termination_by layout.cursor.remaining

end Layout

/-- The symbols of a text. A text with a character that may not occur in a document has none. -/
def Symbol.ofText (text : List Char) : List Symbol :=
  if text.all isAllowed then (Layout.start text).readAll else [.unreadable .malformed]

end LoxLexer.Yaml
