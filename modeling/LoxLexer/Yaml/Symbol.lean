import LoxLexer.Number.Decimal
import LoxLexer.Text.Utf8
import LoxLexer.Yaml.Scalar

/-!
# Symbols of a document

A document is read as a sequence of symbols: indicators, names, scalars, and the starts and ends of the
block collections that indentation marks out. A symbol that is written with more than an indicator is
read here; where each one may stand is a matter of `Yaml.Layout`.
-/

namespace LoxLexer.Yaml

/-- A line before a document that tells how to read it. -/
inductive Directive where
  /-- The version of the format, of which the major number matters. -/
  | version (major : Nat)
  /-- A handle that abbreviates the start of tags. -/
  | tagHandle (handle start : String)
  /-- Any other directive, which has no effect. -/
  | other
  deriving DecidableEq

/-- A tag as it is written. -/
structure WrittenTag where
  /-- The handle that abbreviates the start of the tag, if there is one. -/
  handle : Option String
  /-- The tag, or what follows the abbreviated start. -/
  rest : String
  deriving DecidableEq

/-- A symbol of a document. -/
inductive Symbol where
  | directive (content : Directive)
  | documentStart
  | documentEnd
  | blockSequenceStart
  | blockMappingStart
  | blockEnd
  | flowSequenceStart
  | flowSequenceEnd
  | flowMappingStart
  | flowMappingEnd
  | flowEntry
  | blockEntry
  | key
  | value
  | alias (name : String)
  | anchor (name : String)
  | tag (written : WrittenTag)
  | scalar (text : CodeText) (plain : Bool)
  /-- Stands where reading had to stop. -/
  | unreadable (fault : Fault)
  deriving DecidableEq

namespace Symbol

/-- Reads a non-empty name. -/
def name (cursor : Cursor) : Except Fault (String × Cursor) :=
  let (chars, place) := cursor.span isNameChar
  if chars.isEmpty then .error .malformed else .ok (String.ofList chars, place)

/-- Reads the name after the mark of an anchor or an alias. Some punctuation may follow it
directly. -/
def anchorName (cursor : Cursor) : Except Fault (String × Cursor) := do
  let (chars, place) ← name cursor.next
  let closing := ['?', ':', ',', ']', '\x7d', '%', '@', '\x60']
  if endsAtom place.peek || place.peek.any closing.contains then return (chars, place)
  throw .malformed

/-- Reads a handle of tags: an exclamation mark, or a name between two of them. -/
def tagHandle (cursor : Cursor) : Except Fault (String × Cursor) := do
  if cursor.peek != some '!' then throw .malformed
  if cursor.peekAt 1 = some ' ' then return ("!", cursor.next)
  let (chars, place) := cursor.next.span isNameChar
  if place.peek != some '!' then throw .malformed
  return (String.ofList ('!' :: chars ++ ['!']), place.next)

/-- Whether a character can be part of a tag. -/
def isTagChar (c : Char) : Bool :=
  c.isAlphanum || "-;/?:@&=+$,_.!~*'()[]%".toList.contains c

/-- Reads the octet that two hexadecimal digits after a percent sign denote. -/
def tagOctet (cursor : Cursor) : Except Fault (UInt8 × Cursor) :=
  match hexPrefix? 2 cursor.next.rest with
  | some code => .ok (code.toUInt8, cursor.skip 3)
  | none => .error .malformed

/-- Reads a run of octets, which encode characters. -/
def tagOctets (cursor : Cursor) : Except Fault (List Char × Cursor) := do
  let (octets, place) ← Cursor.iterate
    (fun (octets : List UInt8) cursor => do
      if cursor.peek != some '%' then return none
      let (octet, next) ← tagOctet cursor
      return some (octet :: octets, next))
    [] cursor
  match Text.decodeUtf8 octets.reverse with
  | .ok chars => return (chars, place)
  | .error _ => throw .malformed

/-- Reads a tag, or what follows its abbreviated start. -/
def tagText (cursor : Cursor) : Except Fault (String × Cursor) := do
  let (chars, place) ← Cursor.iterate
    (fun (done : List Char) cursor => do
      let some c := cursor.peek | return none
      if c = '%' then
        let (chars, next) ← tagOctets cursor
        return some (chars.reverse ++ done, next)
      if isTagChar c then return some (c :: done, cursor.next)
      return none)
    [] cursor
  if place.index = cursor.index then throw .malformed
  return (String.ofList chars.reverse, place)

/-- Whether an exclamation mark follows before the end of the word. -/
def hasHandle (text : List Char) : Bool :=
  (text.takeWhile fun c => !endsWord (some c)).contains '!'

/-- Reads a tag without looking at what follows it: a whole tag between angle brackets, an exclamation
mark alone, or a handle with the rest of the tag. -/
def writtenTag (cursor : Cursor) : Except Fault (WrittenTag × Cursor) := do
  if cursor.peekAt 1 = some '<' then
    let (text, place) ← tagText (cursor.skip 2)
    if place.peek != some '>' then throw .malformed
    return (⟨none, text⟩, place.next)
  if endsAtom (cursor.peekAt 1) then return (⟨none, "!"⟩, cursor.next)
  let (handle, place) ←
    if hasHandle cursor.next.rest then tagHandle cursor else pure ("!", cursor.next)
  let (text, place) ← tagText place
  return (⟨some handle, text⟩, place)

/-- Reads a tag, after which the word must end. -/
def readTag (cursor : Cursor) : Except Fault (Symbol × Cursor) := do
  let (written, place) ← writtenTag cursor
  if endsWord place.peek then return (.tag written, place)
  throw .malformed

/-- Reads a number of decimal digits, of which there may be too many. -/
def versionNumber (cursor : Cursor) : Except Fault (Nat × Cursor) :=
  let (digits, place) := cursor.span Char.isDigit
  if digits.isEmpty then .error .malformed
  else if maxIntegerDigits < digits.length then .error (.hugeInteger digits.length)
  else .ok (Decimal.value digits, place)

/-- Reads the version that a directive demands. -/
def versionDirective (cursor : Cursor) : Except Fault (Directive × Cursor) := do
  let (major, place) ← versionNumber (cursor.skipWhile (· = ' '))
  if place.peek != some '.' then throw .malformed
  let (_, place) ← versionNumber place.next
  if !endsWord place.peek then throw .malformed
  return (.version major, place)

/-- Reads the handle and the start of tags that a directive connects. -/
def tagDirective (cursor : Cursor) : Except Fault (Directive × Cursor) := do
  let (handle, place) ← tagHandle (cursor.skipWhile (· = ' '))
  if place.peek != some ' ' then throw .malformed
  let (start, place) ← tagText (place.skipWhile (· = ' '))
  if !endsWord place.peek then throw .malformed
  return (.tagHandle handle start, place)

/-- Reads a directive together with the end of its line. -/
def readDirective (cursor : Cursor) : Except Fault (Symbol × Cursor) := do
  let (kind, place) ← name cursor.next
  if !endsWord place.peek then throw .malformed
  let (content, place) ←
    if kind = "YAML" then versionDirective place
    else if kind = "TAG" then tagDirective place
    else pure (.other, place.skipWhile (!isBreak ·))
  return (.directive content, ← skipRestOfLine place)

end Symbol

end LoxLexer.Yaml
