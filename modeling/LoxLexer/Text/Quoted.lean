import LoxLexer.Text.CodePoint
import LoxLexer.Text.Printable

/-!
# Quoted text in messages

A message shows a piece of input between single quotes, or between double quotes if the piece holds a
single quote and no double quote. Inside, a backslash and the chosen quote follow a backslash, and a
character that cannot be shown is written by its code point.
-/

namespace LoxLexer.Text

/-- The quote that a text is shown in. -/
def quoteFor (text : List Char) : Char :=
  if text.contains '\'' && !text.contains '"' then '"' else '\''

/-- A code point in hexadecimal digits, padded to a width. -/
def hexadecimal (width code : Nat) : List Char :=
  let digits := Nat.toDigits 16 code
  List.replicate (width - digits.length) '0' ++ digits

/-- A code point as an escape with two, four or eight hexadecimal digits, as few as will do. -/
def codeEscape (code : Nat) : List Char :=
  if code < 0x100 then '\\' :: 'x' :: hexadecimal 2 code
  else if code < 0x10000 then '\\' :: 'u' :: hexadecimal 4 code
  else '\\' :: 'U' :: hexadecimal 8 code

/-- One character of a quoted text, given the quote and which characters can be shown. -/
def escapeChar (canShow : Char → Bool) (quote c : Char) : List Char :=
  if c = quote || c = '\\' then ['\\', c]
  else if c = '\n' then ['\\', 'n']
  else if c = '\t' then ['\\', 't']
  else if c = '\r' then ['\\', 'r']
  else if canShow c then [c]
  else codeEscape c.toNat

/-- A text between quotes, given which characters can be shown. -/
def quoteWith (canShow : Char → Bool) (text : List Char) : List Char :=
  let quote := quoteFor text
  quote :: text.flatMap (escapeChar canShow quote) ++ [quote]

/-- A text as messages show it. -/
def quoted (text : String) : String := String.ofList (quoteWith isPrintable text.toList)

/-- One code point of a quoted text, given the quote. A half cannot be shown. -/
def escapePoint (quote : Char) : CodePoint → List Char
  | .char c => escapeChar isPrintable quote c
  | .half offset => codeEscape (CodePoint.half offset).toNat

/-- A text that may hold halves of characters as messages show it. -/
def quotedPoints (text : CodeText) : String :=
  let quote := quoteFor (text.filterMap CodePoint.char?)
  String.ofList (quote :: text.flatMap (escapePoint quote) ++ [quote])

/-- A sequence of bytes as messages show it: the mark `b`, then the bytes as characters, of which only
those of printable ASCII are shown as they are. -/
def quotedBytes (bytes : List UInt8) : String :=
  let isAscii (c : Char) : Bool := 0x20 ≤ c.toNat && c.toNat < 0x7F
  String.ofList ('b' :: quoteWith isAscii (bytes.map fun byte => Char.ofNat byte.toNat))

end LoxLexer.Text
