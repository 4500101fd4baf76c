import LoxLexer.Text.Casing
import LoxLexer.Text.CodePoint

/-!
# Lower case

A text in lower case has small letters in the place of capital letters. Two capital letters are special:
the I with a dot becomes two characters, and the small sigma has a form of its own at the end of a word.
-/

namespace LoxLexer.Text

/-- Whether the first code point that matters for the case of its neighbours has a case. -/
def meetsCased (text : CodeText) : Bool :=
  let rest := text.dropWhile fun point => point.char?.any isCaseIgnorable
  rest.head?.any fun point => point.char?.any isCased

/-- A character in lower case, given the text before it in reverse and the text after it. -/
def lowerChar (before after : CodeText) (c : Char) : List Char :=
  if c.toNat < 0x80 then [c.toLower]
  else if c = 'İ' then ['i', '\u0307']
  else if c = 'Σ' then [if meetsCased before && !meetsCased after then 'ς' else 'σ']
  else [smallLetter c]

/-- The rest of a text in lower case, given the text before it in reverse. -/
def lowercaseFrom (before : CodeText) : CodeText → CodeText
  | [] => []
  | .char c :: rest =>
      CodeText.ofChars (lowerChar before rest c) ++ lowercaseFrom (.char c :: before) rest
  | .half offset :: rest => .half offset :: lowercaseFrom (.half offset :: before) rest

/-- A text in lower case. -/
def lowercase (text : CodeText) : CodeText := lowercaseFrom [] text

end LoxLexer.Text
