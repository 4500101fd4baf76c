/-!
# Line endings

A file may end its lines with a carriage return, a line feed, or both. A program sees one line feed
for each of them.
-/

namespace LoxLexer.Text

/-- Replaces the line endings of a text, given what stands before it, the last character first. -/
def unifyLineEndingsFrom (done : List Char) : List Char → List Char
  | [] => done.reverse
  | '\r' :: '\n' :: rest => unifyLineEndingsFrom ('\n' :: done) rest
  | '\r' :: rest => unifyLineEndingsFrom ('\n' :: done) rest
  | c :: rest => unifyLineEndingsFrom (c :: done) rest

/-- A text with one line feed for each line ending. -/
def unifyLineEndings (text : List Char) : List Char := unifyLineEndingsFrom [] text

end LoxLexer.Text
