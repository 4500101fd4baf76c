/-!
# Code points

A text whose characters are given by their numbers may hold numbers that are no characters: those of the
two halves that encode a character beyond the first 65536 in units of 16 bits. `CodeText` is a text that
may hold such halves. It is a list of characters exactly if it holds none.
-/

namespace LoxLexer

/-- A character, or a half of one. -/
inductive CodePoint where
  /-- A character. -/
  | char (c : Char)
  /-- A half, by its distance from the first one. The lower 1024 are first halves, the others second
  halves. -/
  | half (offset : Fin 0x800)
  deriving DecidableEq, Repr

namespace CodePoint

/-- The number of the first half. -/
def halvesStart : Nat := 0xD800

/-- The code point with a number. -/
def ofNat (code : Nat) : CodePoint :=
  if _h : code - halvesStart < 0x800 ∧ halvesStart ≤ code then
    .half ⟨code - halvesStart, _h.1⟩
  else .char (Char.ofNat code)

/-- The number of a code point. -/
def toNat : CodePoint → Nat
  | char c => c.toNat
  | half offset => halvesStart + offset

/-- The character that a code point is, if it is one. -/
def char? : CodePoint → Option Char
  | char c => some c
  | half _ => none

end CodePoint

/-- A text that may hold halves of characters. -/
abbrev CodeText := List CodePoint

namespace CodeText

/-- The text with the given characters. -/
def ofChars (chars : List Char) : CodeText := chars.map .char

/-- A string as a text that could hold halves. -/
def ofString (text : String) : CodeText := ofChars text.toList

/-- The characters of a text, if it holds no halves. -/
def chars? (text : CodeText) : Option (List Char) := text.mapM CodePoint.char?

/-- The character that stands for a half that has no partner. -/
def replacement : Char := '\uFFFD'

/-- The characters of a text in which two halves in the right order make one character. -/
def joined : CodeText → List Char
  | .char c :: rest => c :: joined rest
  | .half high :: .half low :: rest =>
      if high.val < 0x400 ∧ 0x400 ≤ low.val then
        Char.ofNat (0x10000 + high * 0x400 + (low - 0x400)) :: joined rest
      else replacement :: joined (.half low :: rest)
  | .half _ :: rest => replacement :: joined rest
  | [] => []

/-- Nothing but characters gives back these characters. -/
theorem chars?_ofChars (chars : List Char) : chars? (ofChars chars) = some chars := by
  induction chars with
  | nil => rfl
  | cons c rest ih =>
      simp only [chars?, ofChars, List.map_cons, List.mapM_cons] at ih ⊢
      simp [CodePoint.char?, ih]

end CodeText

end LoxLexer
