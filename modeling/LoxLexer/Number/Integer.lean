import LoxLexer.Number.Decimal
import LoxLexer.Text.Blank
import LoxLexer.Text.Digit

/-!
# Integers in a base

An integer may be written in base 2, 8, 10 or 16, in the decimal digits of any script. Blanks may
surround it, a sign may precede it, and in a base other than ten so may the mark that names this base.
-/

namespace LoxLexer.Integer

/-- The value of a digit: an ASCII digit, or an ASCII letter counting on from ten. -/
def digitValue? (c : Char) : Option Nat :=
  let lower := c.toLower
  if c.isDigit then some (c.toNat - '0'.toNat)
  else if 'a' ≤ lower ∧ lower ≤ 'z' then some (lower.toNat - 'a'.toNat + 10)
  else none

/-- The letter of the mark that names a base. -/
def baseLetter? : Nat → Option Char
  | 2 => some 'b'
  | 8 => some 'o'
  | 16 => some 'x'
  | _ => none

/-- Drops the mark that names the base, if the text starts with it. -/
def dropBaseMark (base : Nat) (text : List Char) : List Char :=
  match text with
  | '0' :: letter :: rest => if baseLetter? base = some letter.toLower then rest else text
  | _ => text

/-- The value of a non-empty list of digits that are all below the base. -/
def digitsValue? (base : Nat) (digits : List Char) : Option Nat :=
  if digits.isEmpty then none
  else digits.foldl
    (fun total c => do
      let n ← total
      let value ← digitValue? c
      if value < base then some (base * n + value) else none)
    (some 0)

/-- Reads an integer in a base. -/
def ofChars? (base : Nat) (text : List Char) : Option Int :=
  let (negative, unsigned) :=
    Decimal.takeSign ((Text.trimBlanks text).map Text.toAsciiDigit)
  (digitsValue? base (dropBaseMark base unsigned)).map fun size =>
    if negative then -(size : Int) else size

end LoxLexer.Integer
