import LoxLexer.Number.Binary64
import LoxLexer.Text.Blank
import LoxLexer.Text.Digit

/-!
# Decimal numerals

A decimal numeral is a natural number times a power of ten, with a sign. Reading one into a binary64
number is exact up to the single rounding of `Binary64.ofFraction`; a numeral whose exponent alone
puts it beyond both ends of the range is not expanded.
-/

namespace LoxLexer

/-- A signed natural number times a power of ten. -/
structure Decimal where
  /-- Whether a minus sign stands in front. -/
  negative : Bool
  /-- The digits read as one natural number, without the point. -/
  digits : Nat
  /-- The power of ten that the digits are multiplied by. -/
  exponent : Int
  deriving DecidableEq, Repr

namespace Decimal

/-- The natural number that a list of ASCII digits denotes. -/
def value (digits : List Char) : Nat :=
  digits.foldl (fun n c => 10 * n + (c.toNat - '0'.toNat)) 0

/-- The numeral with the given digits before and after the point. -/
def ofParts (negative : Bool) (whole fraction : List Char) (exponent : Int) : Decimal :=
  ⟨negative, value (whole ++ fraction), exponent - fraction.length⟩

/-- The binary64 number nearest to a numeral. Ten to the 311 exceeds every finite number, and a
number below ten to the -330 is nearer to zero than to the smallest unit. -/
def toBinary64 (d : Decimal) : Binary64 :=
  if d.digits = 0 then Binary64.zero d.negative
  else if 310 < d.exponent then Binary64.infinity d.negative
  else if d.exponent + d.digits.log2 + 1 < -330 then Binary64.zero d.negative
  else match d.exponent with
    | .ofNat e => Binary64.ofFraction d.negative (d.digits * Nat.pow 10 e) 1
    | .negSucc e => Binary64.ofFraction d.negative d.digits (Nat.pow 10 (e + 1))

/-- Splits a leading sign off a text; the answer says whether it is a minus. -/
def takeSign : List Char → Bool × List Char
  | '-' :: rest => (true, rest)
  | '+' :: rest => (false, rest)
  | text => (false, text)

/-- The exponent part of a numeral, which may be absent: the letter, an optional sign and at least
one digit, up to the end of the text. -/
def readExponent? : List Char → Option Int
  | [] => some 0
  | c :: rest =>
      let (negative, digits) := takeSign rest
      if (c = 'e' || c = 'E') && !digits.isEmpty && digits.all Char.isDigit then
        let size : Int := value digits
        some (if negative then -size else size)
      else none

/-- Reads a numeral: an optional sign, digits with an optional point among or beside them, and an
optional exponent. -/
def ofChars? (text : List Char) : Option Decimal :=
  let (negative, unsigned) := takeSign text
  let whole := unsigned.takeWhile Char.isDigit
  let afterWhole := unsigned.dropWhile Char.isDigit
  let (fraction, tail) := match afterWhole with
    | '.' :: rest => (rest.takeWhile Char.isDigit, rest.dropWhile Char.isDigit)
    | rest => ([], rest)
  if whole.isEmpty && fraction.isEmpty then none
  else (readExponent? tail).map (ofParts negative whole fraction)

end Decimal

/-- Reads a binary64 number: a numeral in the digits of any script, or one of the names of infinity
and of the value that is no number, in any letter case and between blanks. -/
def Binary64.ofText? (text : String) : Option Binary64 :=
  let trimmed := (Text.trimBlanks text.toList).map Text.toAsciiDigit
  let (negative, unsigned) := Decimal.takeSign trimmed
  let name := String.ofList (unsigned.map Char.toLower)
  if name == "inf" || name == "infinity" then some (Binary64.infinity negative)
  else if name == "nan" then some .nan
  else (Decimal.ofChars? trimmed).map Decimal.toBinary64

end LoxLexer
