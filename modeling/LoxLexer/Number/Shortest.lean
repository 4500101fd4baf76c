import LoxLexer.Number.Binary64

/-!
# Shortest decimal text of a binary64 number

A positive finite number is printed with the fewest digits that still read back as the same number,
and among those with the digits nearest to it. The search goes through the decimal grids from coarse
to fine: the first grid with a point among the reals that round to the number has the fewest digits.
The finest grid, of spacing ten to the -1074, holds every finite number itself, so the search always
ends with an answer.
-/

namespace LoxLexer.Binary64

/-- A digit string without a final zero, times a power of ten. -/
structure Shortest where
  /-- The digits, read as one natural number. -/
  digits : Nat
  /-- The power of ten that the digits are multiplied by. -/
  exponent : Int
  deriving DecidableEq, Repr

/-- Whether `point` times ten to the `exponent` rounds to the magnitude at `rank`. The reals that do
lie between the midpoints to the neighbouring magnitudes, and the midpoints themselves round to the
even rank. -/
def readsBack (rank : Nat) (point : Nat) (exponent : Int) : Bool :=
  let grow := Nat.pow 10 (-exponent).toNat
  let low := (units (rank - 1) + units rank) * grow
  let high := (units rank + units (rank + 1)) * grow
  let twice := 2 * point * unitsPerOne * Nat.pow 10 exponent.toNat
  if rank % 2 = 0 then low ≤ twice && twice ≤ high else low < twice && twice < high

/-- The point of a decimal grid that reads back as the magnitude at `rank`, if there is one: of the
two neighbours of the magnitude on the grid the nearer one, and the even one if both are as near. -/
def gridPoint? (rank : Nat) (exponent : Int) : Option Nat :=
  let numerator := units rank * Nat.pow 10 (-exponent).toNat
  let denominator := unitsPerOne * Nat.pow 10 exponent.toNat
  let below := numerator / denominator
  match readsBack rank below exponent, readsBack rank (below + 1) exponent with
  | true, true => some (roundDiv numerator denominator)
  | true, false => some below
  | false, true => some (below + 1)
  | false, false => none

/-- The first grid point found from a grid of spacing ten to the `fineness - 1074` downwards. On the
last grid the magnitude itself is a point. -/
def searchGrids (rank : Nat) : Nat → Shortest
  | 0 => ⟨units rank * Nat.pow 10 1074 / unitsPerOne, -1074⟩
  | fineness + 1 =>
      let exponent : Int := fineness + 1 - 1074
      match gridPoint? rank exponent with
      | some point => ⟨point, exponent⟩
      | none => searchGrids rank fineness

/-- Moves the final zeros of a digit string into its exponent. A digit string has fewer digits than
`fuel`. -/
def dropZeros : Nat → Shortest → Shortest
  | 0, s => s
  | fuel + 1, s =>
      if s.digits % 10 = 0 && s.digits != 0 then dropZeros fuel ⟨s.digits / 10, s.exponent + 1⟩
      else s

/-- The shortest digits that read back as the magnitude at a positive rank. The search starts at a
grid that is coarser than the magnitude: 0.30103 is the logarithm of two to base ten, rounded up. -/
def shortest (rank : Nat) : Shortest :=
  let size : Int := (units rank).log2 + 1 - 1074
  let start := size * 30103 / 100000 + 1
  let found := searchGrids rank (start + 1074).toNat
  dropZeros (found.digits.log2 + 1) found

/-- Which numbers are written without an exponent. -/
structure Layout where
  /-- The least decimal exponent of the first digit that is written without an exponent part. -/
  fixedFrom : Int
  /-- The decimal exponent of the first digit from which on an exponent part is written. -/
  fixedBelow : Int
  /-- The least number of digits of an exponent part. -/
  exponentDigits : Nat

/-- Literals are written without an exponent from one ten-thousandth up to ten to the sixteenth, and
an exponent has at least two digits. -/
def literalLayout : Layout := ⟨-4, 16, 2⟩

/-- Digits with leading zeros up to a least width. -/
def padZeros (width : Nat) (digits : List Char) : List Char :=
  List.replicate (width - digits.length) '0' ++ digits

/-- A digit string with the decimal exponent `place` of its first digit, written without an exponent
part and with at least one digit on each side of the point. -/
def fixedText (digits : List Char) : Int → List Char
  | .ofNat place =>
      let whole := digits.take (place + 1)
      let fraction := digits.drop (place + 1)
      whole ++ List.replicate (place + 1 - digits.length) '0' ++ '.' ::
        (if fraction.isEmpty then ['0'] else fraction)
  | .negSucc place => '0' :: '.' :: (List.replicate place '0' ++ digits)

/-- A digit string with the decimal exponent `place` of its first digit, written with one digit
before the point, and an exponent part that always shows its sign. -/
def scientificText (layout : Layout) (digits : List Char) (place : Int) : List Char :=
  let mantissa := match digits with
    | first :: second :: rest => first :: '.' :: second :: rest
    | short => short
  mantissa ++ 'e' :: (if place < 0 then '-' else '+') ::
    padZeros layout.exponentDigits (Nat.toDigits 10 place.natAbs)

/-- The decimal text of a positive finite magnitude. -/
def magnitudeText (layout : Layout) (rank : Nat) : List Char :=
  let found := shortest rank
  let digits := Nat.toDigits 10 found.digits
  let place := found.exponent + digits.length - 1
  if layout.fixedFrom ≤ place ∧ place < layout.fixedBelow then fixedText digits place
  else scientificText layout digits place

/-- The text of a number as a list of characters. -/
def textChars : Binary64 → List Char
  | .nan => ['n', 'a', 'n']
  | .signed negative rank =>
      let magnitude :=
        if rank.val = 0 then ['0', '.', '0']
        else if rank.val = infiniteRank then ['i', 'n', 'f']
        else magnitudeText literalLayout rank.val
      if negative then '-' :: magnitude else magnitude

/-- The text of a number: the shortest digits that read back as it, or a name. -/
def text (x : Binary64) : String := String.ofList x.textChars

end LoxLexer.Binary64
