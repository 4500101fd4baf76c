/-!
# Binary64 numbers

A binary64 number is either no number at all or a sign with a magnitude. The magnitudes form one
increasing sequence that starts at zero and ends at infinity, and a magnitude is stored as its place
in that sequence, its rank. Every rank up to the last one is a magnitude, so no normal form has to be
kept, the neighbours of a number are the neighbouring ranks, and all arithmetic is exact arithmetic
on natural numbers followed by one rounding, `nearestRank`.
-/

namespace LoxLexer

namespace Binary64

/-- The number of magnitudes that share one spacing. -/
def perSpacing : Nat := Nat.pow 2 52

/-- The rank of infinity, which follows the largest finite magnitude. -/
def infiniteRank : Nat := 2047 * perSpacing

/-- The number of units in one: the smallest positive magnitude is one unit. -/
def unitsPerOne : Nat := Nat.pow 2 1074

/-- The magnitude at a rank, counted in units. The first two runs of `perSpacing` ranks are one
unit apart, and each later run doubles the spacing. At `infiniteRank` this is the power of two at
which overflow rounding takes place. -/
def units (rank : Nat) : Nat :=
  let doublings := rank / perSpacing - 1
  (rank - doublings * perSpacing) * Nat.pow 2 doublings

/-- The quotient rounded to the nearest natural number, a half going to the even one. -/
def roundDiv (numerator denominator : Nat) : Nat :=
  let quotient := numerator / denominator
  let twice := 2 * (numerator % denominator)
  if twice < denominator then quotient
  else if denominator < twice then quotient + 1
  else quotient + quotient % 2

/-- The rank whose magnitude is nearest to a fraction, a tie going to the even rank. The spacing is
chosen from the size of the fraction, and a mantissa that rounds up to the next power of two lands on
the first rank of the next run by itself. -/
def nearestRank (numerator denominator : Nat) : Nat :=
  let scaled := numerator * unitsPerOne
  let doublings := (scaled / denominator).log2 - 52
  roundDiv scaled (denominator * Nat.pow 2 doublings) + doublings * perSpacing

end Binary64

/-- A binary64 floating-point number. -/
inductive Binary64 where
  /-- The value of an undefined operation. -/
  | nan
  /-- A sign and the rank of a magnitude; zero and infinity carry a sign too. -/
  | signed (negative : Bool) (rank : Fin (Binary64.infiniteRank + 1))
  deriving DecidableEq, Inhabited

namespace Binary64

/-- The number with a sign and the given rank, every rank beyond the last meaning infinity. -/
def ofRank (negative : Bool) (rank : Nat) : Binary64 :=
  .signed negative ⟨min rank infiniteRank, Nat.lt_succ_of_le (Nat.min_le_right _ _)⟩

/-- Zero with a sign. -/
def zero (negative : Bool) : Binary64 := ofRank negative 0

/-- Infinity with a sign. -/
def infinity (negative : Bool) : Binary64 := ofRank negative infiniteRank

/-- The number nearest to a fraction with a sign. -/
def ofFraction (negative : Bool) (numerator denominator : Nat) : Binary64 :=
  ofRank negative (nearestRank numerator denominator)

/-- The number nearest to a signed count of units divided by a denominator; a zero count gives
positive zero. -/
def ofUnits (count : Int) (denominator : Nat) : Binary64 :=
  ofFraction (count < 0) count.natAbs (unitsPerOne * denominator)

/-- The signed count of units in a finite number. -/
def toUnits? : Binary64 → Option Int
  | .nan => none
  | .signed negative rank =>
      if rank.val = infiniteRank then none
      else if negative then some (-(units rank.val : Int)) else some (units rank.val)

/-- The integer that a number is equal to, if there is one. -/
def toInt? (x : Binary64) : Option Int := do
  let count ← x.toUnits?
  if count % unitsPerOne = 0 then some (count / unitsPerOne) else none

/-- Numeric equality: the two zeros are equal, and the value that is no number equals nothing. -/
def equals : Binary64 → Binary64 → Bool
  | .signed negative rank, .signed negative' rank' =>
      rank = rank' && (negative == negative' || rank.val = 0)
  | _, _ => false

/-- The opposite number. -/
def negate : Binary64 → Binary64
  | .nan => .nan
  | .signed negative rank => .signed (!negative) rank

/-- Whether a number carries the negative sign. -/
def isNegative : Binary64 → Bool
  | .nan => false
  | .signed negative _ => negative

/-- The rounded sum. Opposite infinities have none, and exact cancellation gives positive zero. -/
def add (x y : Binary64) : Binary64 :=
  match x.toUnits?, y.toUnits? with
  | some a, some b =>
      if a + b = 0 then zero (x.isNegative && y.isNegative) else ofUnits (a + b) 1
  | some _, none => y
  | none, some _ => x
  | none, none => if x = y then x else .nan

/-- The whole number that is nearest to a given one among the finite numbers, unless the nearest number
is infinity. All numbers of at least 2 ^ 52 are whole. -/
def nearestWhole? (n : Nat) : Option Nat := ((ofFraction false n 1).toInt?).map Int.toNat

/-- The rounded product with a whole positive factor. -/
def scale (x : Binary64) (factor : Nat) : Binary64 :=
  match x.toUnits? with
  | some a => if a = 0 then x else ofUnits (a * factor) 1
  | none => x

end Binary64

end LoxLexer
