import LoxLexer.Number.Integer
import LoxLexer.Text.Base64
import LoxLexer.Text.Lowercase
import LoxLexer.Text.Split
import LoxLexer.Yaml.Tag
import LoxLexer.Yaml.Value

/-!
# Values of scalars

The value of a scalar by its tag. Numbers may have underscores between their digits and may be written
in base sixty, with colons between the digits.
-/

namespace LoxLexer.Yaml.ScalarValue

/-- Splits a leading sign off a text; the answer says whether it is a minus. -/
def takeSign : CodeText → Bool × CodeText
  | .char '-' :: rest => (true, rest)
  | .char '+' :: rest => (false, rest)
  | text => (false, text)

/-- A text without underscores. -/
def withoutGaps (text : CodeText) : CodeText := text.filter (· != .char '_')

/-! ## Integers -/

/-- The number of digits of the integer with which a text starts, apart from blanks and a sign. -/
def leadingDigits (text : CodeText) : Nat :=
  let chars := ((text.takeWhile (·.char?.isSome)).filterMap CodePoint.char?).dropWhile Text.isBlank
  ((Decimal.takeSign chars).2.takeWhile Text.isDecimalDigit).length

/-- The integer that a text denotes in a base. In base ten the number of digits is limited. -/
def integerIn (base : Nat) (text : CodeText) : Except Fault Int :=
  if base = 10 && maxIntegerDigits < leadingDigits text then
    .error (.hugeInteger (leadingDigits text))
  else match (CodeText.chars? text).bind (Integer.ofChars? base) with
    | some n => .ok n
    | none => .error (.notInteger base text)

/-- The unsigned integer that a text denotes. Its base shows in its first characters: `0b` for two,
`0x` for sixteen and `0` for eight; colons separate the digits of base sixty. -/
def unsignedInteger (text : CodeText) : Except Fault Int :=
  match text with
  | [] => .error .emptyNumber
  | [.char '0'] => .ok 0
  | .char '0' :: .char 'b' :: digits => integerIn 2 digits
  | .char '0' :: .char 'x' :: digits => integerIn 16 digits
  | .char '0' :: _ => integerIn 8 text
  | _ =>
      if text.contains (.char ':') then do
        let parts ← (Text.splitAt (.char ':') text).mapM (integerIn 10)
        return parts.foldl (fun total part => total * 60 + part) 0
      else integerIn 10 text

/-- The integer that a scalar denotes. -/
def integer (text : CodeText) : Except Fault Int := do
  let (negative, unsigned) := takeSign (withoutGaps text)
  let n ← unsignedInteger unsigned
  return if negative then -n else n

/-! ## Floating-point numbers -/

/-- The floating-point number that a part of a scalar denotes. -/
def floatPart (text : CodeText) : Except Fault Binary64 :=
  match (CodeText.chars? text).bind fun chars => Binary64.ofText? (String.ofList chars) with
  | some x => .ok x
  | none => .error (.notFloat text)

/-- The sum of the parts of a number in base sixty, the last part first. Each part is multiplied by its
weight, and the products are added up, in floating-point arithmetic. -/
def sixtySum (weight : Nat) (total : Binary64) : List Binary64 → Except Fault Binary64
  | [] => .ok total
  | part :: rest =>
      match Binary64.nearestWhole? weight with
      | none => .error .hugeWeight
      | some nearest => sixtySum (weight * 60) (total.add (part.scale nearest)) rest

/-- The unsigned floating-point number that a text denotes, which may be one of the two constants. -/
def unsignedFloat (text : CodeText) : Except Fault Binary64 :=
  if text.contains (.char ':') then do
    let parts ← (Text.splitAt (.char ':') text).mapM floatPart
    sixtySum 1 (Binary64.zero false) parts.reverse
  else floatPart text

/-- The floating-point number that a scalar at a node denotes. The constant that is no number is the
same at all nodes. -/
def float (number : Nat) (text : CodeText) : Except Fault Value := do
  let points := Text.lowercase (withoutGaps text)
  if points.isEmpty then throw .emptyNumber
  let (negative, unsigned) := takeSign points
  let signed (x : Binary64) : Binary64 := if negative then x.negate else x
  if unsigned = CodeText.ofString ".inf" then return .float (signed (Binary64.infinity false))
  if unsigned = CodeText.ofString ".nan" then return .nan none
  return .ofNumber number (signed (← unsignedFloat unsigned))

/-! ## Other values -/

/-- The truth value that a scalar denotes. -/
def bool (text : CodeText) : Except Fault Bool :=
  let word := Text.lowercase text
  if ["yes", "true", "on"].any fun known => word = CodeText.ofString known then .ok true
  else if ["no", "false", "off"].any fun known => word = CodeText.ofString known then .ok false
  else .error (.unknownBool word)

/-- The day or time that a scalar denotes. -/
def timestamp (text : CodeText) : Except Fault Value :=
  match (CodeText.chars? text).bind fun chars =>
      Timestamp.ofChars? (Tag.withoutFinalNewline chars) with
  | none => .error .notTimestamp
  | some stamp =>
      match stamp.time with
      | none => (stamp.toDate.map Value.date).mapError Fault.calendar
      | some time => ((stamp.toDateTime time).map Value.dateTime).mapError Fault.calendar

/-- The bytes that a scalar denotes. -/
def bytes (text : CodeText) : Except Fault (List UInt8) :=
  match (CodeText.chars? text).filter (·.all fun c => c.toNat < 0x80) with
  | none => .error .malformed
  | some chars =>
      match Text.decodeBase64 chars with
      | some bytes => .ok bytes
      | none => .error .malformed

/-- The value of the scalar with a tag at a node. A tag of collections, or one without a meaning, gives
none. -/
def ofTag (tag : Tag) (number : Nat) (text : CodeText) : Except Fault Value :=
  match tag with
  | .null => .ok .null
  | .bool => (bool text).map .bool
  | .int => (integer text).map .int
  | .float => float number text
  | .binary => (bytes text).map .bytes
  | .timestamp => timestamp text
  | .text => .ok (.ofText text)
  | _ => .error .malformed

end LoxLexer.Yaml.ScalarValue
