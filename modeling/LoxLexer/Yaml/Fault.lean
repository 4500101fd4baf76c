import LoxLexer.Text.Quoted
import LoxLexer.Yaml.Calendar

/-!
# Faults of documents

Reading a document can fail in two ways. A text that breaks the rules of the format is malformed,
whatever the rule. Apart from this, a number that is a part of the notation may be out of range, and a
scalar may have the form that its tag asks for, or be forced into it by an explicit tag, and yet denote
no value: these faults say what is wrong with the number or the scalar.
-/

namespace LoxLexer.Yaml

/-- Why a text is no document. -/
inductive Fault where
  /-- The text breaks the rules of the format. -/
  | malformed
  /-- An escape names a number beyond the last code point; `huge` if it needs more than 31 bits. -/
  | codePoint (huge : Bool)
  /-- A date or time does not exist. -/
  | calendar (fault : CalendarFault)
  /-- A scalar that is tagged as a date or time does not look like one. -/
  | notTimestamp
  /-- A mapping stands for a scalar that is tagged as a date or time. -/
  | timestampOfMapping
  /-- A scalar that is tagged as a truth value is not one of its words. -/
  | unknownBool (word : CodeText)
  /-- A scalar that is tagged as an integer is no integer in its base. -/
  | notInteger (base : Nat) (digits : CodeText)
  /-- An integer has more decimal digits than are read. -/
  | hugeInteger (digits : Nat)
  /-- A scalar that is tagged as a floating-point number is none. -/
  | notFloat (text : CodeText)
  /-- A number in base sixty has more places than a floating-point number can weigh. -/
  | hugeWeight
  /-- A scalar that is tagged as a number has no characters but signs and underscores. -/
  | emptyNumber
  /-- A mapping that stands for a scalar stands for itself. -/
  | endlessText
  deriving DecidableEq, Repr

/-- The greatest number of decimal digits of an integer that is read. -/
def maxIntegerDigits : Nat := 4300

/-- The wording of a fault. How a text is malformed is not part of it. -/
def Fault.message : Fault → String
  | malformed => "Invalid YAML"
  | codePoint huge =>
      if huge then "Python int too large to convert to C int"
      else "chr() arg not in range(0x110000)"
  | calendar fault => fault.message
  | notTimestamp => "'NoneType' object has no attribute 'groupdict'"
  | timestampOfMapping => "expected string or bytes-like object, got 'list'"
  | unknownBool word => Text.quotedPoints word
  | notInteger base digits =>
      "invalid literal for int() with base " ++ toString base ++ ": " ++
        String.ofList ((Text.quotedPoints digits).toList.take 200)
  | hugeInteger digits =>
      "Exceeds the limit (" ++ toString maxIntegerDigits ++
        " digits) for integer string conversion: value has " ++ toString digits ++
        " digits; use sys.set_int_max_str_digits() to increase the limit"
  | notFloat text => "could not convert string to float: " ++ Text.quotedPoints text
  | hugeWeight => "int too large to convert to float"
  | emptyNumber => "string index out of range"
  | endlessText => "maximum recursion depth exceeded"

end LoxLexer.Yaml
