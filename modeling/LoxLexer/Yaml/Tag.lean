import LoxLexer.Yaml.Timestamp

/-!
# Tags

A tag is the type of a node. A plain scalar without a tag has the type that its form shows:
`Tag.ofPlain` knows the forms of truth values, numbers, times and the absence of a value, and takes
everything else for text.
-/

namespace LoxLexer.Yaml

/-- The type of a node. -/
inductive Tag where
  | null
  | bool
  | int
  | float
  | binary
  | timestamp
  | text
  | sequence
  | mapping
  | set
  /-- A sequence of mappings with one entry each. -/
  | pairs
  /-- The key under which the entries of other mappings are taken over. -/
  | merge
  /-- The key of the value that a mapping stands for. -/
  | value
  /-- A type without a meaning. -/
  | unknown
  deriving DecidableEq, Repr, Inhabited

namespace Tag

/-- How the tags of the format start. -/
def standardStart : String := "tag:yaml.org,2002:"

/-- The tags that have a meaning, by the end of their names. -/
def standard : List (String × Tag) :=
  [("null", null), ("bool", bool), ("int", int), ("float", float), ("binary", binary),
   ("timestamp", timestamp), ("str", text), ("seq", sequence), ("map", mapping), ("set", set),
   ("omap", pairs), ("pairs", pairs), ("merge", merge), ("value", value)]

/-- The tag with a given name. -/
def ofName (name : String) : Tag :=
  ((standard.find? fun entry => standardStart ++ entry.1 == name).map Prod.snd).getD unknown

/-! ## The forms of plain scalars -/

/-- A text without a sign in front. -/
def unsigned : List Char → List Char
  | '+' :: rest => rest
  | '-' :: rest => rest
  | chars => chars

/-- Whether a character is a digit or the underscore that may separate digits. -/
def isDigitOrGap (c : Char) : Bool := c.isDigit || c = '_'

/-- Whether a text is an optional exponent: the letter, a sign and digits. -/
def isExponent : List Char → Bool
  | [] => true
  | e :: sign :: digits =>
      (e = 'e' || e = 'E') && (sign = '+' || sign = '-') && !digits.isEmpty &&
        digits.all Char.isDigit
  | _ => false

/-- What follows the groups of a number in base sixty: a colon and one or two digits each, the first
of two being less than six. -/
def afterSixties : List Char → List Char
  | ':' :: a :: b :: rest =>
      if a.isDigit && b.isDigit then
        if a < '6' then afterSixties rest else ':' :: a :: b :: rest
      else if a.isDigit then afterSixties (b :: rest)
      else ':' :: a :: b :: rest
  | [':', a] => if a.isDigit then [] else [':', a]
  | chars => chars

/-- Whether a text starts with a group of a number in base sixty and goes on, after all such groups,
in a given way. -/
def isSixties (goesOn : List Char → Bool) (chars : List Char) : Bool :=
  let rest := afterSixties chars
  rest.length < chars.length && goesOn rest

/-- Whether an unsigned text is an integer. -/
def isInt : List Char → Bool
  | ['0'] => true
  | '0' :: 'b' :: digits =>
      !digits.isEmpty && digits.all fun c => c = '0' || c = '1' || c = '_'
  | '0' :: 'x' :: digits =>
      !digits.isEmpty && digits.all fun c =>
        isDigitOrGap c || ('a' ≤ c && c ≤ 'f') || ('A' ≤ c && c ≤ 'F')
  | '0' :: digits => digits.all fun c => ('0' ≤ c && c ≤ '7') || c = '_'
  | first :: rest =>
      let after := rest.dropWhile isDigitOrGap
      first.isDigit && (after.isEmpty || isSixties List.isEmpty after)
  | [] => false

/-- Whether a text is a point with the digits after it. -/
def isPointAndDigits : List Char → Bool
  | '.' :: rest => rest.all isDigitOrGap
  | _ => false

/-- Whether an unsigned text that starts with a digit is a floating-point number. -/
def isFloat : List Char → Bool
  | first :: rest =>
      first.isDigit && match rest.dropWhile isDigitOrGap with
        | '.' :: rest => isExponent (rest.dropWhile isDigitOrGap)
        | after => isSixties isPointAndDigits after
  | [] => false

/-- Whether a text that starts with a point is a floating-point number. It has no sign. -/
def isPointFloat : List Char → Bool
  | '.' :: first :: rest => first.isDigit && isExponent (rest.dropWhile isDigitOrGap)
  | _ => false

/-- The words for truth values. -/
def boolWords : List String :=
  ["yes", "Yes", "YES", "no", "No", "NO", "true", "True", "TRUE", "false", "False", "FALSE",
   "on", "On", "ON", "off", "Off", "OFF"]

/-- The words for the absence of a value. -/
def nullWords : List String := ["~", "null", "Null", "NULL", ""]

/-- The words for infinity, which may have a sign. -/
def infinityWords : List String := [".inf", ".Inf", ".INF"]

/-- The words for the value that is no number. -/
def nanWords : List String := [".nan", ".NaN", ".NAN"]

/-- Whether a text has the form of a timestamp: a date with padded parts, or a date and a time. -/
def isTimestamp (chars : List Char) : Bool :=
  (Timestamp.ofChars? chars).any fun stamp => stamp.padded || stamp.time.isSome

/-- A text without the line end that may be its last character. -/
def withoutFinalNewline (chars : List Char) : List Char :=
  if chars.getLast? = some '\n' then chars.dropLast else chars

/-- The type that the form of a scalar shows. One line end after the form does not matter. -/
def ofPlain (scalar : List Char) : Tag :=
  let chars := withoutFinalNewline scalar
  let word := String.ofList chars
  if scalar = ['\n'] then text
  else if boolWords.contains word then bool
  else if isFloat (unsigned chars) || isPointFloat chars || nanWords.contains word ||
      infinityWords.contains (String.ofList (unsigned chars)) then float
  else if isInt (unsigned chars) then int
  else if word = "<<" then merge
  else if nullWords.contains word then null
  else if isTimestamp chars then timestamp
  else if word = "=" then value
  else if ["!", "&", "*"].contains word then unknown
  else text

end Tag

end LoxLexer.Yaml
