import LoxLexer.Number.Shortest
import LoxLexer.Text.Quoted
import LoxLexer.Yaml.Fault

/-!
# Values of a document

The values that the keys and entries of a document can have. A collection is known by its kind only:
what it holds is checked when the document is read, and nothing looks at it afterwards. Two values are
the same key if they are equal, numbers being compared by their numeric value whatever their type.
-/

namespace LoxLexer.Yaml

/-- The kinds of collections. -/
inductive Collection where
  /-- A list of values. -/
  | sequence
  /-- A list of keys with values. -/
  | mapping
  /-- A list of keys. -/
  | set
  deriving DecidableEq, Repr

/-- A value of a document. -/
inductive Value where
  /-- The absence of a value. -/
  | null
  /-- A truth value. -/
  | bool (value : Bool)
  /-- An integer of any size. -/
  | int (value : Int)
  /-- A floating-point number. -/
  | float (value : Binary64)
  /-- The value that is no number. It is the same as nothing but itself: two are the same if they have
  the same origin, the node at which they were calculated, or both are the constant, without one. -/
  | nan (origin : Option Nat)
  /-- A text. -/
  | text (value : String)
  /-- A text that holds a half of a character. -/
  | brokenText (value : CodeText)
  /-- A sequence of bytes. -/
  | bytes (value : List UInt8)
  /-- A day. -/
  | date (value : Date)
  /-- A time of a day. -/
  | dateTime (value : DateTime)
  /-- A collection of values. -/
  | collection (kind : Collection)
  deriving DecidableEq, Inhabited

namespace Value

/-- The value of a text. -/
def ofText (text : CodeText) : Value :=
  match CodeText.chars? text with
  | some chars => .text (String.ofList chars)
  | none => .brokenText text

/-- The value of a number that was calculated at a node. -/
def ofNumber (node : Nat) (number : Binary64) : Value :=
  if number = .nan then .nan (some node) else .float number

/-- The numeric value of a number or truth value, in the units of `Binary64`; infinities have none. -/
def units? : Value → Option Int
  | bool value => some (if value then Binary64.unitsPerOne else 0)
  | int value => some (value * Binary64.unitsPerOne)
  | float value => value.toUnits?
  | _ => none

/-- Whether two values are the same key. -/
def sameKey (a b : Value) : Bool :=
  match a.units?, b.units? with
  | some m, some n => m == n
  | _, _ =>
      match a, b with
      | dateTime s, dateTime t => s.sameInstant t
      | _, _ => a == b

/-- Whether a value can be a key: a collection cannot. -/
def canBeKey : Value → Bool
  | collection _ => false
  | _ => true

/-- A key as messages show it. A truth value is shown as a number, and an integer with too many digits
is not shown. -/
def renderKey : Value → String
  | null => "None"
  | bool value => if value then "1" else "0"
  | int value =>
      if value.natAbs < Nat.pow 10 maxIntegerDigits then toString value else "<unprintable int object>"
  | float value => value.text
  | nan _ => Binary64.nan.text
  | text value => value
  | brokenText value => String.ofList (CodeText.joined value)
  | bytes value => Text.quotedBytes value
  | date value => value.render
  | dateTime value => value.render
  | collection _ => ""

end Value

/-- The entries of a mapping, in order. -/
abbrev Entries := List (Value × Value)

namespace Entries

/-- Adds an entry. A key that is there already keeps its place and its form and takes the new
value. -/
def insert (entries : Entries) (key value : Value) : Entries :=
  if entries.any fun entry => entry.1.sameKey key then
    entries.map fun entry => if entry.1.sameKey key then (entry.1, value) else entry
  else entries ++ [(key, value)]

/-- The value of the key that is a given text. -/
def find? (entries : Entries) (name : String) : Option Value :=
  (List.find? (fun entry => entry.1 == Value.text name) entries).map Prod.snd

end Entries

end LoxLexer.Yaml
