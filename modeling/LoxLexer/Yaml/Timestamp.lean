import LoxLexer.Number.Decimal
import LoxLexer.Yaml.Fault

/-!
# Timestamps

The written form of dates and times: a year, month and day, optionally followed by a time of day, which
in turn may be followed by an offset. `Timestamp.ofChars?` only looks at the form; whether there is such
a day and time is found out by `Timestamp.toDate` and `Timestamp.toDateTime`.
-/

namespace LoxLexer.Yaml

/-- An offset from universal time, as it is written. -/
structure WrittenOffset where
  /-- Whether local time is behind universal time. -/
  behind : Bool
  /-- The hours. -/
  hours : Nat
  /-- The minutes. -/
  minutes : Nat
  deriving DecidableEq, Repr

/-- A time of day, as it is written. -/
structure WrittenTime where
  /-- The hour. -/
  hour : Nat
  /-- The minute. -/
  minute : Nat
  /-- The second. -/
  second : Nat
  /-- The digits after the point of the second. -/
  fraction : List Char
  /-- The offset, if there is one. -/
  offset : Option WrittenOffset
  deriving DecidableEq, Repr

/-- A date with an optional time of day, as it is written. -/
structure Timestamp where
  /-- The year. -/
  year : Nat
  /-- The month. -/
  month : Nat
  /-- The day of the month. -/
  day : Nat
  /-- Whether month and day have two digits each. -/
  padded : Bool
  /-- The time of day, if there is one. -/
  time : Option WrittenTime
  deriving DecidableEq, Repr

namespace Timestamp

/-- Splits digits off a text, as many as there are up to a greatest number, but at least a least
number. -/
def digits? (least most : Nat) (text : List Char) : Option (List Char × List Char) :=
  let digits := (text.take most).takeWhile Char.isDigit
  if digits.length < least then none else some (digits, text.drop digits.length)

/-- Splits an expected character off a text. -/
def expect? (c : Char) : List Char → Option (List Char)
  | d :: rest => if c = d then some rest else none
  | [] => none

/-- Splits off the character or the blanks between a date and a time. -/
def separator? (text : List Char) : Option (List Char) :=
  match text with
  | 'T' :: rest => some rest
  | 't' :: rest => some rest
  | ' ' :: _ => some (text.dropWhile fun c => c = ' ' || c = '\t')
  | '\t' :: _ => some (text.dropWhile fun c => c = ' ' || c = '\t')
  | _ => none

/-- Reads an offset up to the end of the text, if there is any text left. -/
def offset? (text : List Char) : Option (Option WrittenOffset) :=
  if text.isEmpty then some none
  else match text.dropWhile fun c => c = ' ' || c = '\t' with
    | ['Z'] => some (some ⟨false, 0, 0⟩)
    | sign :: rest => do
        if sign != '+' && sign != '-' then none
        let (hours, rest) ← digits? 1 2 rest
        if rest.isEmpty then return some ⟨sign = '-', Decimal.value hours, 0⟩
        let (minutes, rest) ← digits? 2 2 (← expect? ':' rest)
        if !rest.isEmpty then none
        return some ⟨sign = '-', Decimal.value hours, Decimal.value minutes⟩
    | [] => none

/-- Reads a time of day up to the end of the text. -/
def time? (text : List Char) : Option WrittenTime := do
  let (hour, rest) ← digits? 1 2 text
  let (minute, rest) ← digits? 2 2 (← expect? ':' rest)
  let (second, rest) ← digits? 2 2 (← expect? ':' rest)
  let (fraction, rest) := match rest with
    | '.' :: rest => (rest.takeWhile Char.isDigit, rest.dropWhile Char.isDigit)
    | rest => ([], rest)
  return ⟨Decimal.value hour, Decimal.value minute, Decimal.value second, fraction, ← offset? rest⟩

/-- Reads a date with an optional time of day. -/
def ofChars? (text : List Char) : Option Timestamp := do
  let (year, rest) ← digits? 4 4 text
  let (month, rest) ← digits? 1 2 (← expect? '-' rest)
  let (day, rest) ← digits? 1 2 (← expect? '-' rest)
  let padded := month.length = 2 && day.length = 2
  let date := Timestamp.mk (Decimal.value year) (Decimal.value month) (Decimal.value day) padded
  if rest.isEmpty then return date none
  return date (some (← time? (← separator? rest)))

/-- The offset in seconds, which must be less than a day. -/
def offsetSeconds (written : WrittenOffset) : Except CalendarFault Int :=
  let size : Int := written.hours * 3600 + written.minutes * 60
  let seconds := if written.behind then -size else size
  if size < 86400 then .ok seconds else .error (.offset seconds)

/-- The day of a timestamp. -/
def toDate (stamp : Timestamp) : Except CalendarFault Date :=
  Date.ofParts stamp.year stamp.month stamp.day

/-- The time of a timestamp, of which the fraction of a second is cut to six digits. An offset is
looked at before the day. -/
def toDateTime (stamp : Timestamp) (time : WrittenTime) : Except CalendarFault DateTime := do
  let offset ← match time.offset with
    | some written => do pure (some (← offsetSeconds written))
    | none => pure none
  let micros := Decimal.value ((time.fraction ++ List.replicate 6 '0').take 6)
  DateTime.ofParts (← stamp.toDate) time.hour time.minute time.second micros offset

end Timestamp

end LoxLexer.Yaml
