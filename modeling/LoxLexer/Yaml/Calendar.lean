/-!
# Dates and times

The dates and times that a document may hold. They are proleptic Gregorian, from year 1 to year 9999,
and a time may carry an offset from universal time. Building one from numbers that are out of range
fails with the part that is at fault, the larger parts being looked at first.
-/

namespace LoxLexer.Yaml

/-- A part of a date or time that is out of range. -/
inductive CalendarFault where
  /-- The year is zero. -/
  | year (value : Nat)
  /-- There is no such month. -/
  | month
  /-- The month has no such day. -/
  | day
  /-- There is no such hour. -/
  | hour
  /-- There is no such minute. -/
  | minute
  /-- There is no such second. -/
  | second
  /-- The offset, in seconds, is a day or more. -/
  | offset (seconds : Int)
  deriving DecidableEq, Repr

/-- A length of time as messages show it: whole days, and the seconds of the day that has begun. -/
def renderDuration (seconds : Int) : String :=
  let days := seconds / 86400
  let rest := seconds % 86400
  let parts :=
    (if days = 0 then [] else ["days=" ++ toString days]) ++
      (if rest = 0 then [] else ["seconds=" ++ toString rest])
  "datetime.timedelta(" ++ (if parts.isEmpty then "0" else ", ".intercalate parts) ++ ")"

/-- The wording of a fault. -/
def CalendarFault.message : CalendarFault → String
  | year value => "year " ++ toString value ++ " is out of range"
  | month => "month must be in 1..12"
  | day => "day is out of range for month"
  | hour => "hour must be in 0..23"
  | minute => "minute must be in 0..59"
  | second => "second must be in 0..59"
  | offset seconds =>
      "offset must be a timedelta strictly between -timedelta(hours=24) and timedelta(hours=24), not "
        ++ renderDuration seconds ++ "."

/-- Whether a year has a 29th of February. -/
def isLeapYear (year : Nat) : Bool := year % 4 = 0 && (year % 100 != 0 || year % 400 = 0)

/-- The number of days of a month. -/
def daysInMonth (year month : Nat) : Nat :=
  if month = 2 then (if isLeapYear year then 29 else 28)
  else if [4, 6, 9, 11].contains month then 30
  else 31

/-- A day of the calendar. -/
structure Date where
  /-- The year. -/
  year : Nat
  /-- The month, counted from one. -/
  month : Nat
  /-- The day of the month, counted from one. -/
  day : Nat
  deriving DecidableEq, Repr

namespace Date

/-- The date with the given parts. -/
def ofParts (year month day : Nat) : Except CalendarFault Date :=
  if year = 0 then .error (.year year)
  else if month < 1 ∨ 12 < month then .error .month
  else if day < 1 ∨ daysInMonth year month < day then .error .day
  else .ok ⟨year, month, day⟩

/-- The number of days from the first day of year zero to a date. -/
def dayNumber (date : Date) : Nat :=
  let before := date.year - 1
  let months := (List.range (date.month - 1)).map fun m => daysInMonth date.year (m + 1)
  365 * date.year + before / 4 - before / 100 + before / 400 + months.foldl (· + ·) 0 + date.day

/-- The parts of a date as messages list them. -/
def renderParts (date : Date) : List String :=
  [toString date.year, toString date.month, toString date.day]

/-- A date as messages show it. -/
def render (date : Date) : String := "datetime.date(" ++ ", ".intercalate date.renderParts ++ ")"

end Date

/-- A time of a day. -/
structure DateTime where
  /-- The day. -/
  date : Date
  /-- The hour, counted from zero. -/
  hour : Nat
  /-- The minute. -/
  minute : Nat
  /-- The second. -/
  second : Nat
  /-- The millionths of a second. -/
  microsecond : Nat
  /-- The seconds by which local time is ahead of universal time, if that is known. -/
  offset : Option Int
  deriving DecidableEq, Repr

namespace DateTime

/-- The time of day with the given parts. -/
def ofParts (date : Date) (hour minute second microsecond : Nat) (offset : Option Int) :
    Except CalendarFault DateTime :=
  if 24 ≤ hour then .error .hour
  else if 60 ≤ minute then .error .minute
  else if 60 ≤ second then .error .second
  else .ok ⟨date, hour, minute, second, microsecond, offset⟩

/-- The millionths of a second from the start of year zero to a time, in universal time if the offset
is known. -/
def instant (time : DateTime) : Int :=
  let seconds : Int :=
    ((time.date.dayNumber * 24 + time.hour) * 60 + time.minute) * 60 + time.second
  (seconds - time.offset.getD 0) * 1000000 + time.microsecond

/-- Whether two times are the same instant. A time without an offset is never the same as one that
has an offset. -/
def sameInstant (a b : DateTime) : Bool :=
  a.offset.isSome == b.offset.isSome && a.instant == b.instant

/-- An offset as messages show it. -/
def renderOffset (seconds : Int) : String :=
  if seconds = 0 then "datetime.timezone.utc"
  else "datetime.timezone(" ++ renderDuration seconds ++ ")"

/-- A time as messages show it. Seconds and their millionths are left out where they are zero up to
the end. -/
def render (time : DateTime) : String :=
  let small :=
    if time.microsecond != 0 then [toString time.second, toString time.microsecond]
    else if time.second != 0 then [toString time.second]
    else []
  let zone := match time.offset with
    | some seconds => ["tzinfo=" ++ renderOffset seconds]
    | none => []
  let parts := time.date.renderParts ++ [toString time.hour, toString time.minute] ++ small ++ zone
  "datetime.datetime(" ++ ", ".intercalate parts ++ ")"

end DateTime

end LoxLexer.Yaml
