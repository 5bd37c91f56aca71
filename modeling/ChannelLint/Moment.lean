/-!
# Dates and times

Calendar dates, times of day and date-times with an optional offset from universal time, as a
configuration may hold them, and their two written forms: the plain one and the constructor call
that stands inside a written array or table.
-/

namespace ChannelLint

/-- A calendar date. -/
structure Date where
  /-- The year, from 1 to 9999. -/
  year : Nat
  /-- The month, from 1 to 12. -/
  month : Nat
  /-- The day of the month. -/
  day : Nat
  deriving DecidableEq, Repr

/-- A time of day. -/
structure TimeOfDay where
  /-- The hour. -/
  hour : Nat
  /-- The minute. -/
  minute : Nat
  /-- The second. -/
  second : Nat
  /-- The microsecond. -/
  microsecond : Nat
  deriving DecidableEq, Repr

/-- A date, a time, or both with an optional offset from universal time in minutes. -/
inductive Moment where
  /-- A date alone. -/
  | date (date : Date)
  /-- A time of day alone. -/
  | time (time : TimeOfDay)
  /-- A date and a time of day; the offset is in minutes. -/
  | dateTime (date : Date) (time : TimeOfDay) (offset : Option Int)
  deriving DecidableEq, Repr

/-- The decimal digits of a number, padded with zeros to the given length. -/
def padded (length value : Nat) : String :=
  let digits := Nat.toDigits 10 value
  String.ofList (List.replicate (length - digits.length) '0' ++ digits)

/-- Whether the year has a leap day. -/
def isLeapYear (year : Nat) : Bool :=
  year % 4 == 0 && (year % 100 != 0 || year % 400 == 0)

/-- The number of days of a month. -/
def daysInMonth (year month : Nat) : Nat :=
  if month == 2 then (if isLeapYear year then 29 else 28)
  else if [4, 6, 9, 11].contains month then 30
  else 31

/-- Whether the date exists. -/
def Date.isValid (date : Date) : Bool :=
  1 ≤ date.year && date.year ≤ 9999 && 1 ≤ date.month && date.month ≤ 12 &&
    1 ≤ date.day && date.day ≤ daysInMonth date.year date.month

/-- Whether the time of day exists. -/
def TimeOfDay.isValid (time : TimeOfDay) : Bool :=
  time.hour < 24 && time.minute < 60 && time.second < 60 && time.microsecond < 1000000

/-- The date as year, month and day. -/
def Date.text (date : Date) : String :=
  padded 4 date.year ++ "-" ++ padded 2 date.month ++ "-" ++ padded 2 date.day

/-- The time of day, with microseconds only when there are some. -/
def TimeOfDay.text (time : TimeOfDay) : String :=
  padded 2 time.hour ++ ":" ++ padded 2 time.minute ++ ":" ++ padded 2 time.second ++
    (if time.microsecond == 0 then "" else "." ++ padded 6 time.microsecond)

/-- An offset as signed hours and minutes. -/
def offsetText (minutes : Int) : String :=
  (if minutes < 0 then "-" else "+") ++ padded 2 (minutes.natAbs / 60) ++ ":" ++
    padded 2 (minutes.natAbs % 60)

/-- The plain form of a moment. -/
def Moment.text : Moment → String
  | date d => d.text
  | time t => t.text
  | dateTime d t offset =>
      d.text ++ " " ++ t.text ++ (match offset with
        | some minutes => offsetText minutes
        | none => "")

/-- The arguments that name a time of day: trailing zero seconds and microseconds are left out. -/
def TimeOfDay.arguments (time : TimeOfDay) : List String :=
  let always := [toString time.hour, toString time.minute]
  if time.microsecond != 0 then always ++ [toString time.second, toString time.microsecond]
  else if time.second != 0 then always ++ [toString time.second]
  else always

/-- The arguments that name a date. -/
def Date.arguments (date : Date) : List String :=
  [toString date.year, toString date.month, toString date.day]

/-- The constructor call of an offset: a count of seconds, taken from a whole number of days before
when negative. -/
def offsetCall (minutes : Int) : String :=
  if minutes == 0 then "datetime.timezone.utc"
  else if minutes < 0 then
    let seconds := toString (86400 + minutes * 60)
    "datetime.timezone(datetime.timedelta(days=-1, seconds=" ++ seconds ++ "))"
  else
    let seconds := toString (minutes * 60)
    "datetime.timezone(datetime.timedelta(seconds=" ++ seconds ++ "))"

/-- The constructor call of a moment. -/
def Moment.call : Moment → String
  | date d => "datetime.date(" ++ ", ".intercalate d.arguments ++ ")"
  | time t => "datetime.time(" ++ ", ".intercalate t.arguments ++ ")"
  | dateTime d t offset =>
      let zone := match offset with
        | some minutes => ["tzinfo=" ++ offsetCall minutes]
        | none => []
      "datetime.datetime(" ++ ", ".intercalate (d.arguments ++ t.arguments ++ zone) ++ ")"

end ChannelLint
