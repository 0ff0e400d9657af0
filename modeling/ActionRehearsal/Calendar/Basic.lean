/-!
# Dates and times

A `Date` is a day of the Gregorian calendar in the years 1 to 9999, a `Moment` a time of such a
day, with or without an offset from universal time. `Date.make` and `Moment.make` check their
parts in a fixed order and name the first that is out of range.
-/

set_option autoImplicit false

namespace ActionRehearsal.Calendar

/-- A day. -/
structure Date where
  year : Nat
  month : Nat
  day : Nat
  deriving DecidableEq

/-- A time of day, with an optional offset from universal time in minutes. -/
structure Moment where
  date : Date
  hour : Nat
  minute : Nat
  second : Nat
  microsecond : Nat
  offset : Option Int
  deriving DecidableEq

/-- Which part of a date or time is out of range. -/
inductive CalendarFault where
  | year (value : Nat)
  | month
  | day
  | hour
  | minute
  | second
  | offset (minutes : Int)
  deriving DecidableEq

/-- Whether February has 29 days. -/
def isLeapYear (year : Nat) : Bool :=
  year % 4 == 0 && (year % 100 != 0 || year % 400 == 0)

/-- The number of days of a month. -/
def daysInMonth (year month : Nat) : Nat :=
  if month = 2 then (if isLeapYear year then 29 else 28)
  else if month = 4 || month = 6 || month = 9 || month = 11 then 30
  else 31

/-- The day with the given year, month and day of the month. -/
def Date.make (year month day : Nat) : Except CalendarFault Date :=
  if year < 1 || 9999 < year then .error (.year year)
  else if month < 1 || 12 < month then .error .month
  else if day < 1 || daysInMonth year month < day then .error .day
  else .ok ⟨year, month, day⟩

/-- The moment with the given parts. The offset is checked first: its size is below a day. -/
def Moment.make (year month day hour minute second microsecond : Nat) (offset : Option Int) :
    Except CalendarFault Moment := do
  if let some minutes := offset then
    if 24 * 60 ≤ minutes.natAbs then throw (.offset minutes)
  let date ← Date.make year month day
  if 23 < hour then throw .hour
  if 59 < minute then throw .minute
  if 59 < second then throw .second
  return ⟨date, hour, minute, second, microsecond, offset⟩

/-- The number of a day in the sequence of all days, the first day of March of the year 0 being
day 0. -/
def Date.dayNumber (d : Date) : Int :=
  let year : Int := if d.month ≤ 2 then (d.year : Int) - 1 else d.year
  let month : Int := if d.month ≤ 2 then (d.month : Int) + 9 else (d.month : Int) - 3
  365 * year + year / 4 - year / 100 + year / 400 + (153 * month + 2) / 5 + (d.day : Int) - 1

/-- The microseconds from the start of day 0 to a moment on its own clock. -/
def Moment.clock (m : Moment) : Int :=
  ((m.date.dayNumber * 24 + m.hour) * 60 + m.minute) * 60000000
    + (m.second : Int) * 1000000 + m.microsecond

/-- Whether two moments are the same: with offsets, the same instant; without, the same clock. -/
def Moment.same (a b : Moment) : Bool :=
  match a.offset, b.offset with
  | some p, some q => a.clock - p * 60000000 == b.clock - q * 60000000
  | none, none => a.clock == b.clock
  | _, _ => false

/-! ## Text -/

/-- A number padded with zeros to a least width. -/
def padded (width n : Nat) : String :=
  let digits := toString n
  String.ofList (List.replicate (width - digits.length) '0') ++ digits

/-- A day as year, month and day of the month. -/
def Date.text (d : Date) : String :=
  padded 4 d.year ++ "-" ++ padded 2 d.month ++ "-" ++ padded 2 d.day

/-- An offset as a sign, hours and minutes. -/
def offsetText (minutes : Int) : String :=
  (if minutes < 0 then "-" else "+") ++ padded 2 (minutes.natAbs / 60) ++ ":"
    ++ padded 2 (minutes.natAbs % 60)

/-- A moment as its day and its time, `separator` between them; microseconds only if there are
any. -/
def Moment.text (separator : String) (m : Moment) : String :=
  m.date.text ++ separator ++ padded 2 m.hour ++ ":" ++ padded 2 m.minute ++ ":"
    ++ padded 2 m.second
    ++ (if m.microsecond = 0 then "" else "." ++ padded 6 m.microsecond)
    ++ (match m.offset with | none => "" | some minutes => offsetText minutes)

/-! ## Constructor notation

Inside containers a value is shown by the expression that builds it. -/

/-- A span of time as the expression that builds it: whole days, which may be negative, and the
seconds left. -/
def spanExpression (minutes : Int) : String :=
  let days := Int.fdiv minutes 1440
  let seconds := (minutes - days * 1440) * 60
  let parts := (if days = 0 then [] else ["days=" ++ toString days])
    ++ (if seconds = 0 then [] else ["seconds=" ++ toString seconds])
  "datetime.timedelta(" ++ (if parts.isEmpty then "0" else ", ".intercalate parts) ++ ")"

/-- A day as the expression that builds it. -/
def Date.expression (d : Date) : String :=
  "datetime.date(" ++ ", ".intercalate [toString d.year, toString d.month, toString d.day] ++ ")"

/-- An offset as the expression that builds it. -/
def offsetExpression (minutes : Int) : String :=
  if minutes = 0 then "datetime.timezone.utc"
  else "datetime.timezone(" ++ spanExpression minutes ++ ")"

/-- A moment as the expression that builds it; zero seconds and microseconds at the end of the
arguments are left out. -/
def Moment.expression (m : Moment) : String :=
  let clock :=
    if m.microsecond ≠ 0 then [m.hour, m.minute, m.second, m.microsecond]
    else if m.second ≠ 0 then [m.hour, m.minute, m.second]
    else [m.hour, m.minute]
  let arguments := ([m.date.year, m.date.month, m.date.day] ++ clock).map toString
  let zone := match m.offset with
    | none => []
    | some minutes => ["tzinfo=" ++ offsetExpression minutes]
  "datetime.datetime(" ++ ", ".intercalate (arguments ++ zone) ++ ")"

/-- The wording of a fault. -/
def CalendarFault.message : CalendarFault → String
  | .year value => "year " ++ toString value ++ " is out of range"
  | .month => "month must be in 1..12"
  | .day => "day is out of range for month"
  | .hour => "hour must be in 0..23"
  | .minute => "minute must be in 0..59"
  | .second => "second must be in 0..59"
  | .offset minutes =>
    "offset must be a timedelta strictly between -timedelta(hours=24) and timedelta(hours=24), not "
      ++ spanExpression minutes ++ "."

end ActionRehearsal.Calendar
