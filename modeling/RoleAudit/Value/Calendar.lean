import RoleAudit.Text.Hex

/-!
# Dates and moments

Settings may hold calendar dates and moments of the day. Only those that exist can be made; the
first field that is out of its range is reported.
-/

namespace RoleAudit

/-- Why numbers make no date or moment. -/
inductive CalendarError where
  | year (given : Nat)
  | month
  | day
  | hour
  | minute
  | second
  /-- An offset from universal time of a day or more, in seconds. -/
  | offset (seconds : Int)
  deriving Repr, DecidableEq

/-- A day of the calendar. -/
structure Date where
  year : Nat
  month : Nat
  day : Nat
  deriving Repr, DecidableEq, Inhabited

/-- A moment: a day, a time of day, and possibly the offset from universal time in seconds. -/
structure Moment where
  date : Date
  hour : Nat
  minute : Nat
  second : Nat
  microsecond : Nat
  offset : Option Int
  deriving Repr, DecidableEq, Inhabited

namespace Date

/-- Leap years of the Gregorian calendar. -/
def isLeap (year : Nat) : Bool := year % 4 == 0 && (year % 100 != 0 || year % 400 == 0)

/-- The number of days in a month. -/
def daysIn (year month : Nat) : Nat :=
  if month == 2 then (if isLeap year then 29 else 28)
  else if [4, 6, 9, 11].contains month then 30
  else 31

/-- The date of three numbers. -/
def make (year month day : Nat) : Except CalendarError Date :=
  if year < 1 || 9999 < year then .error (.year year)
  else if month < 1 || 12 < month then .error .month
  else if day < 1 || daysIn year month < day then .error .day
  else .ok ⟨year, month, day⟩

/-- The day's number, counted from the first day of year 1. -/
def number (d : Date) : Nat :=
  let y := d.year - 1
  let before := y * 365 + y / 4 - y / 100 + y / 400
  let months := (List.range (d.month - 1)).foldl (fun n m => n + daysIn d.year (m + 1)) 0
  before + months + d.day

/-- Goes over whole years; gives the year and the days left in it. -/
def skipYears : Nat → Nat → Nat → Nat × Nat
  | 0, year, days => (year, days)
  | fuel + 1, year, days =>
    let length := if isLeap year then 366 else 365
    if days < length then (year, days) else skipYears fuel (year + 1) (days - length)

/-- Goes over whole months; gives the month and the days left in it. -/
def skipMonths (year : Nat) : Nat → Nat → Nat → Nat × Nat
  | 0, month, days => (month, days)
  | fuel + 1, month, days =>
    if days < daysIn year month then (month, days)
    else skipMonths year fuel (month + 1) (days - daysIn year month)

/-- The day with a number; see `number`. -/
def ofNumber (n : Nat) : Date :=
  let (year, rest) := skipYears n 1 (n - 1)
  let (month, rest) := skipMonths year 11 1 rest
  ⟨year, month, rest + 1⟩

/-- A date as in `2024-01-02`. -/
def text (d : Date) : String :=
  Text.decimalAtLeast 4 d.year ++ "-" ++ Text.decimalAtLeast 2 d.month ++ "-" ++
    Text.decimalAtLeast 2 d.day

end Date

/-- Seconds in a day. -/
def secondsPerDay : Nat := 86400

/-- An offset in whole days and seconds of a day, as a setting inside a list shows it. -/
def spanText (seconds : Int) : String :=
  let days := seconds.fdiv secondsPerDay
  let rest := seconds.fmod secondsPerDay
  let parts :=
    (if days == 0 then [] else ["days=" ++ toString days]) ++
    (if rest == 0 then [] else ["seconds=" ++ toString rest])
  "datetime.timedelta(" ++ (if parts.isEmpty then "0" else ", ".intercalate parts) ++ ")"

namespace Moment

/-- The moment of a date and a time of day. -/
def make (year month day hour minute second microsecond : Nat) (offset : Option Int) :
    Except CalendarError Moment := do
  let tooFar := match offset with
    | some seconds => decide (secondsPerDay ≤ seconds.natAbs)
    | none => false
  if tooFar then throw (.offset (offset.getD 0))
  let date ← Date.make year month day
  if 23 < hour then throw .hour
  if 59 < minute then throw .minute
  if 59 < second then throw .second
  pure ⟨date, hour, minute, second, microsecond, offset⟩

/-- Microseconds since the first day of year 1, in universal time if the offset is known. -/
def instant (m : Moment) : Int :=
  let seconds := ((m.date.number * 24 + m.hour) * 60 + m.minute) * 60 + m.second
  ((seconds : Int) - m.offset.getD 0) * 1000000 + m.microsecond

/-- Two moments are the same instant; one with an offset is never the same as one without. -/
def same (a b : Moment) : Bool :=
  a.offset.isSome == b.offset.isSome && a.instant == b.instant

/-- An offset as in `+02:00`. -/
def offsetText (seconds : Int) : String :=
  let n := seconds.natAbs
  (if seconds < 0 then "-" else "+") ++ Text.decimalAtLeast 2 (n / 3600) ++ ":" ++
    Text.decimalAtLeast 2 (n / 60 % 60)

/-- A moment as in `2024-01-02 03:04:05.500000+02:00`. -/
def text (m : Moment) : String :=
  m.date.text ++ " " ++ Text.decimalAtLeast 2 m.hour ++ ":" ++ Text.decimalAtLeast 2 m.minute ++
    ":" ++ Text.decimalAtLeast 2 m.second ++
    (if m.microsecond == 0 then "" else "." ++ Text.decimalAtLeast 6 m.microsecond) ++
    (match m.offset with
      | none => ""
      | some seconds => offsetText seconds)

/-- The number of the day from which seconds are counted by common clocks, 1 January 1970. -/
def epochDay : Nat := 719163

/-- The moment so many microseconds after the epoch, in universal time. -/
def ofEpoch (microseconds : Nat) : Moment :=
  let seconds := microseconds / 1000000
  let rest := seconds % secondsPerDay
  { date := Date.ofNumber (epochDay + seconds / secondsPerDay)
    hour := rest / 3600, minute := rest / 60 % 60, second := rest % 60
    microsecond := microseconds % 1000000, offset := some 0 }

/-- A moment as in `2024-01-02T03:04:05.500000+00:00`. -/
def stamp (m : Moment) : String :=
  String.ofList (m.text.toList.map fun c => if c == ' ' then 'T' else c)

/-- A moment as a setting inside a list shows it. -/
def literal (m : Moment) : String :=
  let numbers := [m.date.year, m.date.month, m.date.day, m.hour, m.minute, m.second, m.microsecond]
  let shown :=
    if m.microsecond != 0 then numbers
    else if m.second != 0 then numbers.dropLast
    else numbers.dropLast.dropLast
  let zone := match m.offset with
    | none => []
    | some 0 => ["tzinfo=datetime.timezone.utc"]
    | some seconds => ["tzinfo=datetime.timezone(" ++ spanText seconds ++ ")"]
  "datetime.datetime(" ++ ", ".intercalate (shown.map toString ++ zone) ++ ")"

end Moment

/-- A date as a setting inside a list shows it. -/
def Date.literal (d : Date) : String :=
  "datetime.date(" ++ toString d.year ++ ", " ++ toString d.month ++ ", " ++ toString d.day ++ ")"

/-- The wording of the refusal of a date or moment. -/
def CalendarError.message : CalendarError → String
  | year given => "year " ++ toString given ++ " is out of range"
  | month => "month must be in 1..12"
  | day => "day is out of range for month"
  | hour => "hour must be in 0..23"
  | minute => "minute must be in 0..59"
  | second => "second must be in 0..59"
  | offset seconds =>
    "offset must be a timedelta strictly between -timedelta(hours=24) and timedelta(hours=24), " ++
      "not " ++ spanText seconds ++ "."

end RoleAudit
