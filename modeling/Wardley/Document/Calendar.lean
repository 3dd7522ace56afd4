/-!
# Dates and points in time

A document may hold a day of the calendar or a point in time with a precision of
microseconds.  A point in time may carry its offset from universal time; then it stands
for an instant, and otherwise for a reading of some local clock.

Main definitions:

- `Day`, `Moment`, `Timestamp`.
- `Timestamp.check`: the timestamp, if all of its parts are in range.
- `Timestamp.same`, `Timestamp.below?`: equality, and the order of comparable ones.
- `Timestamp.display`, `Timestamp.text`: the text within messages and within documents.
-/

namespace Wardley

/-- A day of the calendar. -/
structure Day where
  year : Nat
  month : Nat
  day : Nat
  deriving DecidableEq, Repr

/-- A point in time. -/
structure Moment where
  date : Day
  hour : Nat
  minute : Nat
  second : Nat
  microsecond : Nat
  /-- Seconds ahead of universal time. -/
  offset : Option Int
  deriving DecidableEq, Repr

/-- A day or a point in time. -/
inductive Timestamp where
  | day (day : Day)
  | moment (moment : Moment)
  deriving DecidableEq, Repr

/-! ## Range -/

/-- A part of a timestamp that is out of range. -/
inductive CalendarError where
  | year (found : Nat)
  | month
  | day
  | hour
  | minute
  | second
  | offset (seconds : Int)
  deriving DecidableEq, Repr

/-- The year has a day more. -/
def isLeapYear (year : Nat) : Bool := year % 4 == 0 && (year % 100 != 0 || year % 400 == 0)

/-- The number of days of a month. -/
def daysOfMonth (year month : Nat) : Nat :=
  if month = 2 then (if isLeapYear year then 29 else 28)
  else if month = 4 ∨ month = 6 ∨ month = 9 ∨ month = 11 then 30
  else 31

/-- The seconds of a day. -/
def daySeconds : Nat := 86400

/-- The day, if its parts are in range. -/
def Day.check (date : Day) : Except CalendarError Day :=
  if date.year = 0 then .error (.year date.year)
  else if date.month = 0 ∨ 12 < date.month then .error .month
  else if date.day = 0 ∨ daysOfMonth date.year date.month < date.day then .error .day
  else .ok date

/-- The point in time, if its parts are in range. -/
def Moment.check (moment : Moment) : Except CalendarError Moment := do
  match moment.offset with
  | some seconds => if daySeconds ≤ seconds.natAbs then throw (.offset seconds)
  | none => pure ()
  let _ ← moment.date.check
  if 23 < moment.hour then throw .hour
  if 59 < moment.minute then throw .minute
  if 59 < moment.second then throw .second
  pure moment

/-- The timestamp, if its parts are in range. -/
def Timestamp.check : Timestamp → Except CalendarError Timestamp
  | .day date => date.check.map .day
  | .moment found => found.check.map .moment

/-! ## Order -/

/-- The number of days before a day, counted from the first day of the year one. -/
def Day.number (date : Day) : Nat :=
  let past := date.year - 1
  let months := (List.range (date.month - 1)).foldl
    (fun days before => days + daysOfMonth date.year (before + 1)) 0
  past * 365 + past / 4 - past / 100 + past / 400 + months + (date.day - 1)

/-- Microseconds since the first day of the year one, of universal time if there is an offset. -/
def Moment.instant (moment : Moment) : Int :=
  let clock := (moment.hour * 60 + moment.minute) * 60 + moment.second
  let seconds : Int := moment.date.number * daySeconds + clock - moment.offset.getD 0
  seconds * 1000000 + moment.microsecond

/-- Equality of timestamps: points in time are equal when they are the same instant. -/
def Timestamp.same : Timestamp → Timestamp → Bool
  | .day a, .day b => a == b
  | .moment a, .moment b => a.offset.isSome == b.offset.isSome && a.instant == b.instant
  | _, _ => false

/--
The order of timestamps: days are comparable, and so are points in time that both have an
offset or both have none.
-/
def Timestamp.below? : Timestamp → Timestamp → Option Bool
  | .day a, .day b => some (decide (a.number < b.number))
  | .moment a, .moment b =>
    if a.offset.isSome == b.offset.isSome then some (decide (a.instant < b.instant)) else none
  | _, _ => none

/-! ## Texts -/

/-- A number with zeros in front up to a width. -/
def padded (width value : Nat) : String :=
  let digits := toString value
  String.ofList (List.replicate (width - digits.length) '0') ++ digits

/-- The text of a length of time within a message. -/
def durationText (seconds : Int) : String :=
  let days := seconds / daySeconds
  let rest := seconds % daySeconds
  let parts :=
    (if days = 0 then [] else ["days=" ++ toString days])
      ++ (if rest = 0 then [] else ["seconds=" ++ toString rest])
  "datetime.timedelta(" ++ (if parts.isEmpty then "0" else String.intercalate ", " parts) ++ ")"

/-- The wording of an error. -/
def CalendarError.message : CalendarError → String
  | year found => "year " ++ toString found ++ " is out of range"
  | month => "month must be in 1..12"
  | day => "day is out of range for month"
  | hour => "hour must be in 0..23"
  | minute => "minute must be in 0..59"
  | second => "second must be in 0..59"
  | offset seconds =>
    "offset must be a timedelta strictly between -timedelta(hours=24) and "
      ++ "timedelta(hours=24), not " ++ durationText seconds ++ "."

/-- The parts of a day, separated by commas. -/
def Day.parts (date : Day) : List String :=
  [toString date.year, toString date.month, toString date.day]

/-- The parts of the time of day that are written: seconds only if something follows. -/
def Moment.clockParts (moment : Moment) : List String :=
  [toString moment.hour, toString moment.minute]
    ++ (if moment.second = 0 ∧ moment.microsecond = 0 then [] else [toString moment.second])
    ++ (if moment.microsecond = 0 then [] else [toString moment.microsecond])

/-- The offset of a point in time within a message. -/
def offsetText (seconds : Int) : String :=
  if seconds = 0 then "datetime.timezone.utc"
  else "datetime.timezone(" ++ durationText seconds ++ ")"

/-- The text of a timestamp within a message. -/
def Timestamp.display : Timestamp → String
  | .day date => "datetime.date(" ++ String.intercalate ", " date.parts ++ ")"
  | .moment found =>
    let zone := found.offset.toList.map fun seconds => "tzinfo=" ++ offsetText seconds
    "datetime.datetime("
      ++ String.intercalate ", " (found.date.parts ++ found.clockParts ++ zone) ++ ")"

/-- A day as a document writes it. -/
def Day.text (date : Day) : String :=
  padded 4 date.year ++ "-" ++ padded 2 date.month ++ "-" ++ padded 2 date.day

/-- A timestamp as a document writes it. -/
def Timestamp.text : Timestamp → String
  | .day date => date.text
  | .moment found =>
    let clock :=
      padded 2 found.hour ++ ":" ++ padded 2 found.minute ++ ":" ++ padded 2 found.second
    let fraction := if found.microsecond = 0 then "" else "." ++ padded 6 found.microsecond
    let zone :=
      match found.offset with
      | none => ""
      | some seconds =>
        let minutes := seconds.natAbs / 60
        (if seconds < 0 then "-" else "+") ++ padded 2 (minutes / 60) ++ ":"
          ++ padded 2 (minutes % 60)
    found.date.text ++ " " ++ clock ++ fraction ++ zone

end Wardley
