import Wardley.Document.Calendar
import Wardley.Text.Digit

/-!
# Timestamps of YAML texts

A day is written with four, two and two digits.  A time of day stands behind the letter `T`
or blanks; then one digit is enough for the month, the day and the hour.  A fraction of a
second counts up to microseconds, and an offset from universal time may end the text.

Main definitions:

- `timestamp?`: the timestamp of a text, its parts in any range.
-/

namespace Wardley
namespace Yaml

open Text (naturalOf)

/-! ## Parts -/

/--
The digits that a text starts with, if their number is one of those given, and the rest.
-/
def takeCount? (counts : List Nat) (text : List Char) : Option (List Char × List Char) :=
  let digits := text.takeWhile Char.isDigit
  if counts.contains digits.length then some (digits, text.dropWhile Char.isDigit) else none

/-- The rest behind a character. -/
def after? (c : Char) : List Char → Option (List Char)
  | d :: rest => if c = d then some rest else none
  | [] => none

/-- Digits as `takeCount?` takes them, and the rest behind a character. -/
def takePart? (counts : List Nat) (mark : Char) (text : List Char) :
    Option (List Char × List Char) := do
  let (digits, rest) ← takeCount? counts text
  pure (digits, ← after? mark rest)

/-- Blanks between the parts of a timestamp. -/
def isTimeBlank (c : Char) : Bool := c = ' ' || c = '\t'

/-! ## Time of day -/

/-- The microseconds of the digits of a fraction; those behind the sixth do not count. -/
def microseconds (digits : List Char) : Nat :=
  naturalOf ((digits ++ List.replicate 6 '0').take 6)

/-- The seconds of an offset of hours and minutes. -/
def offsetSeconds (negative : Bool) (hours minutes : List Char) : Int :=
  let seconds : Int := (naturalOf hours * 60 + naturalOf minutes) * 60
  if negative then -seconds else seconds

/-- The offset that ends a text: nothing, `Z`, or hours with or without minutes. -/
def zone? (text : List Char) : Option (Option Int) :=
  match text.dropWhile isTimeBlank with
  | [] => if text.isEmpty then some none else none
  | ['Z'] => some (some 0)
  | sign :: rest =>
    if sign = '+' ∨ sign = '-' then do
      let (hours, more) ← takeCount? [1, 2] rest
      if more.isEmpty then pure (some (offsetSeconds (sign = '-') hours []))
      else
        let (minutes, final) ← takeCount? [2] (← after? ':' more)
        if final.isEmpty then pure (some (offsetSeconds (sign = '-') hours minutes)) else none
    else none

/-- A text behind what separates a time of day from its date. -/
def behindSeparator? : List Char → Option (List Char)
  | c :: rest =>
    if c = 'T' ∨ c = 't' then some rest
    else if isTimeBlank c then some (rest.dropWhile isTimeBlank)
    else none
  | [] => none

/-- The point in time of a date with a time of day behind it. -/
def moment? (date : Day) (text : List Char) : Option Moment := do
  let (hour, afterHour) ← takePart? [1, 2] ':' (← behindSeparator? text)
  let (minute, afterMinute) ← takePart? [2] ':' afterHour
  let (second, afterSecond) ← takeCount? [2] afterMinute
  let (fraction, rest) :=
    match afterSecond with
    | '.' :: more => more.span Char.isDigit
    | more => ([], more)
  let offset ← zone? rest
  pure ⟨date, naturalOf hour, naturalOf minute, naturalOf second,
    microseconds fraction, offset⟩

/-! ## Timestamps -/

/-- The timestamp of a text, its parts in any range. -/
def timestamp? (text : List Char) : Option Timestamp := do
  let (year, afterYear) ← takePart? [4] '-' text
  let (month, afterMonth) ← takePart? [1, 2] '-' afterYear
  let (day, rest) ← takeCount? [1, 2] afterMonth
  let date : Day := ⟨naturalOf year, naturalOf month, naturalOf day⟩
  if rest.isEmpty then
    if month.length = 2 ∧ day.length = 2 then pure (.day date) else none
  else pure (.moment (← moment? date rest))

end Yaml
end Wardley
