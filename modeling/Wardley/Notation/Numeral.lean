import Wardley.Notation.Fault
import Wardley.Text.Blank
import Wardley.Text.Digit
import Wardley.Text.Split

/-!
# Numerals of the notation

A numeral is an optional sign, digits with an optional point and further digits, or a
point and digits, and an optional exponent.  Digits are those of any script.

Main definitions:

- `decimal?`: the decimal that a numeral denotes.
- `readNumber`: a trimmed numeral as a double, or a fault.
- `readNumbers`: a list of numerals separated by commas.
-/

namespace Wardley
namespace Notation

open Text

/-- A leading sign, which is minus or not, and the rest. -/
def takeSign : List Char → Bool × List Char
  | '-' :: rest => (true, rest)
  | '+' :: rest => (false, rest)
  | rest => (false, rest)

/-- Whole digits, fractional digits and the rest; one of the two has a digit. -/
def takeMantissa? (text : List Char) : Option (List Char × List Char × List Char) :=
  match spanDigits text with
  | ([], '.' :: rest) =>
    match spanDigits rest with
    | ([], _) => none
    | (fraction, others) => some ([], fraction, others)
  | ([], _) => none
  | (whole, '.' :: rest) =>
    let fraction := spanDigits rest
    some (whole, fraction.1, fraction.2)
  | (whole, rest) => some (whole, [], rest)

/-- The value of an exponent part, zero for none. -/
def exponentPart? : List Char → Option Int
  | [] => some 0
  | c :: rest =>
    if c = 'e' ∨ c = 'E' then
      let (negative, digits) := takeSign rest
      if digits.isEmpty || !digits.all isDigit then none
      else
        let value : Int := naturalOf digits
        some (if negative then -value else value)
    else none

/-- The decimal that a numeral denotes. -/
def decimal? (token : List Char) : Option Decimal :=
  let (negative, unsigned) := takeSign token
  match takeMantissa? unsigned with
  | none => none
  | some (whole, fraction, rest) =>
    (exponentPart? rest).map fun exponent =>
      ⟨negative, naturalOf (whole ++ fraction), exponent - fraction.length⟩

/-- The double that a numeral denotes. -/
def numeral? (token : List Char) : Option Double := (decimal? token).map Double.ofDecimal

/-- A trimmed numeral as a double; `what` names the number in the fault. -/
def readNumber (what : String) (token : List Char) : Except Fault Double :=
  match numeral? (trim token) with
  | some value => .ok value
  | none => .error (.invalidNumber what (String.ofList (trim token)))

/-- The trimmed parts of a list separated by commas; a blank text has none. -/
def commaParts (text : List Char) : List (List Char) :=
  match (List.splitOn ',' text).map trim with
  | [[]] => []
  | parts => parts

/-- A list of numerals of one of the expected lengths. -/
def readNumbers (expected : List Int) (what : String) (text : List Char) :
    Except Fault (List Double) :=
  let parts := commaParts text
  if expected.contains (parts.length : Int) then parts.mapM (readNumber what)
  else .error (.wrongCount expected (String.ofList (trim text)) parts.length)

/-- A pair of numerals separated by a comma. -/
def readPair (what : String) (text : List Char) : Except Fault (Double × Double) :=
  match commaParts text with
  | [first, second] => do
    let a ← readNumber what first
    let b ← readNumber what second
    pure (a, b)
  | parts => .error (.wrongCount [2] (String.ofList (trim text)) parts.length)

/-- A single numeral. -/
def readSingle (what : String) (text : List Char) : Except Fault Double :=
  match commaParts text with
  | [only] => readNumber what only
  | parts => .error (.wrongCount [1] (String.ofList (trim text)) parts.length)

end Notation
end Wardley
