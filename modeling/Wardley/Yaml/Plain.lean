import Wardley.Document.Literal
import Wardley.Document.Scalar
import Wardley.Text.Split
import Wardley.Yaml.Timestamp

/-!
# Plain scalars of YAML

A scalar without quotes stands for a boolean, a number, a timestamp or null if it has the
form of one, and for itself otherwise.  Integers may be written in base two, eight, ten,
sixteen and sixty, with underscores among the digits; a float has a point.  What has such
a form may lack a value.

Main definitions:

- `Meaning`: what a plain scalar stands for.
- `meaning`: the meaning of a text.
- `readsAsText`: a text that stands for itself.
-/

namespace Wardley
namespace Yaml

open Text

/-- What a plain scalar stands for. -/
inductive Meaning where
  | scalar (value : Scalar)
  /-- A literal without a value. -/
  | invalid (error : LiteralError)
  /-- A mark that has a meaning among the keys of a mapping only. -/
  | mark
  deriving DecidableEq, Repr

/-! ## Words -/

/-- The words for true. -/
def trueWords : List String := ["yes", "Yes", "YES", "true", "True", "TRUE", "on", "On", "ON"]

/-- The words for false. -/
def falseWords : List String := ["no", "No", "NO", "false", "False", "FALSE", "off", "Off", "OFF"]

/-- The words for null. -/
def nullWords : List String := ["~", "null", "Null", "NULL", ""]

/-- The words for infinity, without a sign. -/
def infinityWords : List String := [".inf", ".Inf", ".INF"]

/-- The words for the value that is not a number. -/
def nanWords : List String := [".nan", ".NaN", ".NAN"]

/-! ## Digits -/

/-- A leading sign, which is minus or not, and the rest. -/
def takeSign : List Char → Bool × List Char
  | '-' :: rest => (true, rest)
  | '+' :: rest => (false, rest)
  | rest => (false, rest)

/-- Decimal digits and underscores. -/
def isDecimalChar (c : Char) : Bool := c.isDigit || c = '_'

/-- Hexadecimal digits and underscores. -/
def isHexadecimalChar (c : Char) : Bool :=
  c.isDigit || ('a' ≤ c && c ≤ 'f') || ('A' ≤ c && c ≤ 'F') || c = '_'

/-- Octal digits and underscores. -/
def isOctalChar (c : Char) : Bool := ('0' ≤ c && c ≤ '7') || c = '_'

/-- Binary digits and underscores. -/
def isBinaryChar (c : Char) : Bool := c = '0' || c = '1' || c = '_'

/-- The value of a digit of any base up to sixteen. -/
def digitOf (c : Char) : Nat :=
  if c.isDigit then c.toNat - '0'.toNat
  else if 'a' ≤ c ∧ c ≤ 'f' then c.toNat - 'a'.toNat + 10
  else c.toNat - 'A'.toNat + 10

/-- The natural number that digits denote in a base; underscores are skipped. -/
def inBase (base : Nat) (digits : List Char) : Nat :=
  (digits.filter (· != '_')).foldl (fun total c => total * base + digitOf c) 0

/-- The natural number of digits in a base that is a power of two. -/
def binaryNatural (base : Nat) (digits : List Char) : Except LiteralError Nat :=
  if digits.all (· = '_') then .error (.noDigits base) else .ok (inBase base digits)

/-- The natural number of decimal digits. -/
def decimalNatural (digits : List Char) : Except LiteralError Nat :=
  (checkDigits (digits.filter (· != '_')).length).map fun _ => inBase 10 digits

/-- A digit up to five and a digit, or a digit alone: a place in base sixty. -/
def isSixtieth : List Char → Bool
  | [c] => c.isDigit
  | [c, d] => '0' ≤ c && c ≤ '5' && d.isDigit
  | _ => false

/-- The natural number that places in base sixty denote, the highest first. -/
def sexagesimalNatural (highest : List Char) (places : List (List Char)) :
    Except LiteralError Nat :=
  (decimalNatural highest).map fun first =>
    places.foldl (fun total place => total * 60 + inBase 10 place) first

/-! ## Integers -/

/-- Digits that begin with a digit from one to nine. -/
def isDecimalNatural : List Char → Bool
  | c :: rest => c.isDigit && c != '0' && rest.all isDecimalChar
  | [] => false

/-- The natural number of an integer without its sign, if the text has the form of one. -/
def natural? (unsigned : List Char) : Option (Except LiteralError Nat) :=
  match unsigned with
  | ['0'] => some (.ok 0)
  | '0' :: 'b' :: d :: rest =>
    if (d :: rest).all isBinaryChar then some (binaryNatural 2 (d :: rest)) else none
  | '0' :: 'x' :: d :: rest =>
    if (d :: rest).all isHexadecimalChar then some (binaryNatural 16 (d :: rest)) else none
  | '0' :: rest => if rest.all isOctalChar then some (.ok (inBase 8 rest)) else none
  | _ =>
    match List.splitOn ':' unsigned with
    | [only] => if isDecimalNatural only then some (decimalNatural only) else none
    | first :: places =>
      if isDecimalNatural first && places.all isSixtieth then
        some (sexagesimalNatural first places)
      else none
    | [] => none

/-- The integer of a plain scalar, if it has the form of one. -/
def integer? (text : List Char) : Option (Except LiteralError Int) :=
  let (negative, unsigned) := takeSign text
  (natural? unsigned).map fun found =>
    found.map fun value => if negative then -(value : Int) else value

/-! ## Floats -/

/-- Digits that begin with a digit. -/
def isFloatWhole : List Char → Bool
  | c :: rest => c.isDigit && rest.all isDecimalChar
  | [] => false

/-- The value of an exponent part, whose sign must be written; zero for none. -/
def exponent? : List Char → Option Int
  | [] => some 0
  | e :: sign :: digits =>
    if (e = 'e' ∨ e = 'E') ∧ (sign = '+' ∨ sign = '-') ∧ !digits.isEmpty ∧ digits.all Char.isDigit
    then
      let value : Int := inBase 10 digits
      some (if sign = '-' then -value else value)
    else none
  | _ => none

/-- The decimal of whole digits and what follows the point. -/
def pointed? (negative : Bool) (whole rest : List Char) : Option Decimal :=
  let fraction := (rest.takeWhile isDecimalChar).filter (· != '_')
  (exponent? (rest.dropWhile isDecimalChar)).map fun exponent =>
    ⟨negative, inBase 10 (whole ++ fraction), exponent - fraction.length⟩

/--
Adds places in base sixty, the lowest first, to a double; `unit` is the weight of the
lowest one.  Weights, products and sums are rounded; a weight must be finite.
-/
def addPlaces (negative : Bool) (total : Double) (unit : Nat) :
    List (List Char) → Except LiteralError Double
  | [] => .ok total
  | place :: higher =>
    let weight := Double.ofRatio false unit 1
    if weight.isFinite then
      let scaled := Double.productOfMagnitudes negative (.ofRatio false (inBase 10 place) 1) weight
      addPlaces negative (.sumOfMagnitudes negative total scaled) (unit * 60) higher
    else .error .tooLarge

/-- The double of places in base sixty with a point in the last one. -/
def sixtieths? (negative : Bool) (first : List Char) (places : List (List Char))
    (fraction : List Char) : Option (Except LiteralError Double) :=
  if isFloatWhole first && places.all isSixtieth && fraction.all isDecimalChar then
    let digits := fraction.filter (· != '_')
    match (first :: places).reverse with
    | lowest :: higher =>
      let total := .ofDecimal ⟨negative, inBase 10 (lowest ++ digits), -digits.length⟩
      some (addPlaces negative total 60 higher)
    | [] => none
  else none

/-- The payload of what is not a number in a YAML text. -/
def nanPayload : Nat := 2

/-- The double of a plain scalar, if it has the form of one. -/
def float? (text : List Char) : Option (Except LiteralError Double) :=
  let (negative, unsigned) := takeSign text
  let decimal (found : Option Decimal) : Option (Except LiteralError Double) :=
    found.map fun value => .ok (.ofDecimal value)
  if infinityWords.contains (String.ofList unsigned) then some (.ok (.infinity negative))
  else if nanWords.contains (String.ofList text) then some (.ok (.nan nanPayload))
  else
    match breakAt ['.'] unsigned with
    | none => none
    | some (whole, rest) =>
      match List.splitOn ':' whole with
      | [[]] =>
        match text, rest with
        | '.' :: _, c :: _ => if c.isDigit then decimal (pointed? false [] rest) else none
        | _, _ => none
      | [only] => if isFloatWhole only then decimal (pointed? negative only rest) else none
      | first :: places => sixtieths? negative first places rest
      | [] => none

/-! ## Meaning -/

/-- The scalar of a literal, or its error. -/
def Meaning.ofLiteral {α : Type} (scalar : α → Scalar) : Except LiteralError α → Meaning
  | .ok value => .scalar (scalar value)
  | .error error => .invalid error

/-- The meaning of a plain scalar. -/
def meaning (text : List Char) : Meaning :=
  let word := String.ofList text
  if trueWords.contains word then .scalar (.bool true)
  else if falseWords.contains word then .scalar (.bool false)
  else if nullWords.contains word then .scalar .null
  else if word = "<<" ∨ word = "=" then .mark
  else
    match float? text with
    | some found => .ofLiteral (fun value => .number (.float value)) found
    | none =>
      match integer? text with
      | some found => .ofLiteral (fun value => .number (.int value)) found
      | none =>
        match timestamp? text with
        | some found => .ofLiteral .timestamp (found.check.mapError .calendar)
        | none => .scalar (.text word)

/-- The text stands for itself when it is written plain. -/
def readsAsText (text : List Char) : Bool :=
  meaning text == .scalar (.text (String.ofList text))

end Yaml
end Wardley
