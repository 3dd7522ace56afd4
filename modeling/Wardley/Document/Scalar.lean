import Wardley.Document.Calendar
import Wardley.Numeric.Number
import Wardley.Text.Quoted

/-!
# Scalars of documents

The leaves of JSON and YAML documents: null, booleans, numbers, texts and timestamps.
Keys of a mapping are scalars too, and two keys are one when their values are numerically
equal, a boolean counting as zero or one.

Main definitions:

- `Scalar.same`: equality of keys.
- `Scalar.below?`: the order of scalars that can be compared.
- `Scalar.sort?`: scalars in increasing order, if any two can be compared.
- `Scalar.display`: the text of a scalar within a message.
-/

namespace Wardley

/-- A leaf of a document. -/
inductive Scalar where
  | null
  | bool (value : Bool)
  | number (value : Number)
  | text (value : String)
  | timestamp (value : Timestamp)
  deriving DecidableEq, Repr, Inhabited

/-- Number texts within messages and answers. -/
def FloatLayout.plain : FloatLayout := ⟨"inf", "nan", false⟩

namespace Scalar

/-- The number that a boolean or a number counts as. -/
def asNumber? : Scalar → Option Number
  | bool value => some (.int value.toNat)
  | number value => some value
  | _ => none

/-- Equality of values: numbers by value across kinds, timestamps as such, all else by shape. -/
def same (a b : Scalar) : Bool :=
  match a, b with
  | timestamp x, timestamp y => x.same y
  | _, _ =>
    match a.asNumber?, b.asNumber? with
    | some x, some y => x.same y
    | none, none => a == b
    | _, _ => false

/-- Null, false, zero and the empty text count as nothing. -/
def isEmpty : Scalar → Bool
  | null => true
  | bool value => !value
  | number value => value.isZero
  | text value => value.isEmpty
  | timestamp _ => false

/-! ## Order -/

/--
The order of two scalars, if they have one: texts among texts, numbers among numbers and
timestamps of one sort among each other.
-/
def below? (a b : Scalar) : Option Bool :=
  match a, b with
  | text x, text y => some (decide (x < y))
  | timestamp x, timestamp y => x.below? y
  | _, _ =>
    match a.asNumber?, b.asNumber? with
    | some x, some y => some (x.below y)
    | _, _ => none

/-- The first scalar stays in front of the second one when they are sorted. -/
def precedes (a b : Scalar) : Bool := !((below? b a).getD false)

/-- All scalars can be compared with the first one, and so any two with each other. -/
def areOrdered : List Scalar → Bool
  | [] => true
  | first :: others => others.all fun other => (below? first other).isSome

/-- Scalars in increasing order, if any two of them can be compared. -/
def sort? (found : List Scalar) : Option (List Scalar) :=
  if areOrdered found then some (found.mergeSort precedes) else none

/-! ## Display -/

/-- The scalar has a text, which an integer with too many digits has not. -/
def hasText : Scalar → Bool
  | number value => value.hasText
  | _ => true

/-- The text of a scalar within a message. -/
def display : Scalar → String
  | null => "None"
  | bool true => "True"
  | bool false => "False"
  | number value => value.text .plain
  | text value => String.ofList (Text.quoted value.toList)
  | timestamp value => value.display

end Scalar

end Wardley
