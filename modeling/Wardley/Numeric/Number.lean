import Wardley.Numeric.Layout

/-!
# Numbers of a map

A number on a map is an integer or a double and keeps being what it was read
as: offsets that nobody wrote are integers, whereas every number of a map text is
a double.  Numbers of both kinds are compared by value, exactly.
-/

namespace Wardley

/-- An integer or a double. -/
inductive Number where
  | int (value : Int)
  | float (value : Double)
  deriving DecidableEq, Repr

namespace Number

instance : Inhabited Number := ⟨int 0⟩

instance (n : Nat) : OfNat Number n := ⟨int n⟩

/-- Numeric equality across both kinds. -/
def same : Number → Number → Bool
  | int a, int b => a == b
  | int a, float b => b.compareInt a == some .eq
  | float a, int b => a.compareInt b == some .eq
  | float a, float b => a.same b

/-- Numeric order across both kinds. -/
def below : Number → Number → Bool
  | int a, int b => a < b
  | int a, float b => b.compareInt a == some .gt
  | float a, int b => a.compareInt b == some .lt
  | float a, float b => a.below b

/-- The number is zero, of either kind and sign. -/
def isZero : Number → Bool
  | int a => a == 0
  | float a => a.isZero

/-- The digits that the text of an integer may have at most. -/
def digitLimit : Nat := 4300

/-- The number has a text: an integer with more digits than the limit has none. -/
def hasText : Number → Bool
  | int a => a.natAbs < Nat.pow 10 digitLimit
  | float _ => true

/-- The text of a number; integers are written in decimal. -/
def text (layout : FloatLayout) : Number → String
  | int a => toString a
  | float a => layout.text a

/-- The first of two numbers unless the second is below it. -/
def lower (a b : Number) : Number := if b.below a then b else a

/-- The first of two numbers unless the second is above it. -/
def upper (a b : Number) : Number := if a.below b then b else a

end Number

end Wardley
