import Wardley.Numeric.Decimal

/-!
# Text of doubles

All outputs write a double with the fewest digits that read back.  They place
the point where the decimal exponent is at least `-4` and below `16` and use an
exponent elsewhere, with its sign always written and at least two digits.  They
differ in the words for the values that have no digits and in whether a lone
leading digit is followed by a point; a `FloatLayout` says how.

Main definitions:

- `FloatLayout`: the decisions of one output.
- `FloatLayout.text`: the text of a double under a layout.
-/

namespace Wardley

/-- The decisions in which number texts differ. -/
structure FloatLayout where
  /-- Text of positive infinity; a minus sign precedes it for the negative one. -/
  infinity : String
  /-- Text of a value that is not a number. -/
  nan : String
  /-- A single leading digit before an exponent is followed by `.0`. -/
  pointBeforeExponent : Bool

namespace FloatLayout

/-! ## Digits -/

/-- An exponent with its sign and at least two digits. -/
def exponentText (exponent : Int) : List Char :=
  let digits := Nat.toDigits 10 exponent.natAbs
  let padded := if digits.length < 2 then '0' :: digits else digits
  (if exponent < 0 then '-' else '+') :: padded

/-- Digits with a point after the first `whole` of them; zeros fill both sides. -/
def positional (digits : List Char) (whole : Int) : List Char :=
  if whole ≤ 0 then
    '0' :: '.' :: (List.replicate (-whole).toNat '0' ++ digits)
  else if (digits.length : Int) ≤ whole then
    digits ++ List.replicate (whole.toNat - digits.length) '0' ++ ['.', '0']
  else digits.take whole.toNat ++ '.' :: digits.drop whole.toNat

/-- Digits with a point after the first and an exponent. -/
def scientific (layout : FloatLayout) (digits : List Char) (exponent : Int) : List Char :=
  let mantissa :=
    match digits with
    | [] => []
    | [digit] => if layout.pointBeforeExponent then [digit, '.', '0'] else [digit]
    | digit :: rest => digit :: '.' :: rest
  mantissa ++ 'e' :: exponentText exponent

/-- The digits of a decimal with the point or the exponent they need. -/
def digitsText (layout : FloatLayout) (d : Decimal) : List Char :=
  let digits := Nat.toDigits 10 d.coefficient
  let whole : Int := digits.length + d.exponent
  if -4 < whole ∧ whole ≤ 16 then positional digits whole
  else layout.scientific digits (whole - 1)

/-! ## Text -/

/-- The characters of a double. -/
def chars (layout : FloatLayout) : Double → List Char
  | .nan _ => layout.nan.toList
  | .ofRank negative rank =>
    let body :=
      if rank.val = infinityRank then layout.infinity.toList
      else layout.digitsText (Double.shortest negative rank)
    if negative then '-' :: body else body

/-- The text of a double. -/
def text (layout : FloatLayout) (value : Double) : String := String.ofList (layout.chars value)

end FloatLayout

end Wardley
