import Wardley.Numeric.Double

/-!
# Decimal notation of doubles

A decimal is a signed coefficient with a power of ten.  This module reads a
decimal as the nearest double and finds, for a double, the decimal that has the
fewest digits among those that read back as it.

Main definitions:

- `Double.ofDecimal`: the nearest double, with infinity above the range and a
  signed zero below it.
- `Double.shortest`: the fewest digits that read back; of two neighbours with
  that many digits the nearer one, a tie going to the even digit.
-/

namespace Wardley

/-- The number `± coefficient * 10 ^ exponent`. -/
structure Decimal where
  negative : Bool
  coefficient : Nat
  exponent : Int
  deriving DecidableEq, Repr

namespace Double

/-! ## Reading -/

/--
The double nearest to a decimal.  A coefficient at a power of ten beyond 400
lies above every double, and one whose size in bits cannot make up for the
power of ten lies below half of the smallest magnitude.
-/
def ofDecimal (d : Decimal) : Double :=
  if d.coefficient = 0 then zero d.negative
  else if 400 < d.exponent then infinity d.negative
  else if (d.coefficient.log2 : Int) + 1 + 3 * d.exponent < -1080 then zero d.negative
  else ofRatio d.negative
    (d.coefficient * Nat.pow 10 d.exponent.toNat) (Nat.pow 10 (-d.exponent).toNat)

/-- No decimal is rounded to nan. -/
@[simp] theorem ofDecimal_ne_nan (d : Decimal) (payload : Nat) :
    ofDecimal d ≠ nan payload := by
  unfold ofDecimal
  split
  · simp [zero]
  · split
    · simp [infinity]
    · split
      · simp [zero]
      · simp

/-! ## Fewest digits -/

/-- The exponent of the largest power of ten that is at most `num / den`. -/
def decimalExponent (num den : Nat) : Int :=
  ((Nat.toDigits 10 (num * Nat.pow 10 330 / den)).length : Int) - 331

/-- The two multiples of a unit next to a quotient, the nearer one first. -/
def neighbours (num den : Nat) : List Nat :=
  let lower := num / den
  let twice := 2 * (num % den)
  if twice < den ∨ (twice = den ∧ lower % 2 = 0) then [lower, lower + 1]
  else [lower + 1, lower]

/-- The decimals next to a magnitude whose last digit stands at `10 ^ place`. -/
def candidates (negative : Bool) (num den : Nat) (place : Int) : List Decimal :=
  (neighbours (num * Nat.pow 10 (-place).toNat) (den * Nat.pow 10 place.toNat)).map
    fun c => ⟨negative, c, place⟩

/-- The digits of a magnitude written out in full. -/
def expansion (negative : Bool) (rank : Nat) : Decimal :=
  if exponent rank < 0 then
    ⟨negative, significand rank * Nat.pow 5 (-exponent rank).toNat, exponent rank⟩
  else ⟨negative, numerator rank, 0⟩

/-- Trailing zeros of the coefficient moved into the exponent, at most `fuel` of them. -/
def dropZeros : Nat → Decimal → Decimal
  | 0, d => d
  | fuel + 1, d =>
    if d.coefficient ≠ 0 ∧ d.coefficient % 10 = 0 then
      dropZeros fuel ⟨d.negative, d.coefficient / 10, d.exponent + 1⟩
    else d

/--
The decimal with the fewest digits that reads back as a finite magnitude: grids
of one to seventeen digits are tried in turn.
-/
def shortest (negative : Bool) (rank : Fin (infinityRank + 1)) : Decimal :=
  if rank.val = 0 then ⟨negative, 0, 0⟩
  else
    let num := numerator rank
    let den := denominator rank
    let top := decimalExponent num den
    let found := (List.range 17).findSome? fun (digits : Nat) =>
      (candidates negative num den (top - (digits : Int))).find?
        fun d => ofDecimal d = ofRank negative rank
    dropZeros 20 (found.getD (expansion negative rank))

end Double

end Wardley
