/-!
# Double precision numbers

A double is either not a number or a sign together with a *rank*: the position
of its magnitude among all magnitudes in increasing order.  What is not a number has a
payload, which tells where it was written.  Rank zero is zero,
the first ranks are the subnormal magnitudes, every further block of `2 ^ 52`
ranks covers one binade, and the last rank is infinity.  Order on magnitudes is
therefore order on ranks, and every value has exactly one representation.

Main definitions:

- `Double.significand` and `Double.exponent`: the magnitude of a finite rank as
  `significand * 2 ^ exponent`.
- `Double.ofRatio`: the double nearest to a quotient of natural numbers, ties
  going to the even significand.
- `Double.sumOfMagnitudes`, `Double.productOfMagnitudes`: arithmetic, rounded once.
- `Double.isWhole` and `Double.toInt`: whole values and their exact integers.
-/

namespace Wardley

/-- The number of ranks of one binade. -/
def binade : Nat := Nat.pow 2 52

/-- The rank of infinity, one past the largest finite rank. -/
def infinityRank : Nat := 2047 * binade

/-- A double precision number. -/
inductive Double where
  /-- A value that is not a number, with its payload. -/
  | nan (payload : Nat)
  /-- A signed magnitude, given by its position among all magnitudes. -/
  | ofRank (negative : Bool) (rank : Fin (infinityRank + 1))
  deriving DecidableEq, Repr

namespace Double

/-! ## Ranks and magnitudes -/

/-- Zero of either sign. -/
def zero (negative : Bool) : Double := ofRank negative 0

/-- Infinity of either sign. -/
def infinity (negative : Bool) : Double := ofRank negative (Fin.last infinityRank)

instance : Inhabited Double := ⟨zero false⟩

/-- A signed magnitude by rank, cut off at infinity. -/
def ofMagnitude (negative : Bool) (rank : Nat) : Double :=
  ofRank negative ⟨min rank infinityRank, by omega⟩

/-- The whole number that the magnitude of a finite rank is a scaling of. -/
def significand (rank : Nat) : Nat :=
  if rank < binade then rank else binade + rank % binade

/-- The power of two that scales the significand of a finite rank. -/
def exponent (rank : Nat) : Int :=
  if rank < binade then -1074 else (rank / binade : Nat) - 1075

/-- Numerator of the magnitude of a finite rank. -/
def numerator (rank : Nat) : Nat := significand rank * Nat.pow 2 (exponent rank).toNat

/-- Denominator of the magnitude of a finite rank, a power of two. -/
def denominator (rank : Nat) : Nat := Nat.pow 2 (-exponent rank).toNat

/-- The value is neither infinite nor missing. -/
def isFinite : Double → Bool
  | nan _ => false
  | ofRank _ rank => rank.val < infinityRank

/-- The value is positive or negative zero. -/
def isZero : Double → Bool
  | nan _ => false
  | ofRank _ rank => rank.val == 0

/-! ## Nearest double -/

/-- Quotient rounded to the nearest natural number, a tie to the even one. -/
def divideToEven (num den : Nat) : Nat :=
  let quotient := num / den
  let twice := 2 * (num % den)
  if twice < den then quotient
  else if den < twice then quotient + 1
  else quotient + quotient % 2

/-- The exponent of the largest power of two that is at most `num / den`. -/
def binaryExponent (num den : Nat) : Int :=
  let guess : Int := (num.log2 : Int) - den.log2
  if den * Nat.pow 2 guess.toNat ≤ num * Nat.pow 2 (-guess).toNat then guess else guess - 1

/-- The rank of the magnitude nearest to `num / den`. -/
def nearestRank (num den : Nat) : Nat :=
  let scale : Int := max (-1074) (binaryExponent num den - 52)
  let rounded := divideToEven (num * Nat.pow 2 (-scale).toNat) (den * Nat.pow 2 scale.toNat)
  (scale + 1074).toNat * binade + rounded

/-- The double nearest to a signed quotient; beyond the largest it is infinity. -/
def ofRatio (negative : Bool) (num den : Nat) : Double :=
  if num = 0 then zero negative else ofMagnitude negative (nearestRank num den)

/-- No quotient is rounded to nan. -/
@[simp] theorem ofRatio_ne_nan (negative : Bool) (num den payload : Nat) :
    ofRatio negative num den ≠ nan payload := by
  unfold ofRatio
  split <;> simp [zero, ofMagnitude]

/-! ## Arithmetic of magnitudes -/

/-- The double nearest to the sum of two magnitudes, with a sign of its own. -/
def sumOfMagnitudes (negative : Bool) : Double → Double → Double
  | ofRank _ a, ofRank _ b =>
    ofRatio negative (numerator a * denominator b + numerator b * denominator a)
      (denominator a * denominator b)
  | _, _ => nan 0

/-- The double nearest to the product of two magnitudes, with a sign of its own. -/
def productOfMagnitudes (negative : Bool) : Double → Double → Double
  | ofRank _ a, ofRank _ b =>
    ofRatio negative (numerator a * numerator b) (denominator a * denominator b)
  | _, _ => nan 0

/-! ## Whole values -/

/-- The value is a whole number. -/
def isWhole (value : Double) : Bool :=
  match value with
  | nan _ => false
  | ofRank _ rank => value.isFinite && numerator rank % denominator rank == 0

/-- The integer part of a finite value, and zero for the others. -/
def toInt (value : Double) : Int :=
  match value with
  | nan _ => 0
  | ofRank negative rank =>
    if value.isFinite then
      let magnitude : Int := (numerator rank / denominator rank : Nat)
      if negative then -magnitude else magnitude
    else 0

/-! ## Order -/

/-- Signed position of a value that is a number; both zeros are at the origin. -/
def key (negative : Bool) (rank : Nat) : Int := if negative then -(rank : Int) else rank

/--
Equality of values: the zeros are equal.  A value that is not a number is equal to those
of the same payload; one without a payload is equal to nothing.
-/
def same : Double → Double → Bool
  | ofRank s a, ofRank t b => key s a == key t b
  | nan p, nan q => p != 0 && p == q
  | _, _ => false

/-- Numeric order; nothing is below or above what is not a number. -/
def below : Double → Double → Bool
  | ofRank s a, ofRank t b => key s a < key t b
  | _, _ => false

/-- Order against an integer, decided exactly. -/
def compareInt : Double → Int → Option Ordering
  | nan _, _ => none
  | ofRank negative rank, value =>
    if rank.val = infinityRank then some (if negative then .lt else .gt)
    else
      let magnitude : Int := numerator rank
      some (compare (if negative then -magnitude else magnitude) (value * denominator rank))

end Double

end Wardley
