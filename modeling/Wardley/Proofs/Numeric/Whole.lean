import Wardley.Proofs.Numeric.Rounding

/-!
# Whole values

A double is whole when its magnitude is a multiple of one.  The integer part of a whole value
is the only integer that it equals.

Main results:

- `compareInt_eq_iff`: a double equals an integer when it is whole and has that integer part.
- `isWhole_iff`: the whole doubles are those that equal an integer.
-/

namespace Wardley
namespace Double

/-- A quotient equals an integer when it is whole and has that integer part. -/
theorem natCast_eq_mul_iff {num den : Nat} (hden : 0 < den) (n : Int) :
    (num : Int) = n * den ↔ num % den = 0 ∧ ((num / den : Nat) : Int) = n := by
  constructor
  · intro h
    have hdvd : den ∣ num := Int.natCast_dvd_natCast.1 ⟨n, by rw [h, Int.mul_comm]⟩
    refine ⟨Nat.mod_eq_zero_of_dvd hdvd, ?_⟩
    rw [Int.natCast_ediv, h, Int.mul_ediv_cancel _ (Int.natCast_ne_zero.2 hden.ne')]
  · rintro ⟨hmod, rfl⟩
    rw [← Int.natCast_mul, Nat.div_mul_cancel (Nat.dvd_of_mod_eq_zero hmod)]

/-- A double equals an integer when it is whole and has that integer part. -/
theorem compareInt_eq_iff {value : Double} {n : Int} :
    value.compareInt n = some .eq ↔ value.isWhole = true ∧ value.toInt = n := by
  cases value with
  | nan payload => simp [compareInt, isWhole]
  | ofRank negative rank =>
      by_cases hinfinite : rank.val = infinityRank
      · have hfinite : (ofRank negative rank).isFinite = false := by simp [isFinite, hinfinite]
        cases negative <;> simp [compareInt, isWhole, hinfinite, hfinite]
      · have hlt : rank.val < infinityRank := by omega
        have hfinite : (ofRank negative rank).isFinite = true := by simp [isFinite, hlt]
        have hden := denominator_pos rank
        rw [compareInt, if_neg hinfinite, Option.some.injEq, compare_eq_iff_eq]
        simp only [isWhole, toInt, hfinite, Bool.true_and, beq_iff_eq, if_true]
        cases negative with
        | false => exact natCast_eq_mul_iff hden n
        | true =>
            simp only [if_true]
            rw [neg_eq_iff_eq_neg, ← Int.neg_mul, natCast_eq_mul_iff hden, neg_eq_iff_eq_neg]

/-- The whole doubles are those that equal an integer. -/
theorem isWhole_iff {value : Double} :
    value.isWhole = true ↔ ∃ n : Int, value.compareInt n = some .eq := by
  constructor
  · exact fun h => ⟨value.toInt, compareInt_eq_iff.2 ⟨h, rfl⟩⟩
  · rintro ⟨n, hn⟩
    exact (compareInt_eq_iff.1 hn).1

end Double
end Wardley
