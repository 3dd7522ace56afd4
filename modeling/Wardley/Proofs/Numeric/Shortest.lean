import Wardley.Numeric.Decimal
import Wardley.Proofs.Numeric.Rounding

/-!
# Shortest decimals read back

A decimal is read as the double nearest to its value, however its value is split into a
coefficient and a power of ten: the two shortcuts for very large and very small
decimals agree with the rounded quotient.  The shortest decimal of a finite double
therefore reads back as this double.

Main results:

- `ofDecimal_eq_ofRatio`: reading a decimal rounds its quotient.
- `ofDecimal_shift`: a zero may move from the coefficient into the exponent.
- `ofDecimal_shortest`: the shortest decimal of a finite double reads back as it.
-/

namespace Wardley
namespace Double

/-! ## Reading as rounding -/

/-- The quotient that a coefficient and a power of ten are read as. -/
theorem decimal_ratio (coefficient : Nat) (e : Int) :
    ((coefficient * 10 ^ e.toNat : Nat) : ℚ) / (10 ^ (-e).toNat : Nat) =
      coefficient * (10 : ℚ) ^ e := by
  have hpow : (10 : ℚ) ^ e = (10 : ℚ) ^ e.toNat / (10 : ℚ) ^ (-e).toNat :=
    zpow_eq_div (b := 10) (by decide) e
  rw [hpow, ← mul_div_assoc]
  push_cast
  rfl

/-- Powers of eight are powers of two. -/
theorem two_zpow_three_mul (e : Int) : (2 : ℚ) ^ (3 * e) = (8 : ℚ) ^ e := by
  rw [zpow_mul]
  norm_num

/-- Small powers of ten are below those of eight. -/
theorem ten_zpow_le_eight {e : Int} (h : e ≤ 0) : (10 : ℚ) ^ e ≤ (8 : ℚ) ^ e := by
  obtain ⟨n, rfl⟩ : ∃ n : Nat, e = -(n : Int) := ⟨(-e).toNat, by omega⟩
  rw [zpow_neg, zpow_neg, zpow_natCast, zpow_natCast]
  exact inv_anti₀ (by positivity) (by gcongr; norm_num)

/-- A decimal with a large power of ten lies beyond the range of doubles. -/
theorem large_decimal {coefficient : Nat} {e : Int} (hc : 0 < coefficient) (he : 400 < e) :
    (2 : ℚ) ^ (1024 : Int) ≤ coefficient * (10 : ℚ) ^ e := by
  have hone : (1 : ℚ) ≤ coefficient := by exact_mod_cast hc
  calc (2 : ℚ) ^ (1024 : Int) ≤ (2 : ℚ) ^ (3 * e) :=
        zpow_le_zpow_right₀ (by norm_num) (by omega)
    _ = (8 : ℚ) ^ e := two_zpow_three_mul e
    _ ≤ (10 : ℚ) ^ e := zpow_le_zpow_left₀ (by omega) (by norm_num) (by norm_num)
    _ ≤ coefficient * (10 : ℚ) ^ e := le_mul_of_one_le_left (zpow_nonneg (by norm_num) e) hone

/-- A decimal whose size in bits does not make up for its power of ten lies below the range. -/
theorem small_decimal {coefficient : Nat} {e : Int}
    (h : (coefficient.log2 : Int) + 1 + 3 * e < -1080) :
    coefficient * (10 : ℚ) ^ e < (2 : ℚ) ^ (-1075 : Int) := by
  have hbits : (coefficient : ℚ) < (2 : ℚ) ^ ((coefficient.log2 : Int) + 1) := by
    have : coefficient < 2 ^ (coefficient.log2 + 1) := Nat.lt_log2_self
    exact_mod_cast this
  calc coefficient * (10 : ℚ) ^ e ≤ coefficient * (8 : ℚ) ^ e := by
        gcongr
        exact ten_zpow_le_eight (by omega)
    _ < (2 : ℚ) ^ ((coefficient.log2 : Int) + 1) * (8 : ℚ) ^ e :=
        mul_lt_mul_of_pos_right hbits (zpow_pos (by norm_num) e)
    _ = (2 : ℚ) ^ ((coefficient.log2 : Int) + 1 + 3 * e) := by
        rw [← two_zpow_three_mul, zpow_add₀ (by norm_num) _ (3 * e)]
    _ ≤ (2 : ℚ) ^ (-1075 : Int) := zpow_le_zpow_right₀ (by norm_num) (by omega)

/-- A large magnitude is infinite. -/
theorem ofMagnitude_of_large (negative : Bool) {rank : Nat} (h : infinityRank ≤ rank) :
    ofMagnitude negative rank = infinity negative := by
  have hmin : min rank infinityRank = infinityRank := Nat.min_eq_right h
  simp only [ofMagnitude, infinity, hmin]
  rfl

/-- Reading a decimal rounds its quotient: the shortcuts make no difference. -/
theorem ofDecimal_eq_ofRatio (d : Decimal) :
    ofDecimal d =
      ofRatio d.negative (d.coefficient * 10 ^ d.exponent.toNat) (10 ^ (-d.exponent).toNat) := by
  unfold ofDecimal
  split
  · rename_i hzero
    rw [hzero, Nat.zero_mul]
    rfl
  · rename_i hne
    have hc : 0 < d.coefficient := Nat.pos_of_ne_zero hne
    have hnum : 0 < d.coefficient * 10 ^ d.exponent.toNat := by positivity
    have hden : 0 < 10 ^ (-d.exponent).toNat := by positivity
    split
    · rename_i hlarge
      have hrank := nearestRank_of_large hnum hden
        (by rw [decimal_ratio]; exact large_decimal hc hlarge)
      rw [ofRatio, if_neg (Nat.ne_of_gt hnum), ofMagnitude_of_large _ hrank]
    · split
      · rename_i hsmall
        have hrank := nearestRank_of_small hnum hden
          (by rw [decimal_ratio]; exact small_decimal hsmall)
        rw [ofRatio, if_neg (Nat.ne_of_gt hnum), hrank]
        rfl
      · rfl

/-- Equal quotients round to the same double. -/
theorem ofRatio_eq_of_ratio (negative : Bool) {num den num' den' : Nat} (hden : 0 < den)
    (hden' : 0 < den') (h : num * den' = num' * den) :
    ofRatio negative num den = ofRatio negative num' den' := by
  by_cases hnum : num = 0
  · subst hnum
    have hnum' : num' = 0 := by
      rw [Nat.zero_mul] at h
      exact (Nat.mul_eq_zero.1 h.symm).resolve_right (Nat.ne_of_gt hden)
    rw [hnum', ofRatio, ofRatio, if_pos rfl, if_pos rfl]
  · have hnum' : num' ≠ 0 := by
      rintro rfl
      rw [Nat.zero_mul] at h
      exact hnum ((Nat.mul_eq_zero.1 h).resolve_right (Nat.ne_of_gt hden'))
    rw [ofRatio, ofRatio, if_neg hnum, if_neg hnum',
      nearestRank_eq_of_ratio (Nat.pos_of_ne_zero hnum) hden hden' h]

/-! ## Trailing zeros -/

/-- A zero may move from the coefficient into the exponent. -/
theorem ofDecimal_shift (negative : Bool) (coefficient : Nat) (e : Int) :
    ofDecimal ⟨negative, coefficient * 10, e⟩ = ofDecimal ⟨negative, coefficient, e + 1⟩ := by
  rw [ofDecimal_eq_ofRatio, ofDecimal_eq_ofRatio]
  apply ofRatio_eq_of_ratio negative (by positivity) (by positivity)
  by_cases he : 0 ≤ e
  · have hup : (e + 1).toNat = e.toNat + 1 := by omega
    have hdown : (-e).toNat = 0 := by omega
    have hdown' : (-(e + 1)).toNat = 0 := by omega
    simp only [hup, hdown, hdown', pow_succ]
    ring
  · have hup : e.toNat = 0 := by omega
    have hup' : (e + 1).toNat = 0 := by omega
    have hdown : (-e).toNat = (-(e + 1)).toNat + 1 := by omega
    simp only [hup, hup', hdown, pow_succ]
    ring

/-- Several zeros may move from the coefficient into the exponent. -/
theorem ofDecimal_shift_pow (negative : Bool) (coefficient count : Nat) (e : Int) :
    ofDecimal ⟨negative, coefficient * 10 ^ count, e⟩ =
      ofDecimal ⟨negative, coefficient, e + count⟩ := by
  induction count generalizing e with
  | zero => simp
  | succ count ih =>
    rw [pow_succ, ← mul_assoc, ofDecimal_shift, ih]
    push_cast
    rw [add_assoc, add_comm 1]

/-- Dropping zeros does not change the double. -/
theorem ofDecimal_dropZeros (fuel : Nat) (d : Decimal) :
    ofDecimal (dropZeros fuel d) = ofDecimal d := by
  induction fuel generalizing d with
  | zero => rfl
  | succ fuel ih =>
    unfold dropZeros
    split
    · rename_i h
      rw [ih, ← ofDecimal_shift, Nat.div_mul_cancel (Nat.dvd_of_mod_eq_zero h.2)]
    · rfl

/-! ## Finite doubles -/

/-- A magnitude in range is its rank. -/
theorem ofMagnitude_rank (negative : Bool) (rank : Fin (infinityRank + 1)) :
    ofMagnitude negative rank = ofRank negative rank := by
  have hmin : min rank.val infinityRank = rank.val := Nat.min_eq_left (Nat.le_of_lt_succ rank.2)
  simp only [ofMagnitude, hmin]

/-- The digits of a magnitude written out in full read back as it. -/
theorem ofDecimal_expansion (negative : Bool) {rank : Fin (infinityRank + 1)}
    (h : rank.val ≠ 0) : ofDecimal (expansion negative rank) = ofRank negative rank := by
  have hself : ofRatio negative (numerator rank) (denominator rank) = ofRank negative rank := by
    rw [ofRatio, if_neg (Nat.ne_of_gt (numerator_pos h)), nearestRank_self h, ofMagnitude_rank]
  rw [← hself, ofDecimal_eq_ofRatio, expansion]
  split
  · rename_i hneg
    apply ofRatio_eq_of_ratio negative (by positivity) (denominator_pos rank)
    have hup : (exponent rank).toNat = 0 := by omega
    have hten : 10 ^ (-exponent rank).toNat =
        5 ^ (-exponent rank).toNat * 2 ^ (-exponent rank).toNat := by
      rw [← Nat.mul_pow]
    simp only [numerator, denominator, Nat.pow_eq, hup, hten]
    ring
  · rename_i hpos
    have hdown : (-exponent rank).toNat = 0 := by omega
    apply ofRatio_eq_of_ratio negative (by positivity) (denominator_pos rank)
    simp [denominator, hdown]

/-- The shortest decimal of a finite double reads back as it. -/
theorem ofDecimal_shortest (negative : Bool) (rank : Fin (infinityRank + 1)) :
    ofDecimal (shortest negative rank) = ofRank negative rank := by
  unfold shortest
  split
  · rename_i hzero
    have hrank : rank = 0 := Fin.ext hzero
    rw [hrank]
    rfl
  · rename_i hne
    simp only [ofDecimal_dropZeros]
    cases hfound : (List.range 17).findSome? _ with
    | none => exact ofDecimal_expansion negative hne
    | some d =>
      rcases List.exists_of_findSome?_eq_some hfound with ⟨digits, -, hdigits⟩
      simpa using List.find?_some hdigits

/-- Dropping zeros keeps the sign. -/
theorem dropZeros_negative (fuel : Nat) (d : Decimal) :
    (dropZeros fuel d).negative = d.negative := by
  induction fuel generalizing d with
  | zero => rfl
  | succ fuel ih =>
    unfold dropZeros
    split
    · exact ih _
    · rfl

/-- Every candidate has the sign of the double. -/
theorem candidates_negative {negative : Bool} {num den : Nat} {place : Int} {d : Decimal}
    (h : d ∈ candidates negative num den place) : d.negative = negative := by
  rcases List.mem_map.1 h with ⟨c, -, rfl⟩
  rfl

/-- The shortest decimal has the sign of its double. -/
theorem shortest_negative (negative : Bool) (rank : Fin (infinityRank + 1)) :
    (shortest negative rank).negative = negative := by
  unfold shortest
  split
  · rfl
  · simp only [dropZeros_negative]
    cases hfound : (List.range 17).findSome? _ with
    | none =>
      rw [Option.getD_none, expansion]
      split <;> rfl
    | some d =>
      rcases List.exists_of_findSome?_eq_some hfound with ⟨digits, -, hdigits⟩
      exact candidates_negative (List.mem_of_find?_eq_some hdigits)

/-- The shortest decimal has a coefficient, or it is written as a lone zero. -/
theorem shortest_coefficient (negative : Bool) (rank : Fin (infinityRank + 1)) :
    (shortest negative rank).coefficient ≠ 0 ∨ (shortest negative rank).exponent = 0 := by
  by_cases hzero : rank.val = 0
  · right
    rw [shortest, if_pos hzero]
  · left
    intro hcoefficient
    have hread := ofDecimal_shortest negative rank
    rw [ofDecimal, if_pos hcoefficient] at hread
    injection hread with _ hrank
    exact hzero (by rw [← hrank]; rfl)

end Double
end Wardley
