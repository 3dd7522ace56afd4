import Mathlib.Data.Int.Log
import Mathlib.Data.Rat.Floor
import Mathlib.Tactic.GCongr
import Mathlib.Tactic.Positivity
import Wardley.Numeric.Double

/-!
# Rounding of quotients

The nearest double of a quotient depends on its value only, not on the numbers it is
written with.  The quotient that a finite double stands for is rounded to this
double, very large quotients to infinity and very small ones to zero.

Main results:

- `binaryExponent_eq_log`: the exponent of the largest power of two below a quotient.
- `nearestRank_eq_of_ratio`: equal quotients have the same nearest magnitude.
- `nearestRank_self`: the quotient of a rank is nearest to that rank.
- `nearestRank_of_large`, `nearestRank_of_small`: the ends of the range.
-/

namespace Wardley
namespace Double

/-! ## Powers with integer exponents -/

/-- A power with an integer exponent is a quotient of two natural powers. -/
theorem zpow_eq_div {b : Nat} (hb : 0 < b) (e : Int) :
    (b : ℚ) ^ e = (b : ℚ) ^ e.toNat / (b : ℚ) ^ (-e).toNat := by
  have hne : (b : ℚ) ≠ 0 := by positivity
  have he : e = (e.toNat : Int) - ((-e).toNat : Int) := by omega
  conv_lhs => rw [he]
  rw [zpow_sub₀ hne, zpow_natCast, zpow_natCast]

/-- A negative power of two is a quotient of naturals. -/
theorem zpow_neg_succ (n : Nat) : (2 : ℚ) ^ (-((n + 1 : Nat) : Int)) = 1 / (2 * 2 ^ n) := by
  rw [zpow_neg, zpow_natCast, one_div, pow_succ']

/-- A quotient is at least a power of two when its scaled numbers say so. -/
theorem scaled_le_iff {num den : Nat} (hden : 0 < den) (e : Int) :
    den * 2 ^ e.toNat ≤ num * 2 ^ (-e).toNat ↔ (2 : ℚ) ^ e ≤ (num : ℚ) / den := by
  have hpow : (2 : ℚ) ^ e = (2 : ℚ) ^ e.toNat / (2 : ℚ) ^ (-e).toNat :=
    zpow_eq_div (b := 2) (by decide) e
  have hpos : (0 : ℚ) < den := by exact_mod_cast hden
  rw [hpow, div_le_div_iff₀ (by positivity) hpos, mul_comm]
  exact_mod_cast Iff.rfl

/-! ## Binary exponents -/

/-- The binary exponent of a quotient is its logarithm. -/
theorem binaryExponent_eq_log {num den : Nat} (hnum : 0 < num) (hden : 0 < den) :
    binaryExponent num den = Int.log 2 ((num : ℚ) / den) := by
  have htwo : (2 : ℚ) ≠ 0 := by decide
  have hq : (0 : ℚ) < (num : ℚ) / den := by positivity
  have hpos : (0 : ℚ) < den := by exact_mod_cast hden
  have hnumLow : (2 : ℚ) ^ num.log2 ≤ num := by
    exact_mod_cast Nat.log2_self_le (Nat.ne_of_gt hnum)
  have hnumHigh : (num : ℚ) < (2 : ℚ) ^ (num.log2 + 1) := by exact_mod_cast Nat.lt_log2_self
  have hdenLow : (2 : ℚ) ^ den.log2 ≤ den := by
    exact_mod_cast Nat.log2_self_le (Nat.ne_of_gt hden)
  have hdenHigh : (den : ℚ) < (2 : ℚ) ^ (den.log2 + 1) := by exact_mod_cast Nat.lt_log2_self
  let guess : Int := (num.log2 : Int) - den.log2
  have hlow : guess - 1 ≤ Int.log 2 ((num : ℚ) / den) := by
    have hpow : (2 : ℚ) ^ (guess - 1) = (2 : ℚ) ^ num.log2 / (2 : ℚ) ^ (den.log2 + 1) := by
      have he : guess - 1 = (num.log2 : Int) - ((den.log2 + 1 : Nat) : Int) := by omega
      rw [he, zpow_sub₀ htwo, zpow_natCast, zpow_natCast]
    rw [← Int.zpow_le_iff_le_log (by decide) hq, Nat.cast_ofNat, hpow,
      div_le_div_iff₀ (by positivity) hpos]
    gcongr
  have hhigh : Int.log 2 ((num : ℚ) / den) < guess + 1 := by
    have hpow : (2 : ℚ) ^ (guess + 1) = (2 : ℚ) ^ (num.log2 + 1) / (2 : ℚ) ^ den.log2 := by
      have he : guess + 1 = ((num.log2 + 1 : Nat) : Int) - (den.log2 : Int) := by omega
      rw [he, zpow_sub₀ htwo, zpow_natCast, zpow_natCast]
    rw [← Int.lt_zpow_iff_log_lt (by decide) hq, Nat.cast_ofNat, hpow,
      div_lt_div_iff₀ hpos (by positivity)]
    exact mul_lt_mul hnumHigh hdenLow (by positivity) (by positivity)
  have hguess : guess ≤ Int.log 2 ((num : ℚ) / den) ↔
      den * 2 ^ guess.toNat ≤ num * 2 ^ (-guess).toNat := by
    rw [scaled_le_iff hden, ← Int.zpow_le_iff_le_log (by decide) hq, Nat.cast_ofNat]
  unfold binaryExponent
  simp only [Nat.pow_eq]
  split
  · have := hguess.2 ‹_›
    omega
  · have := mt hguess.1 ‹_›
    omega

/-- The binary exponent of a quotient is the power of two just below it. -/
theorem binaryExponent_eq_iff {num den : Nat} (hnum : 0 < num) (hden : 0 < den) (e : Int) :
    binaryExponent num den = e ↔
      (2 : ℚ) ^ e ≤ (num : ℚ) / den ∧ (num : ℚ) / den < (2 : ℚ) ^ (e + 1) := by
  have hq : (0 : ℚ) < (num : ℚ) / den := by positivity
  have hlow := Int.zpow_le_iff_le_log (b := 2) (x := e) (by decide) hq
  have hhigh := Int.lt_zpow_iff_log_lt (b := 2) (x := e + 1) (by decide) hq
  rw [Nat.cast_ofNat] at hlow hhigh
  rw [binaryExponent_eq_log hnum hden, hlow, hhigh]
  omega

/-! ## Rounded division -/

/-- A common factor does not change the rounded quotient. -/
theorem divideToEven_mul_right (num den : Nat) {k : Nat} (hk : 0 < k) :
    divideToEven (num * k) (den * k) = divideToEven num den := by
  have hmul (a b : Nat) : a * k < b * k ↔ a < b := Nat.mul_lt_mul_right hk
  have htwice : 2 * (num * k % (den * k)) = 2 * (num % den) * k := by
    rw [Nat.mul_mod_mul_right, Nat.mul_assoc]
  unfold divideToEven
  simp only [Nat.mul_div_mul_right _ _ hk, htwice, hmul]

/-- A whole quotient is rounded to itself. -/
theorem divideToEven_mul_self (n : Nat) {den : Nat} (hden : 0 < den) :
    divideToEven (n * den) den = n := by
  unfold divideToEven
  rw [Nat.mul_div_cancel _ hden, Nat.mul_mod_left]
  simp [hden]

/-- Rounding a quotient stays above every whole number below it. -/
theorem le_divideToEven {num den n : Nat} (hden : 0 < den) (h : n * den ≤ num) :
    n ≤ divideToEven num den := by
  have hquotient : n ≤ num / den := (Nat.le_div_iff_mul_le hden).2 h
  unfold divideToEven
  simp only
  split
  · exact hquotient
  · split <;> omega

/-- A quotient below one half is rounded to zero. -/
theorem divideToEven_eq_zero {num den : Nat} (h : 2 * num < den) : divideToEven num den = 0 := by
  have hlt : num < den := by omega
  unfold divideToEven
  rw [Nat.div_eq_of_lt hlt, Nat.mod_eq_of_lt hlt]
  simp [h]

/-! ## Nearest magnitudes -/

/-- A common factor does not change the nearest rank. -/
theorem nearestRank_mul_right {num den k : Nat} (hnum : 0 < num) (hden : 0 < den) (hk : 0 < k) :
    nearestRank (num * k) (den * k) = nearestRank num den := by
  have hratio : ((num * k : Nat) : ℚ) / (den * k : Nat) = (num : ℚ) / den := by
    have hne : (k : ℚ) ≠ 0 := by positivity
    push_cast
    exact mul_div_mul_right _ _ hne
  have hexponent : binaryExponent (num * k) (den * k) = binaryExponent num den := by
    rw [binaryExponent_eq_log (Nat.mul_pos hnum hk) (Nat.mul_pos hden hk),
      binaryExponent_eq_log hnum hden, hratio]
  unfold nearestRank
  simp only [hexponent, Nat.mul_right_comm num k, Nat.mul_right_comm den k,
    divideToEven_mul_right _ _ hk]

/-- Equal quotients have the same nearest magnitude. -/
theorem nearestRank_eq_of_ratio {num den num' den' : Nat} (hnum : 0 < num) (hden : 0 < den)
    (hden' : 0 < den') (h : num * den' = num' * den) :
    nearestRank num den = nearestRank num' den' := by
  have hnum' : 0 < num' := by
    rw [Nat.pos_iff_ne_zero]
    rintro rfl
    rw [Nat.zero_mul] at h
    exact absurd h (Nat.ne_of_gt (Nat.mul_pos hnum hden'))
  rw [← nearestRank_mul_right hnum hden hden', ← nearestRank_mul_right hnum' hden' hden, h,
    Nat.mul_comm den den']

/-- A rank in terms of its scale and of the rounded scaled quotient. -/
theorem nearestRank_eq {num den : Nat} {scale : Int}
    (hscale : max (-1074) (binaryExponent num den - 52) = scale) :
    nearestRank num den = (scale + 1074).toNat * binade +
      divideToEven (num * 2 ^ (-scale).toNat) (den * 2 ^ scale.toNat) := by
  subst hscale
  rfl

/-- A quotient beyond the largest double is rounded to infinity. -/
theorem nearestRank_of_large {num den : Nat} (hnum : 0 < num) (hden : 0 < den)
    (h : (2 : ℚ) ^ (1024 : Int) ≤ (num : ℚ) / den) : infinityRank ≤ nearestRank num den := by
  have hq : (0 : ℚ) < (num : ℚ) / den := by positivity
  have hlow : 1024 ≤ binaryExponent num den := by
    rw [binaryExponent_eq_log hnum hden]
    rwa [← Int.zpow_le_iff_le_log (by decide) hq, Nat.cast_ofNat]
  let scale := binaryExponent num den - 52
  have hrounded : binade ≤ divideToEven (num * 2 ^ (-scale).toNat) (den * 2 ^ scale.toNat) := by
    apply le_divideToEven (by positivity)
    have hbinary := ((binaryExponent_eq_iff hnum hden _).1 rfl).1
    rw [← scaled_le_iff hden] at hbinary
    have hup : (binaryExponent num den).toNat = scale.toNat + 52 := by omega
    have hdown : (-binaryExponent num den).toNat = (-scale).toNat := by omega
    rw [hup, hdown, Nat.pow_add] at hbinary
    calc binade * (den * 2 ^ scale.toNat) = den * (2 ^ scale.toNat * 2 ^ 52) := by
          rw [binade, Nat.pow_eq, Nat.mul_comm, Nat.mul_assoc]
      _ ≤ num * 2 ^ (-scale).toNat := hbinary
  rw [nearestRank_eq (max_eq_right (by omega) : max (-1074) _ = scale), infinityRank]
  have hscale : 2046 ≤ (scale + 1074).toNat := by omega
  have := Nat.mul_le_mul_right binade hscale
  omega

/-- A quotient below half of the smallest double is rounded to zero. -/
theorem nearestRank_of_small {num den : Nat} (hnum : 0 < num) (hden : 0 < den)
    (h : (num : ℚ) / den < (2 : ℚ) ^ (-1075 : Int)) : nearestRank num den = 0 := by
  have hq : (0 : ℚ) < (num : ℚ) / den := by positivity
  have hhigh : binaryExponent num den < -1075 := by
    rw [binaryExponent_eq_log hnum hden]
    rwa [← Int.lt_zpow_iff_log_lt (by decide) hq, Nat.cast_ofNat]
  rw [nearestRank_eq (max_eq_left (by omega) : max (-1074) _ = (-1074 : Int))]
  have hsmall : 2 * (num * 2 ^ 1074) < den := by
    have hpow : (2 : ℚ) ^ (-1075 : Int) = 1 / (2 * 2 ^ 1074) := zpow_neg_succ 1074
    have hpos : (0 : ℚ) < den := by exact_mod_cast hden
    rw [hpow, div_lt_div_iff₀ hpos (by positivity), one_mul] at h
    have : num * (2 * 2 ^ 1074) < den := by exact_mod_cast h
    rwa [Nat.mul_left_comm] at this
  have hdown : (-(-1074 : Int)).toNat = 1074 := rfl
  have hup : (-1074 : Int).toNat = 0 := rfl
  rw [hdown, hup, pow_zero, mul_one, divideToEven_eq_zero hsmall]
  simp

/-! ## The quotient of a rank -/

/-- Only zero has no significand. -/
theorem significand_pos {rank : Nat} (h : rank ≠ 0) : 0 < significand rank := by
  have : 0 < binade := by decide
  unfold significand
  split <;> omega

/-- A significand stays below two binades. -/
theorem significand_lt (rank : Nat) : significand rank < 2 * binade := by
  have : rank % binade < binade := Nat.mod_lt _ (by decide)
  unfold significand
  split <;> omega

/-- Only zero has a numerator of zero. -/
theorem numerator_pos {rank : Nat} (h : rank ≠ 0) : 0 < numerator rank :=
  Nat.mul_pos (significand_pos h) (Nat.pow_pos (by decide))

/-- No denominator is zero. -/
theorem denominator_pos (rank : Nat) : 0 < denominator rank := Nat.pow_pos (by decide)

/-- The quotient of a rank is its scaled significand. -/
theorem magnitude_eq (rank : Nat) :
    (numerator rank : ℚ) / denominator rank = significand rank * (2 : ℚ) ^ exponent rank := by
  have hpow : (2 : ℚ) ^ exponent rank =
      (2 : ℚ) ^ (exponent rank).toNat / (2 : ℚ) ^ (-exponent rank).toNat :=
    zpow_eq_div (b := 2) (by decide) _
  rw [hpow, ← mul_div_assoc, numerator, denominator]
  push_cast [Nat.pow_eq]
  rfl

/-- The scale at which the quotient of a rank is rounded is its exponent. -/
theorem scale_eq_exponent {rank : Nat} (h : rank ≠ 0) :
    max (-1074) (binaryExponent (numerator rank) (denominator rank) - 52) = exponent rank := by
  have hpos : (0 : ℚ) < (2 : ℚ) ^ exponent rank := zpow_pos (by decide) _
  have hiff := binaryExponent_eq_iff (numerator_pos h) (denominator_pos rank)
  rw [magnitude_eq] at hiff
  by_cases hsmall : rank < binade
  · have hexponent : exponent rank = -1074 := if_pos hsmall
    have hlt : (significand rank : ℚ) < 2 ^ 52 := by
      have : significand rank < 2 ^ 52 := by rwa [significand, if_pos hsmall]
      exact_mod_cast this
    have hlog : binaryExponent (numerator rank) (denominator rank) < -1074 + 52 := by
      have hq : (0 : ℚ) < (numerator rank : ℚ) / denominator rank :=
        div_pos (Nat.cast_pos.2 (numerator_pos h)) (Nat.cast_pos.2 (denominator_pos rank))
      rw [binaryExponent_eq_log (numerator_pos h) (denominator_pos rank),
        ← Int.lt_zpow_iff_log_lt (by decide) hq, Nat.cast_ofNat, magnitude_eq, hexponent,
        add_comm, zpow_add₀ (by decide)]
      rw [hexponent] at hpos
      exact mul_lt_mul_of_pos_right hlt hpos
    rw [hexponent]
    omega
  · have hexponent : exponent rank = (rank / binade : Nat) - 1075 := if_neg hsmall
    have hfirst : 1 ≤ rank / binade := (Nat.one_le_div_iff (by decide)).2 (by omega)
    have hle : (2 : ℚ) ^ 52 ≤ significand rank := by
      have : 2 ^ 52 ≤ significand rank := by
        rw [significand, if_neg hsmall]
        exact Nat.le_add_right _ _
      exact_mod_cast this
    have hlt : (significand rank : ℚ) < 2 ^ 53 := by
      have : significand rank < 2 ^ 53 := significand_lt rank
      exact_mod_cast this
    have hlog : binaryExponent (numerator rank) (denominator rank) = 52 + exponent rank := by
      rw [hiff, zpow_add₀ (by decide), add_right_comm, zpow_add₀ (by decide)]
      exact ⟨mul_le_mul_of_nonneg_right hle hpos.le, mul_lt_mul_of_pos_right hlt hpos⟩
    omega

/-- The quotient of a finite rank is nearest to that rank. -/
theorem nearestRank_self {rank : Nat} (h : rank ≠ 0) :
    nearestRank (numerator rank) (denominator rank) = rank := by
  have hrounded : divideToEven (numerator rank * 2 ^ (-exponent rank).toNat)
      (denominator rank * 2 ^ (exponent rank).toNat) = significand rank := by
    have hnum : numerator rank * 2 ^ (-exponent rank).toNat =
        significand rank * (denominator rank * 2 ^ (exponent rank).toNat) := by
      simp only [numerator, denominator, Nat.pow_eq]
      ring
    rw [hnum]
    exact divideToEven_mul_self _ (Nat.mul_pos (denominator_pos rank) (by positivity))
  rw [nearestRank_eq (scale_eq_exponent h), hrounded]
  unfold exponent significand
  split
  · simp
  · have hfirst : 1 ≤ rank / binade := (Nat.one_le_div_iff (by decide)).2 (by omega)
    have hshift : (((rank / binade : Nat) : Int) - 1075 + 1074).toNat = rank / binade - 1 := by
      omega
    have hsplit := Nat.div_add_mod' rank binade
    rw [hshift, Nat.sub_mul, one_mul]
    have := Nat.mul_le_mul_right binade hfirst
    omega

end Double
end Wardley
