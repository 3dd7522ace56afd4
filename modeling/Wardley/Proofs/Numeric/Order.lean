import Mathlib.Data.Int.ConditionallyCompleteOrder
import Mathlib.Order.WithBot
import Wardley.Numeric.Number
import Wardley.Proofs.Numeric.Rounding

/-!
# The order of numbers

Every number that is not missing has a value: a rational number or an infinity.  A higher
rank is a larger magnitude, so that doubles compare as their values although only their
ranks are looked at.  Integers and doubles are compared by value, too, and the order of all
numbers of both kinds is that of their values.

Main definitions:

- `Double.magnitude`, `Double.signedMagnitude`: the magnitude of a rank, with a sign.
- `Number.value?`: the value of a number.
- `Number.AtMost`: the order of values.

Main results:

- `Double.magnitude_strictMono`: a higher rank is a larger magnitude.
- `Double.compareInt_eq`: doubles and integers are compared by value.
- `Number.below_iff`, `Number.same_iff`: what the comparisons of numbers tell.
- `Number.lower_atMost`, `Number.atMost_upper`: the lower and the upper of two numbers.
-/

namespace Wardley

/-- A rational number or an infinity. -/
abbrev ExtendedRational := WithBot (WithTop ℚ)

namespace Double

/-! ## Magnitudes in the order of ranks -/

/-- The magnitude of a rank. -/
def magnitude (rank : Nat) : ℚ := numerator rank / denominator rank

@[simp] theorem magnitude_zero : magnitude 0 = 0 := by
  rw [magnitude, numerator, significand, if_pos (by decide), Nat.zero_mul, Nat.cast_zero, zero_div]

/-- The next rank has the next significand, or the first one of the next scale. -/
theorem next_significand (rank : Nat) :
    (significand (rank + 1) = significand rank + 1 ∧ exponent (rank + 1) = exponent rank) ∨
      (significand rank + 1 = 2 * significand (rank + 1) ∧
        exponent (rank + 1) = exponent rank + 1) := by
  have hbinade : binade = 4503599627370496 := rfl
  simp only [significand, exponent, hbinade]
  split <;> split <;> omega

/-- The next magnitude has a significand larger by one, at the same scale. -/
theorem magnitude_succ (rank : Nat) :
    magnitude (rank + 1) = (significand rank + 1) * (2 : ℚ) ^ exponent rank := by
  rw [magnitude, magnitude_eq]
  rcases next_significand rank with ⟨hsignificand, hexponent⟩ | ⟨hsignificand, hexponent⟩
  · rw [hsignificand, hexponent, Nat.cast_succ]
  · have hdouble : (significand rank + 1 : ℚ) = 2 * significand (rank + 1) := by
      exact_mod_cast hsignificand
    rw [hexponent, hdouble, zpow_add_one₀ (by decide)]
    ring

/-- A higher rank is a larger magnitude. -/
theorem magnitude_strictMono : StrictMono magnitude := by
  refine strictMono_nat_of_lt_succ fun rank => ?_
  have hscale : (0 : ℚ) < 2 ^ exponent rank := zpow_pos (by decide) _
  rw [magnitude_succ, magnitude, magnitude_eq]
  exact mul_lt_mul_of_pos_right (lt_add_one _) hscale

/-- The magnitude at a position, negative before the origin. -/
def signedMagnitude : Int → ℚ
  | .ofNat rank => magnitude rank
  | .negSucc rank => -magnitude (rank + 1)

/-- A negative rank has the negative magnitude. -/
theorem signedMagnitude_neg (rank : Nat) : signedMagnitude (-rank) = -magnitude rank := by
  cases rank with
  | zero => simp [signedMagnitude]
  | succ rank => rfl

/-- The magnitude of a signed rank is its signed quotient. -/
theorem signedMagnitude_key (negative : Bool) (rank : Nat) :
    signedMagnitude (key negative rank) =
      ((if negative then -(numerator rank : Int) else numerator rank : Int) : ℚ) /
        denominator rank := by
  cases negative with
  | false => simp [key, signedMagnitude, magnitude]
  | true =>
      have hneg : key true rank = -(rank : Int) := rfl
      rw [hneg, signedMagnitude_neg, magnitude, if_pos rfl, Int.cast_neg, Int.cast_natCast, neg_div]

/-- A position behind another one has a larger magnitude, with its sign. -/
theorem signedMagnitude_strictMono : StrictMono signedMagnitude := by
  refine strictMono_int_of_lt_succ fun position => ?_
  cases position with
  | ofNat rank => exact magnitude_strictMono (Nat.lt_succ_self rank)
  | negSucc rank =>
      have hnext : Int.negSucc rank + 1 = -(rank : Int) := by omega
      rw [hnext, signedMagnitude_neg]
      exact neg_lt_neg (magnitude_strictMono (Nat.lt_succ_self rank))

/-! ## Values of doubles -/

/-- The value at a position; the infinities are at both ends. -/
def valueAt (position : Int) : ExtendedRational :=
  if position = infinityRank then ⊤
  else if position = -infinityRank then ⊥
  else ((signedMagnitude position : WithTop ℚ) : ExtendedRational)

/-- The value of a double that is a number. -/
def value? : Double → Option ExtendedRational
  | nan _ => none
  | ofRank negative rank => some (valueAt (key negative rank))

/-- Values grow with their keys. -/
theorem valueAt_strictMonoOn :
    StrictMonoOn valueAt (Set.Icc (-(infinityRank : Int)) infinityRank) := by
  intro a ha b hb hlt
  have hfirst : a ≠ infinityRank := by have := hb.2; omega
  have hsecond : b ≠ -(infinityRank : Int) := by have := ha.1; omega
  rw [valueAt, valueAt, if_neg hfirst]
  by_cases hhigh : b = infinityRank
  · rw [if_pos hhigh]
    split
    · exact bot_lt_top
    · exact WithBot.coe_lt_coe.2 (WithTop.coe_lt_top _)
  · rw [if_neg hhigh, if_neg hsecond]
    split
    · exact WithBot.bot_lt_coe _
    · exact WithBot.coe_lt_coe.2 (WithTop.coe_lt_coe.2 (signedMagnitude_strictMono hlt))

/-- Keys lie between those of the two infinities. -/
theorem key_mem_Icc (negative : Bool) (rank : Fin (infinityRank + 1)) :
    key negative rank ∈ Set.Icc (-(infinityRank : Int)) infinityRank := by
  have hle : rank.val ≤ infinityRank := Nat.le_of_lt_succ rank.isLt
  cases negative <;> simp only [key, Set.mem_Icc] <;> constructor <;> omega

/-- A quotient compares with an integer as its numerator with the scaled integer. -/
theorem compare_quotient (num n : Int) {den : Nat} (hden : 0 < den) :
    compare num (n * den) =
      compare ((((num : ℚ) / den : ℚ) : WithTop ℚ) : ExtendedRational)
        (((n : ℚ) : WithTop ℚ) : ExtendedRational) := by
  have hpos : (0 : ℚ) < den := by exact_mod_cast hden
  rcases lt_trichotomy num (n * den) with h | h | h
  · have hlt : (num : ℚ) / den < n := by
      rw [div_lt_iff₀ hpos]
      exact_mod_cast h
    rw [compare_lt_iff_lt.2 h,
      compare_lt_iff_lt.2 (WithBot.coe_lt_coe.2 (WithTop.coe_lt_coe.2 hlt))]
  · have heq : (num : ℚ) / den = n := by
      rw [div_eq_iff hpos.ne']
      exact_mod_cast h
    rw [compare_eq_iff_eq.2 h, heq, compare_eq_iff_eq.2 rfl]
  · have hgt : (n : ℚ) < (num : ℚ) / den := by
      rw [lt_div_iff₀ hpos]
      exact_mod_cast h
    rw [compare_gt_iff_gt.2 h,
      compare_gt_iff_gt.2 (WithBot.coe_lt_coe.2 (WithTop.coe_lt_coe.2 hgt))]

section Comparisons

variable {a b : Double} {x y : ExtendedRational}

/-- Doubles are ordered as their values. -/
theorem below_iff (ha : a.value? = some x) (hb : b.value? = some y) :
    a.below b = true ↔ x < y := by
  cases a with
  | nan payload => contradiction
  | ofRank s rank =>
      cases b with
      | nan payload => contradiction
      | ofRank t rank' =>
          rw [← Option.some.inj ha, ← Option.some.inj hb, below, decide_eq_true_eq]
          exact (valueAt_strictMonoOn.lt_iff_lt (key_mem_Icc s rank) (key_mem_Icc t rank')).symm

/-- Doubles that are numbers are equal when their values are. -/
theorem same_iff (ha : a.value? = some x) (hb : b.value? = some y) :
    a.same b = true ↔ x = y := by
  cases a with
  | nan payload => contradiction
  | ofRank s rank =>
      cases b with
      | nan payload => contradiction
      | ofRank t rank' =>
          rw [← Option.some.inj ha, ← Option.some.inj hb, same, beq_iff_eq]
          exact (valueAt_strictMonoOn.injOn.eq_iff (key_mem_Icc s rank)
            (key_mem_Icc t rank')).symm

/-- Doubles and integers are compared by value. -/
theorem compareInt_eq (ha : a.value? = some x) (n : Int) :
    a.compareInt n = some (compare x (((n : ℚ) : WithTop ℚ) : ExtendedRational)) := by
  cases a with
  | nan payload => contradiction
  | ofRank negative rank =>
      rw [← Option.some.inj ha, compareInt]
      by_cases hinfinite : rank.val = infinityRank
      · rw [if_pos hinfinite, hinfinite]
        cases negative with
        | false =>
            have hvalue : valueAt (key false infinityRank) = ⊤ := if_pos rfl
            rw [hvalue, compare_gt_iff_gt.2 (WithBot.coe_lt_coe.2 (WithTop.coe_lt_top _))]
            rfl
        | true =>
            have hvalue : valueAt (key true infinityRank) = ⊥ := by
              rw [valueAt, if_neg (by decide)]
              exact if_pos rfl
            rw [hvalue, compare_lt_iff_lt.2 (WithBot.bot_lt_coe _)]
            rfl
      · have hfinite : valueAt (key negative rank) =
            ((signedMagnitude (key negative rank) : WithTop ℚ) : ExtendedRational) := by
          rw [valueAt, if_neg (by cases negative <;> simp [key] <;> omega),
            if_neg (by cases negative <;> simp [key] <;> omega)]
        rw [if_neg hinfinite, hfinite, signedMagnitude_key, ← compare_quotient _ n
          (denominator_pos rank)]

end Comparisons

end Double

/-! ## Values of numbers -/

namespace Number

/-- The value of a number; a number that is missing has none. -/
def value? : Number → Option ExtendedRational
  | int a => some (((a : ℚ) : WithTop ℚ) : ExtendedRational)
  | float a => a.value?

/-- The numbers without a value are those that are missing. -/
theorem value?_eq_none_iff {number : Number} :
    number.value? = none ↔ ∃ payload, number = .float (.nan payload) := by
  constructor
  · intro h
    cases number with
    | int a => contradiction
    | float a =>
        cases a with
        | nan payload => exact ⟨payload, rfl⟩
        | ofRank negative rank => contradiction
  · rintro ⟨payload, rfl⟩
    rfl

section Comparisons

variable {a b : Number} {x y : ExtendedRational}

/-- Numbers are ordered as their values. -/
theorem below_iff (ha : a.value? = some x) (hb : b.value? = some y) :
    a.below b = true ↔ x < y := by
  cases a with
  | int a =>
      cases b with
      | int b =>
          rw [← Option.some.inj ha, ← Option.some.inj hb, WithBot.coe_lt_coe, WithTop.coe_lt_coe,
            Int.cast_lt, below, decide_eq_true_eq]
      | float b =>
          rw [← Option.some.inj ha, below, Double.compareInt_eq hb, beq_iff_eq, Option.some.injEq,
            compare_gt_iff_gt]
  | float a =>
      cases b with
      | int b =>
          rw [← Option.some.inj hb, below, Double.compareInt_eq ha, beq_iff_eq, Option.some.injEq,
            compare_lt_iff_lt]
      | float b => exact Double.below_iff ha hb

/-- Numbers that are not missing are equal when their values are. -/
theorem same_iff (ha : a.value? = some x) (hb : b.value? = some y) :
    a.same b = true ↔ x = y := by
  cases a with
  | int a =>
      cases b with
      | int b =>
          rw [← Option.some.inj ha, ← Option.some.inj hb, WithBot.coe_inj, WithTop.coe_inj,
            Int.cast_inj, same, beq_iff_eq]
      | float b =>
          rw [← Option.some.inj ha, same, Double.compareInt_eq hb, beq_iff_eq, Option.some.injEq,
            compare_eq_iff_eq, eq_comm]
  | float a =>
      cases b with
      | int b =>
          rw [← Option.some.inj hb, same, Double.compareInt_eq ha, beq_iff_eq, Option.some.injEq,
            compare_eq_iff_eq]
      | float b => exact Double.same_iff ha hb

end Comparisons

/-! ## The order of values -/

/-- A number has at most the value of another one; neither is missing. -/
def AtMost (a b : Number) : Prop := ∃ x y, a.value? = some x ∧ b.value? = some y ∧ x ≤ y

section AtMost

variable {a b c : Number}

theorem AtMost.trans (h : a.AtMost b) (h' : b.AtMost c) : a.AtMost c := by
  rcases h with ⟨x, y, ha, hb, hxy⟩
  rcases h' with ⟨y', z, hb', hc, hyz⟩
  obtain rfl : y = y' := Option.some.inj (hb.symm.trans hb')
  exact ⟨x, z, ha, hc, hxy.trans hyz⟩

/-- Numbers that are at most each other have the same value. -/
theorem AtMost.antisymm (h : a.AtMost b) (h' : b.AtMost a) : a.value? = b.value? := by
  rcases h with ⟨x, y, ha, hb, hxy⟩
  rcases h' with ⟨y', x', hb', ha', hyx⟩
  obtain rfl : y = y' := Option.some.inj (hb.symm.trans hb')
  obtain rfl : x = x' := Option.some.inj (ha.symm.trans ha')
  rw [ha, hb, le_antisymm hxy hyx]

/-- In the comparisons of numbers: one is at most another if it is below or equal to it. -/
theorem atMost_iff (ha : a.value? ≠ none) (hb : b.value? ≠ none) :
    a.AtMost b ↔ a.below b = true ∨ a.same b = true := by
  rcases Option.ne_none_iff_exists'.1 ha with ⟨x, hx⟩
  rcases Option.ne_none_iff_exists'.1 hb with ⟨y, hy⟩
  rw [below_iff hx hy, same_iff hx hy, ← le_iff_lt_or_eq]
  constructor
  · rintro ⟨x', y', hx', hy', hle⟩
    obtain rfl : x = x' := Option.some.inj (hx.symm.trans hx')
    obtain rfl : y = y' := Option.some.inj (hy.symm.trans hy')
    exact hle
  · exact fun hle => ⟨x, y, hx, hy, hle⟩

/-- Of two numbers the one that is not below is at least the other one. -/
theorem atMost_of_not_below (ha : a.value? ≠ none) (hb : b.value? ≠ none)
    (h : b.below a = false) : a.AtMost b := by
  rcases Option.ne_none_iff_exists'.1 ha with ⟨x, hx⟩
  rcases Option.ne_none_iff_exists'.1 hb with ⟨y, hy⟩
  refine ⟨x, y, hx, hy, not_lt.1 fun hlt => ?_⟩
  rw [(below_iff hy hx).2 hlt] at h
  contradiction

/-- A number below another is at most the other. -/
theorem AtMost.of_below (ha : a.value? ≠ none) (hb : b.value? ≠ none)
    (h : a.below b = true) : a.AtMost b :=
  (atMost_iff ha hb).2 (.inl h)

theorem AtMost.refl (ha : a.value? ≠ none) : a.AtMost a := by
  rcases Option.ne_none_iff_exists'.1 ha with ⟨x, hx⟩
  exact ⟨x, x, hx, hx, le_refl x⟩

/-! ## The lower and the upper of two numbers -/

/-- The lower of two numbers is one of them. -/
theorem lower_eq (a b : Number) : a.lower b = a ∨ a.lower b = b := by
  unfold lower
  split
  · exact .inr rfl
  · exact .inl rfl

/-- The upper of two numbers is one of them. -/
theorem upper_eq (a b : Number) : a.upper b = a ∨ a.upper b = b := by
  unfold upper
  split
  · exact .inr rfl
  · exact .inl rfl

/-- The lower of two numbers is at most both. -/
theorem lower_atMost (ha : a.value? ≠ none) (hb : b.value? ≠ none) :
    (a.lower b).AtMost a ∧ (a.lower b).AtMost b := by
  unfold lower
  split
  · exact ⟨.of_below hb ha ‹_›, .refl hb⟩
  · exact ⟨.refl ha, atMost_of_not_below ha hb (Bool.eq_false_iff.2 ‹_›)⟩

/-- The upper of two numbers is at least both. -/
theorem atMost_upper (ha : a.value? ≠ none) (hb : b.value? ≠ none) :
    a.AtMost (a.upper b) ∧ b.AtMost (a.upper b) := by
  unfold upper
  split
  · exact ⟨.of_below ha hb ‹_›, .refl hb⟩
  · exact ⟨.refl ha, atMost_of_not_below hb ha (Bool.eq_false_iff.2 ‹_›)⟩

end AtMost

/-! ## The range of numbers -/

/-- A fold that always keeps one of two numbers ends with one that all others relate to. -/
theorem foldl_extreme {choose : Number → Number → Number} (related : Number → Number → Prop)
    (hchoose : ∀ a b, choose a b = a ∨ choose a b = b)
    (hrelated : ∀ {a b}, a.value? ≠ none → b.value? ≠ none →
      related (choose a b) a ∧ related (choose a b) b)
    (hrefl : ∀ {a}, a.value? ≠ none → related a a)
    (htrans : ∀ {a b c}, related a b → related b c → related a c)
    (others : List Number) (first : Number) (h : ∀ number ∈ first :: others, number.value? ≠ none) :
    others.foldl choose first ∈ first :: others ∧
      ∀ number ∈ first :: others, related (others.foldl choose first) number := by
  induction others generalizing first with
  | nil =>
      refine ⟨List.mem_singleton_self _, fun number hnumber => ?_⟩
      rw [List.mem_singleton.1 hnumber]
      exact hrefl (h first List.mem_cons_self)
  | cons other rest ih =>
      have hfirst := h first List.mem_cons_self
      have hother := h other (List.mem_cons_of_mem _ List.mem_cons_self)
      rcases hrelated hfirst hother with ⟨hleft, hright⟩
      have hkept : choose first other ∈ first :: other :: rest := by
        rcases hchoose first other with heq | heq <;> simp [heq]
      have hrest (number : Number) (hnumber : number ∈ choose first other :: rest) :
          number ∈ first :: other :: rest := by
        rcases List.mem_cons.1 hnumber with rfl | hmem
        · exact hkept
        · exact List.mem_cons_of_mem _ (List.mem_cons_of_mem _ hmem)
      rcases ih (choose first other) fun number hnumber => h number (hrest number hnumber)
        with ⟨hmem, hall⟩
      have hchosen := hall _ List.mem_cons_self
      refine ⟨hrest _ hmem, fun number hnumber => ?_⟩
      rcases List.mem_cons.1 hnumber with rfl | hnumber
      · exact htrans hchosen hleft
      · rcases List.mem_cons.1 hnumber with rfl | hnumber
        · exact htrans hchosen hright
        · exact hall number (List.mem_cons_of_mem _ hnumber)

end Number
end Wardley
