import Wardley.Document.Json
import Wardley.Proofs.Numeric.Shortest

/-!
# Numbers in JSON read back

An integer is written as its digits and a finite double as the digits of its shortest
decimal, with a point or an exponent.  Both are read back as what they were, and an
integer stays an integer, whatever text follows that the number does not go on in.

Main results:

- `takeNumber_digits`: digits without a point or an exponent are read as an integer.
- `takeNumber_digitsText`: the digits of a decimal are read as the double of this decimal.
- `takeWord?_of_digit`: no word starts a text that starts with a digit.
-/

namespace Wardley
namespace Json

/-! ## Digits -/

/-- A text that starts with no digit. -/
def NoDigit (text : List Char) : Prop := ∀ c ∈ text.head?, c.isDigit = false

/-- A text in which no number before it goes on. -/
def EndsNumber (text : List Char) : Prop :=
  ∀ c ∈ text.head?, c.isDigit = false ∧ c ≠ '.' ∧ c ≠ 'e' ∧ c ≠ 'E'

/-- Digits of a whole number: a leading zero stands alone. -/
structure IsWhole (digits : List Char) : Prop where
  ne_nil : digits ≠ []
  isDigit : ∀ c ∈ digits, c.isDigit
  zero : digits.head? = some '0' → digits = ['0']

/-- No digit follows the end of a number. -/
theorem EndsNumber.noDigit {text : List Char} (h : EndsNumber text) : NoDigit text :=
  fun c hc => (h c hc).1

/-- A text that starts with another character starts with no digit. -/
theorem noDigit_cons {c : Char} (h : c.isDigit = false) (text : List Char) :
    NoDigit (c :: text) := by
  intro d hd
  rw [List.head?_cons, Option.mem_some_iff] at hd
  rwa [← hd]

/-- Digits are taken up to a text that starts with none. -/
theorem takeDigits_append {digits rest : List Char} (hdigits : ∀ c ∈ digits, c.isDigit)
    (hrest : NoDigit rest) : takeDigits (digits ++ rest) = (digits, rest) := by
  have htake : rest.takeWhile Char.isDigit = [] := by
    cases rest with
    | nil => rfl
    | cons c others => simp [hrest c rfl]
  have hdrop : rest.dropWhile Char.isDigit = rest := by
    cases rest with
    | nil => rfl
    | cons c others => simp [hrest c rfl]
  rw [takeDigits, List.span_eq_takeWhile_dropWhile, List.takeWhile_append_of_pos hdigits,
    List.dropWhile_append_of_pos hdigits, htake, hdrop, List.append_nil]

/-- Digits are read as their number in base ten. -/
theorem natural_eq (digits : List Char) : natural digits = Nat.ofDigitChars 10 digits 0 := by
  simp only [natural, Nat.ofDigitChars_eq_foldl, Nat.mul_comm]

/-- The digits of a number are read as the number. -/
theorem natural_toDigits (n : Nat) : natural (Nat.toDigits 10 n) = n := by
  rw [natural_eq, Nat.ofDigitChars_ten_toDigits]

/-- Leading zeros do not change a number. -/
theorem natural_zeros_append (count : Nat) (digits : List Char) :
    natural (List.replicate count '0' ++ digits) = natural digits := by
  rw [natural_eq, natural_eq, Nat.ofDigitChars_append, Nat.ofDigitChars_replicate_zero,
    Nat.mul_zero]

/-- Each zero behind a number multiplies it by ten. -/
theorem natural_append_zeros (digits : List Char) (count : Nat) :
    natural (digits ++ List.replicate count '0') = natural digits * 10 ^ count := by
  rw [natural_eq, natural_eq, Nat.ofDigitChars_append, Nat.ofDigitChars_replicate_zero,
    Nat.mul_comm]

/-- The digits of a number are digits. -/
theorem isDigit_of_mem_toDigits {n : Nat} {c : Char} (h : c ∈ Nat.toDigits 10 n) : c.isDigit :=
  Nat.isDigit_of_mem_toDigits (by decide) (by decide) h

/-- A number below a power of ten has at most as many digits as the exponent. -/
theorem length_toDigits_le {n k : Nat} (hk : 0 < k) (h : n < Nat.pow 10 k) :
    (Nat.toDigits 10 n).length ≤ k :=
  (Nat.length_toDigits_le_iff (by decide) hk).2 h

/-- The digits of a positive number start with no zero. -/
theorem head?_toDigits_ne_zero {n : Nat} (h : 0 < n) : (Nat.toDigits 10 n).head? ≠ some '0' := by
  induction n using Nat.strongRecOn with
  | ind n ih =>
    by_cases hlt : n < 10
    · rw [Nat.toDigits_of_lt_base hlt, List.head?_cons, ne_eq, Option.some.injEq,
        Nat.digitChar_eq_zero]
      omega
    · rw [Nat.toDigits_of_base_le (by decide) (by omega),
        List.head?_append_of_ne_nil _ Nat.toDigits_ne_nil]
      exact ih (n / 10) (by omega) (by omega)

/-- The digits of a number are a whole part. -/
theorem isWhole_toDigits (n : Nat) : IsWhole (Nat.toDigits 10 n) where
  ne_nil := Nat.toDigits_ne_nil
  isDigit _ := isDigit_of_mem_toDigits
  zero h := by
    rcases Nat.eq_zero_or_pos n with rfl | hpos
    · exact Nat.toDigits_zero 10
    · exact absurd h (head?_toDigits_ne_zero hpos)

/-- Digits that start with no zero are those of a whole number. -/
theorem isWhole_of_head {digits : List Char} (hne : digits ≠ [])
    (hdigits : ∀ c ∈ digits, c.isDigit) (hhead : digits.head? ≠ some '0') : IsWhole digits :=
  ⟨hne, hdigits, fun h => absurd h hhead⟩

/-- One digit is a whole part. -/
theorem isWhole_singleton {c : Char} (h : c.isDigit) : IsWhole [c] where
  ne_nil := List.cons_ne_nil c []
  isDigit d hd := by rwa [List.mem_singleton.1 hd]
  zero hc := by rw [Option.some.inj hc]

/-! ## Parts of a number -/

/-- A text behind its sign. -/
def signed (negative : Bool) (text : List Char) : List Char :=
  if negative then '-' :: text else text

theorem ne_of_isDigit {c d : Char} (hc : c.isDigit) (hd : d.isDigit = false) : c ≠ d := by
  rintro rfl
  rw [hc] at hd
  exact Bool.noConfusion hd

/-- The sign of a number is read back. -/
theorem takeMinus_signed (negative : Bool) {c : Char} (hc : c ≠ '-') (rest : List Char) :
    takeMinus (signed negative (c :: rest)) = (negative, c :: rest) := by
  cases negative with
  | true => rfl
  | false =>
    simp only [signed, Bool.false_eq_true, if_false]
    unfold takeMinus
    split
    · rename_i heq
      injection heq with heq
      exact absurd heq hc
    · rfl

/-- A whole part is read up to the first character that is no digit. -/
theorem takeWhole_append {whole rest : List Char} (hwhole : IsWhole whole) (hrest : NoDigit rest) :
    takeWhole (whole ++ rest) = (whole, rest) := by
  have hdigits := takeDigits_append hwhole.isDigit hrest
  cases whole with
  | nil => exact absurd rfl hwhole.ne_nil
  | cons c digits =>
    by_cases hc : c = '0'
    · subst hc
      have hzero : digits = [] := List.cons_eq_cons.1 (hwhole.zero rfl) |>.2
      rw [hzero]
      rfl
    · rw [List.cons_append] at hdigits ⊢
      unfold takeWhole
      split
      · rename_i heq
        injection heq with heq
        exact absurd heq hc
      · exact hdigits

/-- The digits behind a point are read as the fraction. -/
theorem takeFraction_point {digits rest : List Char} (hne : digits ≠ [])
    (hdigits : ∀ c ∈ digits, c.isDigit) (hrest : NoDigit rest) :
    takeFraction ('.' :: (digits ++ rest)) = (digits, rest) := by
  simp only [takeFraction, takeDigits_append hdigits hrest]
  cases digits with
  | nil => exact absurd rfl hne
  | cons => rfl

/-- Without a point there is no fraction. -/
theorem takeFraction_of_ne {rest : List Char} (h : ∀ c ∈ rest.head?, c ≠ '.') :
    takeFraction rest = ([], rest) := by
  unfold takeFraction
  split
  · exact absurd rfl (h '.' rfl)
  · rfl

/-- Without its letter there is no exponent. -/
theorem takeExponent_of_ne {rest : List Char} (h : ∀ c ∈ rest.head?, c ≠ 'e' ∧ c ≠ 'E') :
    takeExponent rest = (none, rest) := by
  cases rest with
  | nil => rfl
  | cons c others => simp [takeExponent, h c rfl]

/-- No fraction follows the end of a number. -/
theorem EndsNumber.takeFraction {rest : List Char} (h : EndsNumber rest) :
    Json.takeFraction rest = ([], rest) :=
  takeFraction_of_ne fun c hc => (h c hc).2.1

/-- No exponent follows the end of a number. -/
theorem EndsNumber.takeExponent {rest : List Char} (h : EndsNumber rest) :
    Json.takeExponent rest = (none, rest) :=
  takeExponent_of_ne fun c hc => (h c hc).2.2

/-- The digits of an exponent, at least two of them. -/
def exponentDigits (e : Int) : List Char :=
  let digits := Nat.toDigits 10 e.natAbs
  if digits.length < 2 then '0' :: digits else digits

/-- The digits of an exponent are read as its absolute value. -/
theorem natural_exponentDigits (e : Int) : natural (exponentDigits e) = e.natAbs := by
  unfold exponentDigits
  simp only
  split
  · exact (natural_zeros_append 1 _).trans (natural_toDigits _)
  · exact natural_toDigits _

/-- The digits of an exponent are digits. -/
theorem isDigit_of_mem_exponentDigits {e : Int} {c : Char} (h : c ∈ exponentDigits e) :
    c.isDigit := by
  unfold exponentDigits at h
  simp only at h
  split at h
  · rcases List.mem_cons.1 h with rfl | h
    · rfl
    · exact isDigit_of_mem_toDigits h
  · exact isDigit_of_mem_toDigits h

theorem exponentDigits_ne_nil (e : Int) : exponentDigits e ≠ [] := by
  unfold exponentDigits
  simp only
  split
  · exact List.cons_ne_nil _ _
  · exact Nat.toDigits_ne_nil

/-- An exponent is written as its sign and its digits. -/
theorem exponentText_eq (e : Int) :
    FloatLayout.exponentText e = (if e < 0 then '-' else '+') :: exponentDigits e := rfl

/-- The text of an exponent is read as this exponent. -/
theorem takeExponent_exponentText (e : Int) {rest : List Char} (hrest : NoDigit rest) :
    takeExponent ('e' :: (FloatLayout.exponentText e ++ rest)) = (some e, rest) := by
  have hsign : takeSign (FloatLayout.exponentText e ++ rest) =
      (decide (e < 0), exponentDigits e ++ rest) := by
    rw [exponentText_eq]
    by_cases h : e < 0
    · rw [if_pos h, decide_eq_true h]
      rfl
    · rw [if_neg h, decide_eq_false h]
      rfl
  have hdigits := takeDigits_append (fun _ => isDigit_of_mem_exponentDigits (e := e)) hrest
  have hnatural := natural_exponentDigits e
  simp only [takeExponent, true_or, if_true, hsign, hdigits]
  cases hcases : exponentDigits e with
  | nil => exact absurd hcases (exponentDigits_ne_nil e)
  | cons c digits =>
    rw [hcases] at hnatural
    simp only [hnatural, decide_eq_true_eq, Prod.mk.injEq, Option.some.injEq, and_true]
    split <;> omega

/-! ## Numbers -/

/-- A whole part starts with a character other than the sign. -/
theorem IsWhole.exists_cons {whole : List Char} (h : IsWhole whole) :
    ∃ c digits, whole = c :: digits ∧ c ≠ '-' := by
  rcases List.exists_cons_of_ne_nil h.ne_nil with ⟨c, digits, rfl⟩
  exact ⟨c, digits, rfl, ne_of_isDigit (h.isDigit c List.mem_cons_self) rfl⟩

/-- Digits without a point or an exponent are read as an integer. -/
theorem takeNumber_digits (negative : Bool) {whole rest : List Char} (hwhole : IsWhole whole)
    (hlength : whole.length ≤ Number.digitLimit) (hrest : EndsNumber rest) :
    takeNumber (signed negative (whole ++ rest)) =
      .ok (.int (if negative then -(natural whole : Int) else natural whole), rest) := by
  rcases hwhole.exists_cons with ⟨c, digits, rfl, hc⟩
  have hminus : takeMinus (signed negative (c :: digits ++ rest)) =
      (negative, c :: digits ++ rest) := takeMinus_signed negative hc (digits ++ rest)
  have hcheck : checkDigits (c :: digits).length = .ok () := by
    rw [checkDigits, if_neg (Nat.not_lt.2 hlength)]
  simp only [takeNumber, hminus, takeWhole_append hwhole hrest.noDigit, hrest.takeFraction,
    hrest.takeExponent, hcheck]
  rfl

/-- Digits with a fraction or an exponent are read as a double. -/
theorem takeNumber_decimal (negative : Bool) {whole fraction rest after others : List Char}
    {e : Option Int} (hwhole : IsWhole whole) (hrest : NoDigit rest)
    (hfraction : takeFraction rest = (fraction, after))
    (hexponent : takeExponent after = (e, others))
    (hsome : fraction ≠ [] ∨ e ≠ none) :
    takeNumber (signed negative (whole ++ rest)) =
      .ok (.float (.ofDecimal
        ⟨negative, natural (whole ++ fraction), e.getD 0 - fraction.length⟩), others) := by
  rcases hwhole.exists_cons with ⟨c, digits, rfl, hc⟩
  have hminus : takeMinus (signed negative (c :: digits ++ rest)) =
      (negative, c :: digits ++ rest) := takeMinus_signed negative hc (digits ++ rest)
  have hkind : (fraction.isEmpty && e.isNone) = false := by
    rcases hsome with h | h
    · simp [h]
    · cases e with
      | none => exact absurd rfl h
      | some => simp
  simp only [takeNumber, hminus, takeWhole_append hwhole hrest, hfraction, hexponent, hkind]
  rfl

/-- Digits on both sides of a point are read as the double of their decimal. -/
theorem takeNumber_point (negative : Bool) {whole fraction rest : List Char}
    (hwhole : IsWhole whole) (hne : fraction ≠ []) (hfraction : ∀ c ∈ fraction, c.isDigit)
    (hrest : EndsNumber rest) :
    takeNumber (signed negative (whole ++ '.' :: (fraction ++ rest))) =
      .ok (.float (.ofDecimal ⟨negative, natural (whole ++ fraction), -fraction.length⟩),
        rest) := by
  have hread := takeNumber_decimal negative hwhole (noDigit_cons rfl _)
    (takeFraction_point hne hfraction hrest.noDigit) hrest.takeExponent (.inl hne)
  rwa [Option.getD_none, Int.zero_sub] at hread

/-! ## Digits of a decimal -/

section Layout

variable (negative : Bool)

/-- What stands among digits and zeros is a digit. -/
theorem isDigit_of_mem_append_zeros {digits : List Char} (hdigits : ∀ c ∈ digits, c.isDigit)
    {count : Nat} {c : Char} (hc : c ∈ digits ∨ c ∈ List.replicate count '0') : c.isDigit := by
  rcases hc with hc | hc
  · exact hdigits c hc
  · rw [List.eq_of_mem_replicate hc]
    rfl

/-- All digits stand behind the point, with zeros before them. -/
theorem takeNumber_behind {digits rest : List Char} (hdigits : IsWhole digits) (count : Nat)
    (hrest : EndsNumber rest) :
    takeNumber (signed negative ('0' :: '.' :: (List.replicate count '0' ++ digits ++ rest))) =
      .ok (.float (.ofDecimal ⟨negative, natural digits, -(count + digits.length : Nat)⟩),
        rest) := by
  have hfraction : ∀ c ∈ List.replicate count '0' ++ digits, c.isDigit := fun c hc =>
    isDigit_of_mem_append_zeros hdigits.isDigit (List.mem_append.1 hc).symm
  have hvalue : natural (['0'] ++ (List.replicate count '0' ++ digits)) = natural digits := by
    rw [← natural_zeros_append (count + 1) digits, List.replicate_succ]
    rfl
  have hread := takeNumber_point negative (isWhole_singleton (c := '0') rfl)
    (List.append_ne_nil_of_right_ne_nil _ hdigits.ne_nil) hfraction hrest
  rwa [hvalue, List.length_append, List.length_replicate] at hread

/-- All digits stand in front of the point, with zeros behind them. -/
theorem takeNumber_front {digits rest : List Char} (hdigits : IsWhole digits) {count : Nat}
    (hhead : count ≠ 0 → digits.head? ≠ some '0') (hrest : EndsNumber rest) :
    takeNumber (signed negative (digits ++ List.replicate count '0' ++ '.' :: '0' :: rest)) =
      .ok (.float (.ofDecimal ⟨negative, natural digits, count⟩), rest) := by
  have hwhole : IsWhole (digits ++ List.replicate count '0') := by
    by_cases hcount : count = 0
    · simpa [hcount] using hdigits
    · apply isWhole_of_head (List.append_ne_nil_of_left_ne_nil hdigits.ne_nil _)
      · exact fun c hc => isDigit_of_mem_append_zeros hdigits.isDigit (List.mem_append.1 hc)
      · rw [List.head?_append_of_ne_nil _ hdigits.ne_nil]
        exact hhead hcount
  have hvalue : natural (digits ++ List.replicate count '0' ++ ['0']) =
      natural digits * 10 ^ (count + 1) := by
    rw [← natural_append_zeros, List.append_assoc, List.replicate_succ']
  have hplace : -((['0'].length : Nat) : Int) + ((count + 1 : Nat) : Int) = count := by simp
  have hread := takeNumber_point negative hwhole (List.cons_ne_nil '0' []) (by simp) hrest
  rwa [hvalue, Double.ofDecimal_shift_pow, hplace] at hread

/-- The point stands among the digits. -/
theorem takeNumber_among {digits rest : List Char} (hdigits : ∀ c ∈ digits, c.isDigit)
    (hhead : digits.head? ≠ some '0') {count : Nat} (hpos : 0 < count)
    (hlt : count < digits.length) (hrest : EndsNumber rest) :
    takeNumber (signed negative (digits.take count ++ '.' :: (digits.drop count ++ rest))) =
      .ok (.float (.ofDecimal
        ⟨negative, natural digits, -(digits.length - count : Nat)⟩), rest) := by
  have hwhole : IsWhole (digits.take count) := by
    apply isWhole_of_head
    · exact List.ne_nil_of_length_pos (by rw [List.length_take]; omega)
    · exact fun c hc => hdigits c (List.mem_of_mem_take hc)
    · rwa [List.head?_take, if_neg (Nat.ne_of_gt hpos)]
  have hne : digits.drop count ≠ [] := List.ne_nil_of_length_pos (by rw [List.length_drop]; omega)
  have hread := takeNumber_point negative hwhole hne
    (fun c hc => hdigits c (List.mem_of_mem_drop hc)) hrest
  rwa [List.take_append_drop, List.length_drop] at hread

variable {coefficient : Nat} {e : Int} {rest : List Char}

/-- Digits with a point at, before or behind them are read as the double of their decimal. -/
theorem takeNumber_positional (h : coefficient ≠ 0 ∨ e = 0) (hrest : EndsNumber rest) :
    takeNumber (signed negative (FloatLayout.positional (Nat.toDigits 10 coefficient)
        ((Nat.toDigits 10 coefficient).length + e) ++ rest)) =
      .ok (.float (.ofDecimal ⟨negative, coefficient, e⟩), rest) := by
  have hdigits := isWhole_toDigits coefficient
  have hnatural := natural_toDigits coefficient
  have hhead : e ≠ 0 → (Nat.toDigits 10 coefficient).head? ≠ some '0' := fun he =>
    head?_toDigits_ne_zero (Nat.pos_of_ne_zero (h.resolve_right he))
  generalize Nat.toDigits 10 coefficient = digits at *
  unfold FloatLayout.positional
  split
  · have hplace : -(((-((digits.length : Int) + e)).toNat + digits.length : Nat) : Int) = e := by
      omega
    have hread := takeNumber_behind negative hdigits (-((digits.length : Int) + e)).toNat hrest
    rw [hnatural, hplace] at hread
    simpa using hread
  · split
    · rcases Int.eq_ofNat_of_zero_le (show 0 ≤ e by omega) with ⟨count, rfl⟩
      have hcount : ((digits.length : Int) + count).toNat - digits.length = count := by omega
      have hzeros : count ≠ 0 → digits.head? ≠ some '0' := fun hne =>
        hhead (Int.natCast_ne_zero.2 hne)
      have hread := takeNumber_front negative hdigits hzeros hrest
      rw [hnatural] at hread
      simpa [hcount] using hread
    · have hplace : -((digits.length - ((digits.length : Int) + e).toNat : Nat) : Int) = e := by
        omega
      have hread := takeNumber_among negative hdigits.isDigit (hhead (by omega))
        (show 0 < ((digits.length : Int) + e).toNat by omega) (by omega) hrest
      rw [hnatural, hplace] at hread
      simpa using hread

/-- Digits with an exponent are read as the double of their decimal. -/
theorem takeNumber_scientific (layout : FloatLayout) (hrest : EndsNumber rest) :
    takeNumber (signed negative (layout.scientific (Nat.toDigits 10 coefficient)
        ((Nat.toDigits 10 coefficient).length + e - 1) ++ rest)) =
      .ok (.float (.ofDecimal ⟨negative, coefficient, e⟩), rest) := by
  have hdigits := isWhole_toDigits coefficient
  have hnatural := natural_toDigits coefficient
  have hexponent (place : Int) := takeExponent_exponentText place hrest.noDigit
  generalize Nat.toDigits 10 coefficient = digits at *
  rcases List.exists_cons_of_ne_nil hdigits.ne_nil with ⟨first, others, rfl⟩
  have hfirst : first.isDigit := hdigits.isDigit first List.mem_cons_self
  unfold FloatLayout.scientific
  cases others with
  | nil =>
    have hplace : (([first].length : Nat) : Int) + e - 1 = e := by simp
    rw [hplace]
    simp only
    split
    · -- A lone digit has a zero behind its point.
      have hread := takeNumber_decimal negative hdigits (noDigit_cons rfl _)
        (takeFraction_point (List.cons_ne_nil '0' []) (by simp)
          (noDigit_cons (c := 'e') rfl (FloatLayout.exponentText e ++ rest)))
        (hexponent e) (.inl (List.cons_ne_nil _ _))
      have hvalue : natural ([first] ++ ['0']) = coefficient * 10 := by
        rw [← hnatural]
        exact natural_append_zeros [first] 1
      rw [hvalue, Double.ofDecimal_shift, Option.getD_some] at hread
      simpa using hread
    · have hread := takeNumber_decimal negative hdigits (noDigit_cons (c := 'e') rfl _)
        (takeFraction_of_ne (by simp)) (hexponent e) (.inr (Option.some_ne_none e))
      rw [List.append_nil, hnatural, Option.getD_some] at hread
      simpa using hread
  | cons second others =>
    have hread := takeNumber_decimal negative (isWhole_singleton hfirst) (noDigit_cons rfl _)
      (takeFraction_point (List.cons_ne_nil second others)
        (fun c hc => hdigits.isDigit c (List.mem_cons_of_mem first hc))
        (noDigit_cons (c := 'e') rfl _))
      (hexponent ((first :: second :: others).length + e - 1)) (.inl (List.cons_ne_nil _ _))
    have hplace : (((first :: second :: others).length : Nat) : Int) + e - 1 -
        ((second :: others).length : Nat) = e := by
      simp only [List.length_cons]
      omega
    have hvalue : natural ([first] ++ second :: others) = coefficient := hnatural
    rw [hvalue, Option.getD_some, hplace] at hread
    simpa using hread

/-- The digits of a decimal are read as the double of this decimal. -/
theorem takeNumber_digitsText (layout : FloatLayout) {d : Decimal}
    (h : d.coefficient ≠ 0 ∨ d.exponent = 0) (hrest : EndsNumber rest) :
    takeNumber (signed d.negative (layout.digitsText d ++ rest)) =
      .ok (.float (.ofDecimal d), rest) := by
  unfold FloatLayout.digitsText
  simp only
  split
  · exact takeNumber_positional d.negative h hrest
  · exact takeNumber_scientific d.negative layout hrest

end Layout

/-! ## Texts of numbers -/

/-- A character that words, numbers and their signs start with. -/
def isLeafHead (c : Char) : Bool := c.isAlphanum || c = '-'

/-- No word starts with digits. -/
theorem takeWord?_of_digit (negative : Bool) {c : Char} (hc : c.isDigit) (text : List Char) :
    takeWord? (signed negative (c :: text)) = none := by
  have hn : 'n' ≠ c := (ne_of_isDigit hc rfl).symm
  have ht : 't' ≠ c := (ne_of_isDigit hc rfl).symm
  have hf : 'f' ≠ c := (ne_of_isDigit hc rfl).symm
  have hN : 'N' ≠ c := (ne_of_isDigit hc rfl).symm
  have hI : 'I' ≠ c := (ne_of_isDigit hc rfl).symm
  have hm : '-' ≠ c := (ne_of_isDigit hc rfl).symm
  cases negative <;>
    simp [takeWord?, wordValues, signed, Text.afterPrefix, hn, ht, hf, hN, hI, hm]

/-- An integer is written as its sign and the digits of its absolute value. -/
theorem toList_toString_int (value : Int) :
    (toString value).toList = signed (decide (value < 0)) (Nat.toDigits 10 value.natAbs) := by
  rw [Int.toString_eq_repr, Int.repr_eq_if]
  split
  · have habs : value.toNat = value.natAbs := by omega
    rw [Nat.toList_repr, habs, signed, if_neg (by simpa using ‹0 ≤ value›)]
  · have habs : (-value).toNat = value.natAbs := by omega
    rw [String.toList_append, Nat.toList_repr, habs, signed, if_pos (by simpa using ‹¬0 ≤ value›)]
    rfl

/-- The written digits of a decimal start with a digit. -/
theorem digitsText_eq_cons (layout : FloatLayout) (d : Decimal) :
    ∃ c others, layout.digitsText d = c :: others ∧ c.isDigit := by
  obtain ⟨first, others, hdigits⟩ :=
    List.exists_cons_of_ne_nil (Nat.toDigits_ne_nil (b := 10) (n := d.coefficient))
  have hfirst : first.isDigit := isDigit_of_mem_toDigits (by rw [hdigits]; exact List.mem_cons_self)
  unfold FloatLayout.digitsText
  simp only [hdigits]
  split
  · unfold FloatLayout.positional
    split
    · exact ⟨_, _, rfl, rfl⟩
    · split
      · exact ⟨_, _, rfl, hfirst⟩
      · obtain ⟨count, hcount⟩ : ∃ count : Nat,
            (((first :: others).length : Int) + d.exponent).toNat = count + 1 :=
          ⟨(((first :: others).length : Int) + d.exponent).toNat - 1, by omega⟩
        rw [hcount, List.take_succ_cons]
        exact ⟨_, _, rfl, hfirst⟩
  · unfold FloatLayout.scientific
    cases others with
    | nil =>
      simp only
      split <;> exact ⟨first, _, rfl, hfirst⟩
    | cons => exact ⟨_, _, rfl, hfirst⟩

/-- A leaf that starts as a number is read as a number. -/
theorem takeLeaf_of_digit {negative : Bool} {c : Char} {text rest : List Char} {value : Number}
    (hc : c.isDigit) (hread : takeNumber (signed negative (c :: text)) = .ok (value, rest)) :
    takeLeaf (signed negative (c :: text)) = .ok (.number value, rest) := by
  simp only [takeLeaf, takeWord?_of_digit negative hc, hread]
  rfl

/-- An integer is read back as an integer. -/
theorem takeLeaf_int {value : Int} (htext : (Number.int value).hasText) {rest : List Char}
    (hrest : EndsNumber rest) :
    takeLeaf (((Number.int value).text .json).toList ++ rest) =
      .ok (.number (.int value), rest) := by
  have hdigits := isWhole_toDigits value.natAbs
  rw [Number.hasText, decide_eq_true_eq] at htext
  have hlength : (Nat.toDigits 10 value.natAbs).length ≤ Number.digitLimit :=
    length_toDigits_le (by decide) htext
  have hread := takeNumber_digits (decide (value < 0)) hdigits hlength hrest
  have hvalue : (if decide (value < 0) then -(value.natAbs : Int) else value.natAbs) = value := by
    simp only [decide_eq_true_eq]
    split <;> omega
  rw [natural_toDigits, hvalue] at hread
  rcases hdigits.exists_cons with ⟨c, digits, hcons, -⟩
  have hc : c.isDigit := hdigits.isDigit c (by rw [hcons]; exact List.mem_cons_self)
  have happend : ((Number.int value).text .json).toList ++ rest =
      signed (decide (value < 0)) (Nat.toDigits 10 value.natAbs ++ rest) := by
    rw [Number.text, toList_toString_int]
    cases decide (value < 0) <;> rfl
  rw [happend]
  rw [hcons] at hread ⊢
  exact takeLeaf_of_digit hc hread

/-- A double that is a number is read back as this double. -/
theorem takeLeaf_ofRank (negative : Bool) (rank : Fin (infinityRank + 1)) {rest : List Char}
    (hrest : EndsNumber rest) :
    takeLeaf (((Number.float (.ofRank negative rank)).text .json).toList ++ rest) =
      .ok (.number (.float (.ofRank negative rank)), rest) := by
  rw [Number.text, FloatLayout.text, String.toList_ofList]
  by_cases hinfinite : rank.val = infinityRank
  · have hrank : rank = Fin.last infinityRank := Fin.ext hinfinite
    subst hrank
    have hfinite : (Fin.last infinityRank).val = infinityRank := rfl
    cases negative <;>
      simp [takeLeaf, takeWord?, wordValues, FloatLayout.chars, FloatLayout.json,
        Text.afterPrefix, Double.infinity]
  · have happend : FloatLayout.chars .json (.ofRank negative rank) ++ rest =
        signed negative (FloatLayout.digitsText .json (Double.shortest negative rank) ++ rest) := by
      simp only [FloatLayout.chars, if_neg hinfinite]
      cases negative <;> rfl
    have hread := takeNumber_digitsText .json (Double.shortest_coefficient negative rank) hrest
    rw [Double.ofDecimal_shortest, Double.shortest_negative] at hread
    rcases digitsText_eq_cons .json (Double.shortest negative rank) with ⟨c, others, hcons, hc⟩
    rw [happend]
    rw [hcons] at hread ⊢
    exact takeLeaf_of_digit hc hread

end Json
end Wardley
