import Mathlib.Data.Bool.AllAny
import Mathlib.Data.List.TakeDrop
import Wardley.Notation.Numeral
import Wardley.Proofs.Success
import Wardley.Proofs.Text.Lines
import Wardley.Proofs.Text.Words

/-!
# Numerals as they are written

A numeral is written as a sign, digits around a point and an exponent, of which all but one
digit may be missing.  It is read back as the decimal that its parts denote.  It holds
neither blanks nor any character that means something else in a declaration, so that
pairs of numerals are read back from their brackets.

Main definitions:

- `Exponent`, `Numeral`: the parts of a numeral, with their texts.
- `Numeral.decimal`, `Numeral.value`: what a numeral denotes.
- `pairText`: two numerals with a comma between them.

Main results:

- `decimal?_text`: a numeral is read back as the decimal that it denotes.
- `Numeral.isNumeric_of_mem_text`: the characters of a numeral.
- `readPair_pairText`: a pair of numerals is read back.
-/

namespace Wardley
namespace Notation

open Text

/-! ## Parts of a numeral -/

/-- The signs that may stand in front of digits. -/
def signs : List (List Char) := [[], ['+'], ['-']]

/-- The power of ten behind a numeral. -/
structure Exponent where
  /-- The letter that begins the exponent. -/
  letter : Char
  sign : List Char
  digits : List Char
  letter_mem : letter ∈ ['e', 'E'] := by decide
  sign_mem : sign ∈ signs := by decide
  digits_ne_nil : digits ≠ [] := by decide
  all_digits : digits.all isDigit = true := by decide

/-- A numeral: one of its digits stands before or behind the point. -/
structure Numeral where
  sign : List Char
  whole : List Char
  /-- The digits behind the point, if there is a point. -/
  fraction : Option (List Char) := none
  exponent : Option Exponent := none
  sign_mem : sign ∈ signs := by decide
  all_whole : whole.all isDigit = true := by decide
  all_fraction : (fraction.getD []).all isDigit = true := by decide
  ne_nil : whole ≠ [] ∨ fraction.getD [] ≠ [] := by decide

/-- The digits of an exponent are digits. -/
theorem Exponent.isDigit_digits (exponent : Exponent) :
    ∀ c ∈ exponent.digits, isDigit c = true :=
  List.all_eq_true.1 exponent.all_digits

/-- The whole part of a numeral consists of digits. -/
theorem Numeral.isDigit_whole (numeral : Numeral) : ∀ c ∈ numeral.whole, isDigit c = true :=
  List.all_eq_true.1 numeral.all_whole

/-- The fraction of a numeral consists of digits. -/
theorem Numeral.isDigit_fraction (numeral : Numeral) :
    ∀ digits ∈ numeral.fraction, ∀ c ∈ digits, isDigit c = true := by
  intro digits hdigits
  have hall := numeral.all_fraction
  rw [Option.mem_def.1 hdigits] at hall
  exact List.all_eq_true.1 hall

/-- An exponent as it is written. -/
def Exponent.text (exponent : Exponent) : List Char :=
  exponent.letter :: (exponent.sign ++ exponent.digits)

/-- The power of ten that an exponent denotes. -/
def Exponent.value (exponent : Exponent) : Int :=
  if exponent.sign = ['-'] then -(naturalOf exponent.digits : Int) else naturalOf exponent.digits

namespace Numeral

/-- The point and the digits behind it. -/
def fractionText (numeral : Numeral) : List Char :=
  match numeral.fraction with
  | none => []
  | some digits => '.' :: digits

/-- The exponent, if there is one. -/
def exponentText (numeral : Numeral) : List Char :=
  match numeral.exponent with
  | none => []
  | some exponent => exponent.text

/-- A numeral as it is written. -/
def text (numeral : Numeral) : List Char :=
  numeral.sign ++ (numeral.whole ++ (numeral.fractionText ++ numeral.exponentText))

/-- The decimal that a numeral denotes. -/
def decimal (numeral : Numeral) : Decimal :=
  let fraction := numeral.fraction.getD []
  let exponent := (numeral.exponent.map Exponent.value).getD 0
  ⟨numeral.sign = ['-'], naturalOf (numeral.whole ++ fraction), exponent - fraction.length⟩

/-- The double that a numeral denotes. -/
def value (numeral : Numeral) : Double := .ofDecimal numeral.decimal

end Numeral

/-! ## Digits -/

/-- Digits of a script are no blanks. -/
theorem isBlank_of_isDigit {c : Char} (h : isDigit c = true) : isBlank c = false := by
  have happart : ∀ first ∈ digitZeros, ∀ range ∈ blankRanges,
      range.2 < first ∨ first + 9 < range.1 := by decide
  rcases Option.isSome_iff_exists.1 h with ⟨value, hvalue⟩
  rcases Option.map_eq_some_iff.1 hvalue with ⟨first, hfirst, -⟩
  have hbounds := List.find?_some hfirst
  simp only [Bool.and_eq_true, decide_eq_true_eq] at hbounds
  rw [isBlank, List.any_eq_false]
  intro range hrange
  have := happart first (List.mem_of_find?_eq_some hfirst) range hrange
  simp only [Bool.and_eq_true, decide_eq_true_eq, not_and]
  omega

/-- Digits are taken up to the first other character. -/
theorem spanDigits_append {digits rest : List Char} (hdigits : ∀ c ∈ digits, isDigit c = true)
    (hrest : ∀ c ∈ rest.head?, isDigit c = false) :
    spanDigits (digits ++ rest) = (digits, rest) := by
  rw [spanDigits, List.span_eq_takeWhile_dropWhile, List.takeWhile_append_of_pos hdigits,
    List.dropWhile_append_of_pos hdigits]
  cases rest with
  | nil => simp
  | cons c rest =>
      have hc : isDigit c = false := hrest c rfl
      simp [hc]

/-- A sign is read off a text that begins with no other sign. -/
theorem takeSign_append {sign rest : List Char} (hsign : sign ∈ signs)
    (hrest : ∀ c ∈ rest.head?, c ≠ '+' ∧ c ≠ '-') :
    takeSign (sign ++ rest) = (decide (sign = ['-']), rest) := by
  simp only [signs, List.mem_cons, List.not_mem_nil, or_false] at hsign
  rcases hsign with rfl | rfl | rfl
  · cases rest with
    | nil => rfl
    | cons c rest =>
        rcases hrest c rfl with ⟨hplus, hminus⟩
        simp [takeSign, hplus, hminus]
  · rfl
  · rfl

theorem ne_sign_of_isDigit {c : Char} (h : isDigit c = true) : c ≠ '+' ∧ c ≠ '-' := by
  have hplus : isDigit '+' = false := by decide
  have hminus : isDigit '-' = false := by decide
  exact ⟨ne_of_apply_ne isDigit (by simp [h, hplus]), ne_of_apply_ne isDigit (by simp [h, hminus])⟩

/-! ## Reading back -/

/-- The exponent of a numeral is read back. -/
theorem exponentPart?_text (exponent : Exponent) :
    exponentPart? exponent.text = some exponent.value := by
  have hletter : exponent.letter = 'e' ∨ exponent.letter = 'E' := by
    simpa using exponent.letter_mem
  have hsign : takeSign (exponent.sign ++ exponent.digits) =
      (decide (exponent.sign = ['-']), exponent.digits) :=
    takeSign_append exponent.sign_mem fun c hc =>
      ne_sign_of_isDigit (exponent.isDigit_digits c (List.mem_of_mem_head? hc))
  have hdigits : (exponent.digits.isEmpty || !exponent.digits.all isDigit) = false := by
    rw [List.isEmpty_eq_false_iff.2 exponent.digits_ne_nil,
      exponent.all_digits]
    rfl
  rw [Exponent.text, exponentPart?, if_pos hletter, hsign]
  simp only [hdigits, Exponent.value, decide_eq_true_eq]
  rfl

namespace Numeral

variable (numeral : Numeral)

/-- An exponent begins with its letter. -/
theorem head?_exponentText :
    ∀ c ∈ numeral.exponentText.head?, isDigit c = false ∧ c ≠ '.' ∧ c ≠ '+' ∧ c ≠ '-' := by
  have hletters : ∀ c ∈ ['e', 'E'], isDigit c = false ∧ c ≠ '.' ∧ c ≠ '+' ∧ c ≠ '-' :=
    List.all_iff_forall_prop.1 (by decide)
  rw [exponentText]
  split
  · simp
  · rename_i exponent _
    intro c hc
    obtain rfl : exponent.letter = c := Option.some.inj hc
    exact hletters _ exponent.letter_mem

/-- The digits around the point are read back. -/
theorem takeMantissa?_text :
    takeMantissa? (numeral.whole ++ (numeral.fractionText ++ numeral.exponentText)) =
      some (numeral.whole, numeral.fraction.getD [], numeral.exponentText) := by
  have hexponent : ∀ c ∈ numeral.exponentText.head?, isDigit c = false := fun c hc =>
    (numeral.head?_exponentText c hc).1
  have hpoint : isDigit '.' = false := by decide
  cases hfraction : numeral.fraction with
  | none =>
      have htext : numeral.fractionText = [] := by rw [fractionText, hfraction]
      have hne : numeral.whole ≠ [] := by simpa [hfraction] using numeral.ne_nil
      rcases List.exists_cons_of_ne_nil hne with ⟨d, others, hwhole⟩
      have hspan := spanDigits_append numeral.isDigit_whole hexponent
      rw [htext, List.nil_append, takeMantissa?, hspan, hwhole]
      split
      · simp_all
      · simp_all
      · -- what follows the digits is no point
        rename_i whole rest hnot heq
        rw [Prod.mk.injEq] at heq
        exact absurd rfl (numeral.head?_exponentText '.' (by rw [heq.2]; rfl)).2.1
      · rename_i heq
        cases heq
        rfl
  | some digits =>
      have htext : numeral.fractionText = '.' :: digits := by rw [fractionText, hfraction]
      have hdigits : ∀ c ∈ digits, isDigit c = true := numeral.isDigit_fraction digits hfraction
      have hbegin : ∀ c ∈ ('.' :: (digits ++ numeral.exponentText)).head?, isDigit c = false := by
        simpa using hpoint
      have hspan := spanDigits_append numeral.isDigit_whole hbegin
      have hbehind := spanDigits_append hdigits hexponent
      rw [htext, List.cons_append, takeMantissa?, hspan]
      cases hwhole : numeral.whole with
      | nil =>
          have hne : digits ≠ [] := by simpa [hfraction, hwhole] using numeral.ne_nil
          rcases List.exists_cons_of_ne_nil hne with ⟨d, others, rfl⟩
          simp only [hbehind]
          rfl
      | cons d others =>
          simp only [hbehind]
          rfl

/-- Behind the sign, a numeral begins with a digit or a point. -/
theorem head?_unsigned :
    ∀ c ∈ (numeral.whole ++ (numeral.fractionText ++ numeral.exponentText)).head?,
      c ≠ '+' ∧ c ≠ '-' := by
  intro c hc
  rw [List.head?_append, Option.mem_def, Option.or_eq_some_iff] at hc
  rcases hc with hc | ⟨-, hc⟩
  · exact ne_sign_of_isDigit (numeral.isDigit_whole c (List.mem_of_mem_head? hc))
  · rw [List.head?_append, Option.or_eq_some_iff] at hc
    rcases hc with hc | ⟨-, hc⟩
    · rw [fractionText] at hc
      split at hc
      · cases hc
      · cases hc
        decide
    · exact (numeral.head?_exponentText c hc).2.2

/-- A numeral is read back as the decimal that it denotes. -/
theorem decimal?_text : decimal? numeral.text = some numeral.decimal := by
  have hexponent : exponentPart? numeral.exponentText =
      some ((numeral.exponent.map Exponent.value).getD 0) := by
    rw [exponentText]
    split
    · rename_i hnone
      rw [hnone]
      rfl
    · rename_i exponent hsome
      rw [hsome, exponentPart?_text]
      rfl
  rw [decimal?, text, takeSign_append numeral.sign_mem numeral.head?_unsigned]
  dsimp only
  rw [numeral.takeMantissa?_text]
  simp only [hexponent]
  rfl

/-! ## Characters of a numeral -/

/-- A character that may stand in a numeral. -/
def isNumeric (c : Char) : Bool := isDigit c || ['+', '-', '.', 'e', 'E'].contains c

/-- Signs are numeric. -/
theorem isNumeric_of_mem_sign {sign : List Char} (hsign : sign ∈ signs) {c : Char}
    (hc : c ∈ sign) : isNumeric c = true := by
  have hsigns : ∀ sign ∈ signs, sign.all isNumeric = true := by decide
  exact List.all_eq_true.1 (hsigns sign hsign) c hc

/-- Digits are numeric. -/
theorem isNumeric_of_isDigit {c : Char} (hc : isDigit c = true) : isNumeric c = true := by
  rw [isNumeric, hc, Bool.true_or]

/-- A numeral is made of digits, signs, a point and the letter of an exponent. -/
theorem isNumeric_of_mem_text {c : Char} (hc : c ∈ numeral.text) : isNumeric c = true := by
  rw [text, List.mem_append, List.mem_append, List.mem_append] at hc
  rcases hc with hsign | hwhole | hfraction | hexponent
  · exact isNumeric_of_mem_sign numeral.sign_mem hsign
  · exact isNumeric_of_isDigit (numeral.isDigit_whole c hwhole)
  · rw [fractionText] at hfraction
    split at hfraction
    · cases hfraction
    · rename_i digits hdigits
      rcases List.mem_cons.1 hfraction with rfl | hmem
      · decide
      · exact isNumeric_of_isDigit (numeral.isDigit_fraction digits hdigits c hmem)
  · rw [exponentText] at hexponent
    split at hexponent
    · cases hexponent
    · rename_i exponent _
      have hletters : ∀ c ∈ ['e', 'E'], isNumeric c = true := List.all_eq_true.1 (by decide)
      rcases List.mem_cons.1 hexponent with rfl | hmem
      · exact hletters _ exponent.letter_mem
      · rcases List.mem_append.1 hmem with hsign | hdigits
        · exact isNumeric_of_mem_sign exponent.sign_mem hsign
        · exact isNumeric_of_isDigit (exponent.isDigit_digits c hdigits)

/-- A numeral ends in a digit or a point. -/
theorem getLast?_text : ∀ c ∈ numeral.text.getLast?, isDigit c = true ∨ c = '.' := by
  intro c hc
  cases hexponent : numeral.exponent with
  | some exponent =>
      have htext : numeral.text = (numeral.sign ++ (numeral.whole ++ (numeral.fractionText ++
          exponent.letter :: exponent.sign))) ++ exponent.digits := by
        simp [text, exponentText, hexponent, Exponent.text]
      rw [htext, List.getLast?_append_of_ne_nil _ exponent.digits_ne_nil] at hc
      exact .inl (exponent.isDigit_digits c (List.mem_of_mem_getLast? hc))
  | none =>
      cases hfraction : numeral.fraction with
      | none =>
          have hne : numeral.whole ≠ [] := by
            simpa [hfraction] using numeral.ne_nil
          have htext : numeral.text = numeral.sign ++ numeral.whole := by
            simp [text, exponentText, hexponent, fractionText, hfraction]
          rw [htext, List.getLast?_append_of_ne_nil _ hne] at hc
          exact .inl (numeral.isDigit_whole c (List.mem_of_mem_getLast? hc))
      | some digits =>
          have htext : numeral.text = (numeral.sign ++ numeral.whole) ++ '.' :: digits := by
            simp [text, exponentText, hexponent, fractionText, hfraction]
          rw [htext, List.getLast?_append_of_ne_nil _ (List.cons_ne_nil _ _)] at hc
          rcases List.mem_cons.1 (List.mem_of_mem_getLast? hc) with rfl | hmem
          · exact .inr rfl
          · exact .inl (numeral.isDigit_fraction digits hfraction c hmem)

/-- Numeric characters are no blanks. -/
theorem isBlank_of_isNumeric {c : Char} (hc : isNumeric c = true) : isBlank c = false := by
  rw [isNumeric, Bool.or_eq_true, List.contains_iff_mem] at hc
  rcases hc with hdigit | hmem
  · exact isBlank_of_isDigit hdigit
  · have hothers : ∀ c ∈ ['+', '-', '.', 'e', 'E'], isBlank c = false :=
      List.all_iff_forall_prop.1 (by decide)
    exact hothers c hmem

/-- A character that may not stand in a numeral is not in its text. -/
theorem not_mem_text {c : Char} (hc : isNumeric c = false) : c ∉ numeral.text := fun hmem => by
  rw [numeral.isNumeric_of_mem_text hmem] at hc
  cases hc

/-- A numeral holds no blank. -/
theorem isBlank_of_mem_text {c : Char} (hc : c ∈ numeral.text) : isBlank c = false :=
  isBlank_of_isNumeric (numeral.isNumeric_of_mem_text hc)

/-- A numeral is trimmed. -/
theorem trim_text : trim numeral.text = numeral.text := by
  rw [trim_eq_self_iff]
  exact ⟨fun c hc => numeral.isBlank_of_mem_text (List.mem_of_mem_head? hc),
    fun c hc => numeral.isBlank_of_mem_text (List.mem_of_mem_getLast? hc)⟩

theorem text_ne_nil : numeral.text ≠ [] := by
  rcases numeral.ne_nil with hwhole | hfraction
  · simp [text, hwhole]
  · cases hdigits : numeral.fraction with
    | none => simp [hdigits] at hfraction
    | some digits => simp [text, fractionText, hdigits]

/-- The text of a numeral is read as its value. -/
theorem numeral?_text : numeral? numeral.text = some numeral.value := by
  rw [numeral?, numeral.decimal?_text]
  rfl

/-- A numeral is a number of any name. -/
theorem readNumber_text (what : String) : readNumber what numeral.text = .ok numeral.value := by
  rw [readNumber, numeral.trim_text, numeral.numeral?_text]

end Numeral

/-- A token is read as a number exactly when its trimmed text is the number. -/
theorem readNumber_eq_ok_iff {what : String} {token : List Char} {value : Double} :
    readNumber what token = .ok value ↔ numeral? (trim token) = some value := by
  rw [readNumber]
  cases numeral? (trim token) <;> simp

/-! ## Pairs -/

/-- Two numerals with a comma between them. -/
def pairText (first second : Numeral) : List Char := first.text ++ ',' :: ' ' :: second.text

/-- A pair of numerals is read back. -/
theorem readPair_pairText (what : String) (first second : Numeral) :
    readPair what (pairText first second) = .ok (first.value, second.value) := by
  have hcomma (numeral : Numeral) : ',' ∉ numeral.text := numeral.not_mem_text (by decide)
  have hspace : trim (' ' :: second.text) = second.text := by
    rw [trim_cons_blank (by decide), second.trim_text]
  have hparts : commaParts (pairText first second) = [first.text, second.text] := by
    have hsecond : ',' ∉ ' ' :: second.text := by simpa using hcomma second
    rw [commaParts, pairText, List.splitOn_append_cons_self_of_not_mem (hcomma first),
      List.splitOn_eq_singleton hsecond]
    simp [first.trim_text, hspace]
  rw [readPair, hparts]
  simp only [Numeral.readNumber_text, ok_bind, pure_eq]

end Notation
end Wardley
