import Wardley.Document.Json

/-!
# Strings in JSON read back

A string is written with an escape for each character outside printable ASCII, a character
above the basic plane as two surrogate units.  The reader first finds the closing quote,
which no written character can hide, and then resolves the escapes one by one.

Main results:

- `takeUnit?_hexadecimal`: four hexadecimal digits are read as their number.
- `Written.unescaped`: a written character is read back in one step.
- `takeString_written`: a written string is read back, whatever follows it.
-/

namespace Wardley
namespace Json

/-! ## Hexadecimal digits -/

/-- One hexadecimal digit is the digit of the number. -/
theorem hexadecimal_one {n : Nat} (h : n < 16) : Text.hexadecimal 1 n = [n.digitChar] := by
  simp [Text.hexadecimal, Nat.toDigits_of_lt_base h]

/-- One more place holds the last digit. -/
theorem hexadecimal_succ {width : Nat} (hwidth : 0 < width) (n : Nat) :
    Text.hexadecimal (width + 1) n = Text.hexadecimal width (n / 16) ++ [(n % 16).digitChar] := by
  unfold Text.hexadecimal
  by_cases h : n < 16
  · have hzeros : List.replicate width '0' = List.replicate (width - 1) '0' ++ ['0'] := by
      rw [← List.replicate_succ', Nat.sub_add_cancel hwidth]
    simp [Nat.toDigits_of_lt_base h, Nat.div_eq_of_lt h, Nat.mod_eq_of_lt h, hzeros]
  · rw [Nat.toDigits_of_base_le (by decide) (Nat.le_of_not_lt h)]
    simp

/-- Four hexadecimal digits are those of the number, most significant first. -/
theorem hexadecimal_four {unit : Nat} (h : unit < 0x10000) :
    Text.hexadecimal 4 unit =
      [(unit / 16 / 16 / 16).digitChar, (unit / 16 / 16 % 16).digitChar,
       (unit / 16 % 16).digitChar, (unit % 16).digitChar] := by
  rw [hexadecimal_succ (by decide), hexadecimal_succ (by decide), hexadecimal_succ (by decide),
    hexadecimal_one (by omega)]
  rfl

/-- A hexadecimal digit is read as its value. -/
theorem hexDigit?_digitChar {digit : Nat} (h : digit < 16) :
    hexDigit? digit.digitChar = some digit := by
  have hall : ∀ d : Fin 16, hexDigit? (Nat.digitChar d) = some d.val := by decide
  exact hall ⟨digit, h⟩

/-- Four hexadecimal digits are read as their number. -/
theorem takeUnit?_hexadecimal {unit : Nat} (h : unit < 0x10000) (rest : List Char) :
    takeUnit? (Text.hexadecimal 4 unit ++ rest) = some (unit, rest) := by
  have hvalue : ((unit / 16 / 16 / 16 * 16 + unit / 16 / 16 % 16) * 16 + unit / 16 % 16) * 16 +
      unit % 16 = unit := by omega
  have hdigit (n : Nat) : hexDigit? (n % 16).digitChar = some (n % 16) :=
    hexDigit?_digitChar (Nat.mod_lt n (by decide))
  have hfirst : hexDigit? (unit / 16 / 16 / 16).digitChar = some (unit / 16 / 16 / 16) :=
    hexDigit?_digitChar (by omega)
  rw [hexadecimal_four h]
  simp only [List.cons_append, List.nil_append, takeUnit?, hdigit, hfirst, Option.bind_eq_bind,
    Option.bind_some, hvalue]
  rfl

/-! ## Escaped units -/

/-- A character has a valid code. -/
theorem toNat_isValidChar (c : Char) : c.toNat.isValidChar := c.valid

/-- A code point of the basic plane is read back from its escape. -/
theorem takeEscapedUnit?_unit {c : Char} (h : c.toNat < 0x10000) (rest : List Char) :
    takeEscapedUnit? (Text.hexadecimal 4 c.toNat ++ rest) = some (c, rest) := by
  have hvalid : ¬(0xd800 ≤ c.toNat ∧ c.toNat < 0xdc00) := by
    have := toNat_isValidChar c
    unfold Nat.isValidChar at this
    omega
  simp only [takeEscapedUnit?, takeUnit?_hexadecimal h, Option.bind_eq_bind, Option.bind_some,
    if_neg hvalid, Char.ofNat_toNat]
  rfl

/-- A character above the basic plane is read from its two surrogates. -/
theorem takeEscapedUnit?_pair {high low : Nat} (hhigh : 0xd800 ≤ high ∧ high < 0xdc00)
    (hlow : 0xdc00 ≤ low ∧ low < 0xe000) (rest : List Char) :
    takeEscapedUnit? (Text.hexadecimal 4 high ++ (unitEscape low ++ rest)) =
      some (Char.ofNat (0x10000 + (high - 0xd800) * 0x400 + (low - 0xdc00)), rest) := by
  simp only [takeEscapedUnit?, unitEscape, List.cons_append,
    takeUnit?_hexadecimal (show high < 0x10000 by omega),
    takeUnit?_hexadecimal (show low < 0x10000 by omega), Option.bind_eq_bind, Option.bind_some,
    if_pos hhigh, if_pos hlow]
  rfl

/-! ## Written characters -/

/-- Characters that neither end a string nor start an escape. -/
def IsOrdinary (c : Char) : Prop := c ≠ '"' ∧ c ≠ '\\'

/-- An ordinary character is taken as it stands. -/
theorem takeRaw?_cons {c : Char} (h : IsOrdinary c) (rest : List Char) :
    takeRaw? (c :: rest) = (takeRaw? rest).map fun found => (c :: found.1, found.2) := by
  rw [takeRaw?]
  · exact h.1
  · intro d others hc
    exact absurd hc h.2

/-- A text of ordinary characters is taken as it stands. -/
theorem takeRaw?_ordinary {text : List Char} (h : ∀ c ∈ text, IsOrdinary c) (rest : List Char) :
    takeRaw? (text ++ rest) = (takeRaw? rest).map fun found => (text ++ found.1, found.2) := by
  induction text with
  | nil => simp
  | cons c text ih =>
    rw [List.cons_append, takeRaw?_cons (h c List.mem_cons_self),
      ih fun d hd => h d (List.mem_cons_of_mem c hd), Option.map_map]
    rfl

/-- Hexadecimal digits are ordinary. -/
theorem isOrdinary_digitChar {digit : Nat} (h : digit < 16) : IsOrdinary digit.digitChar := by
  have hall : ∀ d : Fin 16, Nat.digitChar d ≠ '"' ∧ Nat.digitChar d ≠ '\\' := by decide
  exact hall ⟨digit, h⟩

/-- The escape of a code unit is taken whole. -/
theorem takeRaw?_unitEscape {unit : Nat} (h : unit < 0x10000) (rest : List Char) :
    takeRaw? (unitEscape unit ++ rest) =
      (takeRaw? rest).map fun found => (unitEscape unit ++ found.1, found.2) := by
  have hdigits : ∀ c ∈ Text.hexadecimal 4 unit, IsOrdinary c := by
    rw [hexadecimal_four h]
    simp only [List.mem_cons, List.not_mem_nil, or_false, forall_eq_or_imp, forall_eq]
    exact ⟨isOrdinary_digitChar (by omega), isOrdinary_digitChar (by omega),
      isOrdinary_digitChar (by omega), isOrdinary_digitChar (by omega)⟩
  rw [unitEscape, List.cons_append, List.cons_append, takeRaw?, takeRaw?_ordinary hdigits,
    Option.map_map]
  rfl

/-- The four forms in which a character is written. -/
inductive Written (c : Char) : List Char → Prop
  | short {letter : Char} (hletter : letter ≠ 'u') (hread : shortEscape? letter = some c) :
      Written c ['\\', letter]
  | plain (hordinary : IsOrdinary c) (hvisible : ¬c.toNat < 0x20) : Written c [c]
  | unit (hbasic : c.toNat < 0x10000) : Written c (unitEscape c.toNat)
  | pair {high low : Nat} (hhigh : 0xd800 ≤ high ∧ high < 0xdc00)
      (hlow : 0xdc00 ≤ low ∧ low < 0xe000)
      (hcode : 0x10000 + (high - 0xd800) * 0x400 + (low - 0xdc00) = c.toNat) :
      Written c (unitEscape high ++ unitEscape low)

/-- Every character is written in one of the written forms. -/
theorem written_writeChar (c : Char) : Written c (writeChar c) := by
  have hvalid := toNat_isValidChar c
  unfold Nat.isValidChar at hvalid
  unfold writeChar
  split
  · subst_vars
    exact .short (by decide) rfl
  rename_i hquote
  split
  · subst_vars
    exact .short (by decide) rfl
  rename_i hbackslash
  iterate 5
    split
    · subst_vars
      exact .short (by decide) rfl
  split
  · exact .plain ⟨hquote, hbackslash⟩ (by omega)
  · split
    · exact .unit ‹_›
    · exact .pair (by omega) (by omega) (by omega)

/-- A written character passes the search for the closing quote. -/
theorem Written.raw {c : Char} {text : List Char} (h : Written c text) (rest : List Char) :
    takeRaw? (text ++ rest) = (takeRaw? rest).map fun found => (text ++ found.1, found.2) := by
  cases h with
  | short => rfl
  | plain hordinary => exact takeRaw?_cons hordinary rest
  | unit hbasic => exact takeRaw?_unitEscape hbasic rest
  | pair hhigh hlow =>
    rw [List.append_assoc, takeRaw?_unitEscape (by omega), takeRaw?_unitEscape (by omega),
      Option.map_map]
    simp only [Function.comp_def, List.append_assoc]

/-- The escape of a code unit, in front of a text. -/
theorem unitEscape_append (unit : Nat) (rest : List Char) :
    unitEscape unit ++ rest = '\\' :: 'u' :: (Text.hexadecimal 4 unit ++ rest) := rfl

/-- An escaped unit is replaced by its character. -/
theorem unescape?_unit {text rest : List Char} {c : Char}
    (h : takeEscapedUnit? text = some (c, rest)) (fuel : Nat) :
    unescape? (fuel + 1) ('\\' :: 'u' :: text) = (unescape? fuel rest).map (c :: ·) := by
  simp only [unescape?, if_true, h, Option.bind_eq_bind, Option.bind_some]
  cases unescape? fuel rest <;> rfl

/-- A short escape is replaced by its character. -/
theorem unescape?_short {letter c : Char} (hletter : letter ≠ 'u')
    (hread : shortEscape? letter = some c) (fuel : Nat) (rest : List Char) :
    unescape? (fuel + 1) ('\\' :: letter :: rest) = (unescape? fuel rest).map (c :: ·) := by
  simp only [unescape?, if_true, if_neg hletter, hread, Option.map_some, Option.bind_eq_bind,
    Option.bind_some]
  cases unescape? fuel rest <;> rfl

/-- A written character is read back in one step. -/
theorem Written.unescaped {c : Char} {text : List Char} (h : Written c text) (fuel : Nat)
    (rest : List Char) :
    unescape? (fuel + 1) (text ++ rest) = (unescape? fuel rest).map (c :: ·) := by
  cases h with
  | short hletter hread => exact unescape?_short hletter hread fuel rest
  | plain hordinary hvisible =>
    simp only [List.cons_append, List.nil_append, unescape?, if_neg hordinary.2, if_neg hvisible]
  | unit hbasic =>
    rw [unitEscape_append]
    exact unescape?_unit (takeEscapedUnit?_unit hbasic rest) fuel
  | pair hhigh hlow hcode =>
    have hread := takeEscapedUnit?_pair hhigh hlow rest
    rw [hcode, Char.ofNat_toNat] at hread
    rw [List.append_assoc, unitEscape_append]
    exact unescape?_unit hread fuel

/-- No character is written as nothing. -/
theorem Written.ne_nil {c : Char} {text : List Char} (h : Written c text) : text ≠ [] := by
  cases h <;> simp [unitEscape]

/-! ## Strings -/

/-- A written text is taken up to its closing quote. -/
theorem takeRaw?_written (text rest : List Char) :
    takeRaw? (text.flatMap writeChar ++ '"' :: rest) = some (text.flatMap writeChar, rest) := by
  induction text with
  | nil => rfl
  | cons c text ih =>
    rw [List.flatMap_cons, List.append_assoc, (written_writeChar c).raw, ih]
    rfl

/-- A written text is unescaped to the text. -/
theorem unescape?_written {fuel : Nat} {text : List Char} (h : text.length ≤ fuel) :
    unescape? fuel (text.flatMap writeChar) = some text := by
  induction text generalizing fuel with
  | nil => cases fuel <;> rfl
  | cons c text ih =>
    obtain ⟨fuel, rfl⟩ : ∃ rest, fuel = rest + 1 :=
      Nat.exists_eq_add_one_of_ne_zero (Nat.ne_of_gt (Nat.lt_of_lt_of_le (Nat.succ_pos _) h))
    rw [List.flatMap_cons, (written_writeChar c).unescaped, ih (Nat.le_of_succ_le_succ h)]
    rfl

/-- Writing makes no text shorter. -/
theorem length_le_written (text : List Char) : text.length ≤ (text.flatMap writeChar).length := by
  induction text with
  | nil => exact Nat.le_refl _
  | cons c text ih =>
    have := List.length_pos_iff.2 (written_writeChar c).ne_nil
    rw [List.flatMap_cons, List.length_append, List.length_cons]
    omega

/-- A written string is read back, whatever follows it. -/
theorem takeString_written (text rest : List Char) :
    takeString (text.flatMap writeChar ++ '"' :: rest) = .ok (text, rest) := by
  simp only [takeString, takeRaw?_written, unescape?_written (length_le_written text)]

end Json
end Wardley
