import Wardley.Proofs.Notation.Numerals

/-!
# The grammar of numerals

A token is read as a number exactly if it is a numeral with blanks around it.  Every numeral
denotes a number, which the general conversion of texts to doubles gives as well, although that
one also takes underscores between digits and words for what is infinite or no number.  The
scripts of the digits do not matter.  Lists of numbers are read part by part between commas.

Main definitions:

- `asciiDigits`: a text with the digits of all scripts replaced by those of the first one.
- `convert?`: the general conversion of texts to doubles.
- `IsCommaParts`: the parts of a text between commas.
- `ReadsNumeral`, `ReadsNumeralList`: what is read of a token and of a list.

Main results:

- `exists_numeral_of_decimal?`: what is read as a decimal is a numeral.
- `decimal?_asciiDigits`: the scripts of digits do not matter.
- `convert?_eq_of_numeral`: numerals are converted to what they denote.
- `commaParts_eq_iff`: the parts that are read.
- `numerals_read`: the tokens and the lists of numbers that are read.
-/

namespace Wardley
namespace Notation

open Text

/-! ## Numerals of tokens -/

/-- A sign that is read off a text stands before the rest. -/
theorem takeSign_eq {text rest : List Char} {negative : Bool}
    (h : takeSign text = (negative, rest)) : ∃ sign ∈ signs, text = sign ++ rest := by
  unfold takeSign at h
  split at h <;> cases h
  · exact ⟨['-'], by decide, rfl⟩
  · exact ⟨['+'], by decide, rfl⟩
  · exact ⟨[], by decide, rfl⟩

/-- What is taken as digits are digits, and nothing is lost. -/
theorem spanDigits_eq {text digits rest : List Char} (h : spanDigits text = (digits, rest)) :
    text = digits ++ rest ∧ digits.all isDigit = true := by
  rw [spanDigits, List.span_eq_takeWhile_dropWhile, Prod.mk.injEq] at h
  rcases h with ⟨rfl, rfl⟩
  exact ⟨List.takeWhile_append_dropWhile.symm, List.all_eq_true.2 fun _ => List.mem_takeWhile_imp⟩

/-- Digits that are read stand around a point, or there is no point behind them. -/
theorem takeMantissa?_eq_some {text whole fraction rest : List Char}
    (h : takeMantissa? text = some (whole, fraction, rest)) :
    ∃ behind : Option (List Char), fraction = behind.getD [] ∧
      text = whole ++ ((behind.map ('.' :: ·)).getD [] ++ rest) ∧
      whole.all isDigit = true ∧ fraction.all isDigit = true ∧ (whole ≠ [] ∨ fraction ≠ []) := by
  rcases hspan : spanDigits text with ⟨digits, tail⟩
  obtain ⟨rfl, hdigits⟩ := spanDigits_eq hspan
  rw [takeMantissa?, hspan] at h
  split at h
  · rename_i others heq
    cases heq
    rcases hbehind : spanDigits others with ⟨behind, last⟩
    obtain ⟨rfl, hall⟩ := spanDigits_eq hbehind
    rw [hbehind] at h
    cases behind with
    | nil => cases h
    | cons d ds =>
        cases h
        exact ⟨some _, rfl, rfl, rfl, hall, .inr (List.cons_ne_nil _ _)⟩
  · cases h
  · rename_i ahead others hne heq
    cases heq
    rcases hbehind : spanDigits others with ⟨behind, last⟩
    obtain ⟨rfl, hall⟩ := spanDigits_eq hbehind
    rw [hbehind] at h
    cases h
    exact ⟨some _, rfl, rfl, hdigits, hall, .inl hne⟩
  · rename_i ahead others _ hne _ heq
    cases heq
    cases h
    exact ⟨none, rfl, rfl, hdigits, rfl, .inl hne⟩

/-- An exponent part is empty or an exponent. -/
theorem exponentPart?_eq_some {text : List Char} {value : Int}
    (h : exponentPart? text = some value) :
    ∃ exponent : Option Exponent, text = (exponent.map Exponent.text).getD [] := by
  cases text with
  | nil => exact ⟨none, rfl⟩
  | cons c rest =>
      rw [exponentPart?] at h
      split at h
      · rename_i hletter
        rcases hsign : takeSign rest with ⟨negative, digits⟩
        obtain ⟨sign, hmem, rfl⟩ := takeSign_eq hsign
        simp only [hsign] at h
        split at h
        · cases h
        · rename_i hdigits
          rw [Bool.or_eq_true, not_or, Bool.not_eq_true, Bool.not_eq_true,
            Bool.not_eq_false'] at hdigits
          exact ⟨some {
            letter := c
            sign := sign
            digits := digits
            letter_mem := by simpa using hletter
            sign_mem := hmem
            digits_ne_nil := List.isEmpty_eq_false_iff.1 hdigits.1
            all_digits := hdigits.2 }, rfl⟩
      · cases h

/-- What is read as a decimal is a numeral. -/
theorem exists_numeral_of_decimal? {token : List Char} {decimal : Decimal}
    (h : decimal? token = some decimal) : ∃ numeral : Numeral, numeral.text = token := by
  rcases hsign : takeSign token with ⟨negative, unsigned⟩
  obtain ⟨sign, hmem, rfl⟩ := takeSign_eq hsign
  rw [decimal?, hsign] at h
  rcases hmantissa : takeMantissa? unsigned with _ | ⟨whole, fraction, rest⟩
  · simp [hmantissa] at h
  · simp only [hmantissa] at h
    rcases Option.map_eq_some_iff.1 h with ⟨value, hvalue, -⟩
    obtain ⟨behind, rfl, rfl, hwhole, hfraction, hne⟩ := takeMantissa?_eq_some hmantissa
    obtain ⟨exponent, rfl⟩ := exponentPart?_eq_some hvalue
    refine ⟨{
      sign := sign
      whole := whole
      fraction := behind
      exponent := exponent
      sign_mem := hmem
      all_whole := hwhole
      all_fraction := hfraction
      ne_nil := hne }, ?_⟩
    rw [Numeral.text, Numeral.fractionText, Numeral.exponentText]
    cases behind <;> cases exponent <;> rfl

/-- The tokens that denote a number are the numerals. -/
theorem numeral?_eq_some_iff {token : List Char} {value : Double} :
    numeral? token = some value ↔
      ∃ numeral : Numeral, numeral.text = token ∧ numeral.value = value := by
  constructor
  · intro h
    rcases Option.map_eq_some_iff.1 h with ⟨decimal, hdecimal, -⟩
    rcases exists_numeral_of_decimal? hdecimal with ⟨numeral, rfl⟩
    exact ⟨numeral, rfl, Option.some.inj (numeral.numeral?_text.symm.trans h)⟩
  · rintro ⟨numeral, rfl, rfl⟩
    exact numeral.numeral?_text

/-! ## Scripts -/

/-- The digit of the first script with the value of a digit; other characters stay. -/
def asciiDigit (c : Char) : Char :=
  match digitValue? c with
  | some value => Char.ofNat (48 + value)
  | none => c

/-- A text with all its digits in the first script. -/
def asciiDigits (text : List Char) : List Char := text.map asciiDigit

/-- A digit of any script has the value of its ASCII digit. -/
@[simp]
theorem digitValue?_asciiDigit (c : Char) : digitValue? (asciiDigit c) = digitValue? c := by
  have hfirst : ∀ value < 10, digitValue? (Char.ofNat (48 + value)) = some value := by decide
  rw [asciiDigit]
  cases hvalue : digitValue? c with
  | none => exact hvalue
  | some value => exact hfirst value (digitValue?_lt_ten hvalue)

/-- A digit of any script has an ASCII digit, and nothing else has. -/
@[simp]
theorem isDigit_asciiDigit (c : Char) : isDigit (asciiDigit c) = isDigit c := by
  rw [isDigit, digitValue?_asciiDigit, isDigit]

/-- Other characters stay as they are. -/
theorem asciiDigit_of_not_isDigit {c : Char} (h : isDigit c = false) : asciiDigit c = c := by
  rw [isDigit, Option.isSome_eq_false_iff, Option.isNone_iff_eq_none] at h
  rw [asciiDigit, h]

/-- Only digits become other characters, and they become digits. -/
theorem asciiDigit_eq_iff {c d : Char} (hd : isDigit d = false) : asciiDigit c = d ↔ c = d := by
  constructor
  · rintro rfl
    rw [isDigit_asciiDigit] at hd
    exact (asciiDigit_of_not_isDigit hd).symm
  · rintro rfl
    exact asciiDigit_of_not_isDigit hd

/-- Blanks stay blanks, and nothing becomes one. -/
@[simp]
theorem isBlank_asciiDigit (c : Char) : isBlank (asciiDigit c) = isBlank c := by
  cases hdigit : isDigit c with
  | false => rw [asciiDigit_of_not_isDigit hdigit]
  | true =>
      rw [isBlank_of_isDigit hdigit, isBlank_of_isDigit ((isDigit_asciiDigit c).trans hdigit)]

/-- Digits of any script are the number of their ASCII digits. -/
@[simp]
theorem naturalOf_asciiDigits (digits : List Char) :
    naturalOf (asciiDigits digits) = naturalOf digits := by
  simp [naturalOf, asciiDigits, List.foldl_map]

/-- The same digits are taken in any script. -/
theorem spanDigits_asciiDigits (text : List Char) :
    spanDigits (asciiDigits text) =
      (asciiDigits (spanDigits text).1, asciiDigits (spanDigits text).2) := by
  simp only [spanDigits, List.span_eq_takeWhile_dropWhile, asciiDigits, List.takeWhile_map,
    List.dropWhile_map]
  have hsame : isDigit ∘ asciiDigit = isDigit := funext isDigit_asciiDigit
  rw [hsame]

/-- Trimming does not depend on the script. -/
theorem trim_asciiDigits (text : List Char) :
    trim (asciiDigits text) = asciiDigits (trim text) := by
  have hsame : isBlank ∘ asciiDigit = isBlank := funext isBlank_asciiDigit
  simp only [trim_eq, asciiDigits, List.rdropWhile, List.dropWhile_map, hsame, ← List.map_reverse]

/-- The sign does not depend on the script. -/
theorem takeSign_asciiDigits (text : List Char) :
    takeSign (asciiDigits text) = ((takeSign text).1, asciiDigits (takeSign text).2) := by
  have hplus : isDigit '+' = false := by decide
  have hminus : isDigit '-' = false := by decide
  cases text with
  | nil => rfl
  | cons c rest =>
      by_cases hc : c = '-' ∨ c = '+'
      · rcases hc with rfl | rfl <;> rfl
      · rw [not_or] at hc
        have hascii : ¬ asciiDigit c = '-' ∧ ¬ asciiDigit c = '+' := by
          rwa [asciiDigit_eq_iff hminus, asciiDigit_eq_iff hplus]
        simp [asciiDigits, takeSign, hc, hascii]

/-- The mantissa is taken alike in any script. -/
theorem takeMantissa?_asciiDigits (text : List Char) :
    takeMantissa? (asciiDigits text) = (takeMantissa? text).map fun parts =>
      (asciiDigits parts.1, asciiDigits parts.2.1, asciiDigits parts.2.2) := by
  have hpoint : isDigit '.' = false := by decide
  have hpointed : asciiDigit '.' = '.' := asciiDigit_of_not_isDigit hpoint
  rw [takeMantissa?, takeMantissa?, spanDigits_asciiDigits]
  rcases spanDigits text with ⟨_ | ⟨d, ds⟩, _ | ⟨c, rest⟩⟩
  · rfl
  · by_cases hc : c = '.'
    · subst hc
      have hrest := spanDigits_asciiDigits rest
      rcases hspan : spanDigits rest with ⟨_ | ⟨e, es⟩, last⟩ <;> rw [hspan] at hrest
      all_goals
        simp only [asciiDigits, List.map_nil, List.map_cons, hpointed] at hrest ⊢
        simp [hrest, hspan]
    · have hascii : ¬ asciiDigit c = '.' := by rwa [asciiDigit_eq_iff hpoint]
      simp [asciiDigits, hc, hascii]
  · rfl
  · by_cases hc : c = '.'
    · subst hc
      have hrest := spanDigits_asciiDigits rest
      simp only [asciiDigits, List.map_cons, hpointed] at hrest ⊢
      simp [hrest]
    · have hascii : ¬ asciiDigit c = '.' := by rwa [asciiDigit_eq_iff hpoint]
      simp [asciiDigits, hc, hascii]

/-- The exponent does not depend on the script. -/
theorem exponentPart?_asciiDigits (text : List Char) :
    exponentPart? (asciiDigits text) = exponentPart? text := by
  have hlower : isDigit 'e' = false := by decide
  have hupper : isDigit 'E' = false := by decide
  cases text with
  | nil => rfl
  | cons c rest =>
      have hrest := takeSign_asciiDigits rest
      have hall (digits : List Char) : (asciiDigits digits).all isDigit = digits.all isDigit := by
        rw [asciiDigits, List.all_map]
        exact congrArg digits.all (funext isDigit_asciiDigit)
      have hempty (digits : List Char) : (asciiDigits digits).isEmpty = digits.isEmpty :=
        List.isEmpty_map
      rw [asciiDigits, List.map_cons, ← asciiDigits, exponentPart?, exponentPart?, hrest]
      simp only [asciiDigit_eq_iff hlower, asciiDigit_eq_iff hupper, hall, hempty,
        naturalOf_asciiDigits]

/-- The scripts of digits do not matter to a decimal. -/
theorem decimal?_asciiDigits (token : List Char) :
    decimal? (asciiDigits token) = decimal? token := by
  have happend (first second : List Char) :
      asciiDigits first ++ asciiDigits second = asciiDigits (first ++ second) :=
    List.map_append.symm
  rw [decimal?, decimal?, takeSign_asciiDigits]
  simp only [takeMantissa?_asciiDigits]
  rcases takeMantissa? (takeSign token).2 with _ | ⟨whole, fraction, rest⟩
  · rfl
  · simp only [Option.map_some, exponentPart?_asciiDigits, happend, naturalOf_asciiDigits]
    simp only [asciiDigits, List.length_map]

/-- The number of a token does not depend on the script. -/
theorem numeral?_asciiDigits (token : List Char) :
    numeral? (asciiDigits token) = numeral? token := by
  rw [numeral?, decimal?_asciiDigits, numeral?]

/-! ## Conversion of texts -/

/-- A text without its underscores, each of which has to stand between two digits. -/
def dropUnderscores? (behindDigit : Bool) : List Char → Option (List Char)
  | [] => some []
  | c :: rest =>
    if c = '_' then
      if behindDigit && rest.head?.any isDigit then dropUnderscores? false rest else none
    else (dropUnderscores? (isDigit c) rest).map (c :: ·)

/--
The double of a text.  The general conversion takes what the notation takes, and besides
underscores between digits and, in any case of their letters, words for what is infinite or no
number.
-/
def convert? (token : List Char) : Option Double :=
  match dropUnderscores? false (asciiDigits (trim token)) with
  | none => none
  | some plain =>
    let (negative, unsigned) := takeSign plain
    let word := unsigned.map Char.toLower
    if word = "inf".toList ∨ word = "infinity".toList then some (.infinity negative)
    else if word = "nan".toList then some (.nan 0)
    else numeral? plain

/-- A text without underscores is left as it stands. -/
theorem dropUnderscores?_of_not_mem {text : List Char} (h : '_' ∉ text) (behindDigit : Bool) :
    dropUnderscores? behindDigit text = some text := by
  induction text generalizing behindDigit with
  | nil => rfl
  | cons c rest ih =>
      rw [List.mem_cons, not_or] at h
      rw [dropUnderscores?, if_neg (Ne.symm h.1), ih h.2, Option.map_some]

/-- Characters of numerals become a digit, a sign, a point or a letter of an exponent. -/
theorem asciiDigit_mem {c : Char} (h : Numeral.isNumeric c = true) :
    asciiDigit c ∈ "0123456789+-.eE".toList := by
  have hfirst : ∀ value < 10, Char.ofNat (48 + value) ∈ "0123456789+-.eE".toList := by decide
  have hothers : ∀ d ∈ ['+', '-', '.', 'e', 'E'], d ∈ "0123456789+-.eE".toList :=
    List.all_iff_forall_prop.1 (by decide)
  cases hvalue : digitValue? c with
  | some value =>
      rw [asciiDigit, hvalue]
      exact hfirst value (digitValue?_lt_ten hvalue)
  | none =>
      rw [Numeral.isNumeric, isDigit, hvalue, Option.isSome_none, Bool.false_or,
        List.contains_iff_mem] at h
      rw [asciiDigit, hvalue]
      exact hothers c h

/-- Numerals are converted to what they denote. -/
theorem convert?_eq_of_numeral {numeral : Numeral} {token : List Char}
    (h : numeral.text = trim token) : convert? token = some numeral.value := by
  have hchars : ∀ c ∈ asciiDigits numeral.text, c ∈ "0123456789+-.eE".toList := by
    intro c hc
    rcases List.mem_map.1 hc with ⟨d, hd, rfl⟩
    exact asciiDigit_mem (numeral.isNumeric_of_mem_text hd)
  have hunderscore : '_' ∉ asciiDigits numeral.text := fun hmem =>
    absurd (hchars _ hmem) (by decide)
  rcases hsign : takeSign (asciiDigits numeral.text) with ⟨negative, unsigned⟩
  obtain ⟨sign, -, htext⟩ := takeSign_eq hsign
  -- each of the words holds an n, and no character of a numeral is one
  have hletter : 'n' ∉ unsigned.map Char.toLower := by
    have hlower : ∀ c ∈ "0123456789+-.eE".toList, c.toLower ≠ 'n' :=
      List.all_iff_forall_prop.1 (by decide)
    intro hmem
    rcases List.mem_map.1 hmem with ⟨c, hc, heq⟩
    exact hlower c (hchars c (htext ▸ List.mem_append_right _ hc)) heq
  have hword {word : List Char} (hn : 'n' ∈ word) : unsigned.map Char.toLower ≠ word := by
    rintro rfl
    exact hletter hn
  rw [convert?, ← h, dropUnderscores?_of_not_mem hunderscore]
  simp only [hsign]
  rw [if_neg (not_or.2 ⟨hword (by decide), hword (by decide)⟩), if_neg (hword (by decide)),
    numeral?_asciiDigits, numeral.numeral?_text]

/-! ## Parts between commas -/

/-- The parts of a text between commas, without blanks around them; a blank text has none. -/
inductive IsCommaParts : List Char → List (List Char) → Prop where
  | blank {text : List Char} (hblank : ∀ c ∈ text, isBlank c = true) : IsCommaParts text []
  | between {pieces : List (List Char)} (hne : pieces ≠ [])
      (hcommas : ∀ piece ∈ pieces, ',' ∉ piece)
      (hblank : ¬ ∀ c ∈ List.intercalate [','] pieces, isBlank c = true) :
      IsCommaParts (List.intercalate [','] pieces) (pieces.map trim)

/-- One blank part is all that a text has if it is blank. -/
theorem map_trim_splitOn_eq_iff {text : List Char} :
    (List.splitOn ',' text).map trim = [[]] ↔ ∀ c ∈ text, isBlank c = true := by
  constructor
  · intro h
    rcases List.map_eq_singleton_iff.1 h with ⟨piece, hpiece, htrim⟩
    have hjoin : List.intercalate [','] (List.splitOn ',' text) = text :=
      List.intercalate_splitOn ','
    rw [hpiece, List.intercalate_singleton] at hjoin
    exact trim_eq_nil_iff.1 (hjoin ▸ htrim)
  · intro h
    have hcomma : ',' ∉ text := not_mem_of_blank (by decide) h
    rw [List.splitOn_eq_singleton hcomma, List.map_singleton, trim_eq_nil_iff.2 h]

/-- The parts between commas are the only such parts. -/
theorem commaParts_eq_iff {text : List Char} {parts : List (List Char)} :
    commaParts text = parts ↔ IsCommaParts text parts := by
  have hparts : commaParts text =
      if (List.splitOn ',' text).map trim = [[]] then [] else (List.splitOn ',' text).map trim := by
    rw [commaParts]
    split
    · rename_i h
      rw [if_pos h]
    · rename_i h
      rw [if_neg h]
  rw [hparts]
  simp only [map_trim_splitOn_eq_iff]
  constructor
  · rintro rfl
    split
    · rename_i hblank
      exact .blank hblank
    · rename_i hblank
      have hjoin : List.intercalate [','] (List.splitOn ',' text) = text :=
        List.intercalate_splitOn ','
      have hbetween : IsCommaParts (List.intercalate [','] (List.splitOn ',' text))
          ((List.splitOn ',' text).map trim) :=
        .between (List.splitOn_ne_nil _ _) (fun _ => not_mem_of_mem_splitOn) (by rwa [hjoin])
      rwa [hjoin] at hbetween
  · intro h
    cases h with
    | blank hblank => exact if_pos hblank
    | between hne hcommas hblank => rw [if_neg hblank, List.splitOn_intercalate _ hcommas hne]

/-! ## Numbers of tokens and lists -/

/-- What is read of a token. -/
structure ReadsNumeral (what : String) (token : List Char) : Prop where
  /-- A numeral with blanks around it is read as the number that it denotes. -/
  read : ∀ value, readNumber what token = .ok value ↔
    ∃ numeral : Numeral, numeral.text = trim token ∧ numeral.value = value
  /-- Every other token is refused as an invalid number. -/
  refused : (¬ ∃ numeral : Numeral, numeral.text = trim token) →
    readNumber what token = .error (.invalidNumber what (String.ofList (trim token)))
  /-- The number is what the token is converted to. -/
  converted : ∀ value, readNumber what token = .ok value → convert? token = some value
  /-- It is a number indeed. -/
  number : ∀ value, readNumber what token = .ok value → ∀ payload, value ≠ .nan payload
  /-- The scripts of the digits make no difference. -/
  scripts : (readNumber what (asciiDigits token)).toOption = (readNumber what token).toOption

/-- What is read of a list of numbers of which there should be an expected count. -/
structure ReadsNumeralList (expected : List Int) (what : String) (text : List Char) : Prop where
  /-- The numbers are those of the parts, if there are as many of them as expected. -/
  read : ∀ values, readNumbers expected what text = .ok values ↔
    ∃ parts, IsCommaParts text parts ∧ (parts.length : Int) ∈ expected ∧
      List.Forall₂ (fun part value => readNumber what part = .ok value) parts values
  /-- There are as many numbers as expected. -/
  length : ∀ values, readNumbers expected what text = .ok values →
    (values.length : Int) ∈ expected
  /-- Otherwise the count is wrong, or one of the parts is no numeral. -/
  refused : ∀ fault, readNumbers expected what text = .error fault →
    ∃ parts, IsCommaParts text parts ∧
      ((parts.length : Int) ∉ expected ∧
        fault = .wrongCount expected (String.ofList (trim text)) parts.length ∨
      ∃ part ∈ parts, (¬ ∃ numeral : Numeral, numeral.text = part) ∧
        fault = .invalidNumber what (String.ofList part))
  /-- Pairs and single numbers are lists of two and of one. -/
  pair : (readPair what text).map (fun pair => [pair.1, pair.2]) = readNumbers [2] what text
  single : (readSingle what text).map (fun value => [value]) = readNumbers [1] what text

/-- A token is refused exactly when it is no numeral, and the error shows it trimmed. -/
theorem readNumber_eq_error_iff {what : String} {token : List Char} {fault : Fault} :
    readNumber what token = .error fault ↔
      (¬ ∃ numeral : Numeral, numeral.text = trim token) ∧
        fault = .invalidNumber what (String.ofList (trim token)) := by
  have hnone : numeral? (trim token) = none ↔ ¬ ∃ numeral : Numeral, numeral.text = trim token := by
    simp [Option.eq_none_iff_forall_not_mem, numeral?_eq_some_iff]
  rw [← hnone, readNumber]
  cases numeral? (trim token) <;> simp [eq_comm]

/-- The reader of numbers reads numerals. -/
theorem readsNumeral (what : String) (token : List Char) : ReadsNumeral what token where
  read _ := readNumber_eq_ok_iff.trans numeral?_eq_some_iff
  refused hnone := readNumber_eq_error_iff.2 ⟨hnone, rfl⟩
  converted value h := by
    rcases numeral?_eq_some_iff.1 (readNumber_eq_ok_iff.1 h) with ⟨numeral, htext, rfl⟩
    exact convert?_eq_of_numeral htext
  number value h payload := by
    rcases numeral?_eq_some_iff.1 (readNumber_eq_ok_iff.1 h) with ⟨numeral, -, rfl⟩
    exact Double.ofDecimal_ne_nan _ _
  scripts := by
    rw [readNumber, readNumber, trim_asciiDigits, numeral?_asciiDigits]
    cases numeral? (trim token) <;> rfl

/-- A part of a text has no blank at either end. -/
theorem IsCommaParts.trim_eq {text part : List Char} {parts : List (List Char)}
    (h : IsCommaParts text parts) (hpart : part ∈ parts) : trim part = part := by
  cases h with
  | blank => cases hpart
  | between =>
      rcases List.mem_map.1 hpart with ⟨piece, -, rfl⟩
      exact trim_trim piece

section Lists

variable {expected : List Int} {text : List Char} (what : String)

/-- A list of an expected length is read part by part. -/
theorem readNumbers_of_mem (h : ((commaParts text).length : Int) ∈ expected) :
    readNumbers expected what text = (commaParts text).mapM (readNumber what) :=
  if_pos (List.contains_iff_mem.2 h)

/-- A list of another length is refused with its count. -/
theorem readNumbers_of_not_mem (h : ((commaParts text).length : Int) ∉ expected) :
    readNumbers expected what text =
      .error (.wrongCount expected (String.ofList (trim text)) (commaParts text).length) :=
  if_neg (mt List.contains_iff_mem.1 h)

/-- A pair is a list of two numbers. -/
theorem readPair_eq :
    (readPair what text).map (fun pair => [pair.1, pair.2]) = readNumbers [2] what text := by
  by_cases hcount : ((commaParts text).length : Int) ∈ [2]
  · rw [readNumbers_of_mem what hcount, readPair]
    have hlength : (commaParts text).length = 2 := by
      rw [List.mem_singleton] at hcount
      omega
    obtain ⟨first, second, hparts⟩ := List.length_eq_two.1 hlength
    simp only [hparts, List.mapM_cons, List.mapM_nil]
    cases readNumber what first <;> cases readNumber what second <;> rfl
  · rw [readNumbers_of_not_mem what hcount, readPair]
    split
    · rename_i hparts
      simp [hparts] at hcount
    · rfl

/-- A single number is a list of one number. -/
theorem readSingle_eq :
    (readSingle what text).map (fun value => [value]) = readNumbers [1] what text := by
  by_cases hcount : ((commaParts text).length : Int) ∈ [1]
  · rw [readNumbers_of_mem what hcount, readSingle]
    have hlength : (commaParts text).length = 1 := by
      rw [List.mem_singleton] at hcount
      omega
    obtain ⟨only, hparts⟩ := List.length_eq_one_iff.1 hlength
    simp only [hparts, List.mapM_cons, List.mapM_nil]
    cases readNumber what only <;> rfl
  · rw [readNumbers_of_not_mem what hcount, readSingle]
    split
    · rename_i hparts
      simp [hparts] at hcount
    · rfl

end Lists

/-- The reader of lists reads lists of numerals. -/
theorem readsNumeralList (expected : List Int) (what : String) (text : List Char) :
    ReadsNumeralList expected what text := by
  have hparts : IsCommaParts text (commaParts text) := commaParts_eq_iff.1 rfl
  have hread {values : List Double} : readNumbers expected what text = .ok values ↔
      ((commaParts text).length : Int) ∈ expected ∧
        List.Forall₂ (fun part value => readNumber what part = .ok value)
          (commaParts text) values := by
    rw [← mapM_eq_ok_iff]
    by_cases hcount : ((commaParts text).length : Int) ∈ expected
    · rw [readNumbers_of_mem what hcount, and_iff_right hcount]
    · rw [readNumbers_of_not_mem what hcount]
      simp [hcount]
  exact {
    read := by
      intro values
      rw [hread]
      constructor
      · exact fun h => ⟨_, hparts, h⟩
      · rintro ⟨parts, h, hvalues⟩
        rwa [commaParts_eq_iff.2 h]
    length := by
      intro values h
      rw [hread] at h
      rw [← h.2.length_eq]
      exact h.1
    refused := by
      intro fault h
      refine ⟨_, hparts, ?_⟩
      by_cases hcount : ((commaParts text).length : Int) ∈ expected
      · rw [readNumbers_of_mem what hcount] at h
        rcases exists_of_mapM_eq_error h with ⟨part, hpart, herror⟩
        rw [readNumber_eq_error_iff, hparts.trim_eq hpart] at herror
        exact .inr ⟨part, hpart, herror⟩
      · rw [readNumbers_of_not_mem what hcount] at h
        cases h
        exact .inl ⟨hcount, rfl⟩
    pair := readPair_eq what
    single := readSingle_eq what }

/-- Numbers are read of numerals, and lists of them of numerals between commas. -/
theorem numerals_read (what : String) (token : List Char) (expected : List Int)
    (text : List Char) : ReadsNumeral what token ∧ ReadsNumeralList expected what text :=
  ⟨readsNumeral what token, readsNumeralList expected what text⟩

/-- What is converted without being a numeral. -/
example :
    ["1_0", "-Inf", "nan"].map (fun text => numeral? text.toList) = [none, none, none] ∧
      convert? "1_0".toList = numeral? "10".toList ∧
      convert? "-Inf".toList = some (.infinity true) ∧ convert? "1__0".toList = none := by
  decide +kernel

end Notation
end Wardley
