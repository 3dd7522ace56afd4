import Wardley.Proofs.Construct.Surroundings
import Wardley.Proofs.Construct.WrittenLinks

/-!
# Links without an end

A name with a sign and only blanks behind it holds no link, as long as the sign is not taken
apart.  The search for an operator goes on behind a sign that nothing follows, and it finds
one within the sign in two cases: the sign of both directions begins with the sign of the
past, and a quoted value may hold an operator of its own.

Main definitions:

- `Sign.Splits`: the sign is taken apart when nothing follows it.
- `UnendedLink`: a name, a sign and blanks.
- `WrittenLink.Shows`: a link is read from the parts of a text.

Main results:

- `findOperator_spec`: an operator that is found is a sign, and all of it is taken unless
  nothing would be left for the finish.
- `findOperator_text_eq_none_iff`: no operator is found in a sign that is not taken apart.
- `UnendedLink.links_unended`: links that have no end, and the ends that links have.
-/

namespace Wardley

open Construct Notation Text

/-! ## Operators that are found -/

/-- The value that is taken from the front of a text is quoted there. -/
theorem takeQuoted_spec (text : List Char) :
    text = quoted (takeQuoted text).1 ++ (takeQuoted text).2 ∧
      ∀ value ∈ (takeQuoted text).1, '\'' ∉ value := by
  unfold takeQuoted
  split
  · rename_i rest
    split
    · rename_i c after hdrop
      have hquote : c = '\'' := by
        have hhead := List.head?_dropWhile_not (· != '\'') rest
        simpa [hdrop] using hhead
      constructor
      · have hrest : rest.takeWhile (· != '\'') ++ c :: after = rest := by
          rw [← hdrop, List.takeWhile_append_dropWhile]
        rw [hquote] at hrest
        simpa [quoted] using hrest.symm
      · intro value hvalue hmem
        obtain rfl : rest.takeWhile (· != '\'') = value := Option.some.inj hvalue
        simpa using List.mem_takeWhile_imp hmem
    · simp [quoted]
  · simp [quoted]

/-- All of a sign is taken, unless nothing would be left behind it. -/
def Sign.IsWhole (sign : Sign) (finish : List Char) : Prop :=
  sign.isOpen = true → '>' ∈ finish.head? → finish = ['>']

/-- An operator that a text begins with is a sign. -/
theorem find?_operatorsAt {text finish : List Char} {operator : Operator}
    (h : (operatorsAt text).find? (fun found => !found.2.isEmpty) = some (operator, finish)) :
    ∃ sign : Sign, text = sign.text ++ finish ∧ operator = sign.operator ∧
      (∀ value ∈ sign.value?, '\'' ∉ value) ∧ sign.IsWhole finish := by
  unfold operatorsAt at h
  split at h
  · rename_i rest
    obtain ⟨-, rfl, rfl⟩ : rest.isEmpty = false ∧ _ = operator ∧ rest = finish := by
      simpa using h
    exact ⟨.dependency, rfl, rfl, by simp [Sign.value?], fun hopen => by cases hopen⟩
  · rename_i rest
    rcases takeQuoted_spec rest with ⟨hrest, hvalue⟩
    generalize takeQuoted rest = taken at h hrest hvalue
    rcases taken with ⟨value, after⟩
    dsimp only at h hrest hvalue
    split at h
    · rename_i behind
      by_cases hbehind : behind = []
      · -- nothing is behind both directions, and the second one is left for the finish
        subst hbehind
        obtain ⟨rfl, rfl⟩ : _ = operator ∧ ['>'] = finish := by simpa using h
        exact ⟨.flow value .past, by simp [Sign.text, Direction.text, hrest], rfl, hvalue,
          fun _ _ => rfl⟩
      · obtain ⟨rfl, rfl⟩ : _ = operator ∧ behind = finish := by simpa [hbehind] using h
        exact ⟨.flow value .both, by simp [Sign.text, Direction.text, hrest], rfl, hvalue,
          fun hopen => by cases hopen⟩
    · rename_i behind hboth
      obtain ⟨-, rfl, rfl⟩ : behind.isEmpty = false ∧ _ = operator ∧ behind = finish := by
        simpa using h
      refine ⟨.flow value .past, by simp [Sign.text, Direction.text, hrest], rfl, hvalue, ?_⟩
      intro _ hhead
      rcases List.head?_eq_some_iff.1 hhead with ⟨rest', rfl⟩
      exact absurd rfl (hboth rest')
    · rename_i behind
      obtain ⟨-, rfl, rfl⟩ : behind.isEmpty = false ∧ _ = operator ∧ behind = finish := by
        simpa using h
      exact ⟨.flow value .future, by simp [Sign.text, Direction.text, hrest], rfl, hvalue,
        fun hopen => by cases hopen⟩
    · cases h
  · cases h

/--
An operator that is found is a sign with something behind it, and all of it is taken unless
nothing would be left for the finish.
-/
theorem findOperator_spec {text before finish : List Char} {operator : Operator}
    (h : findOperator text = some (before, operator, finish)) :
    finish ≠ [] ∧ ∃ sign : Sign, text = before ++ (sign.text ++ finish) ∧
      operator = sign.operator ∧ (∀ value ∈ sign.value?, '\'' ∉ value) ∧
      sign.IsWhole finish := by
  induction text generalizing before with
  | nil => cases h
  | cons c rest ih =>
      rw [findOperator] at h
      split at h
      · rename_i found hfound
        cases h
        have hne := List.find?_some hfound
        exact ⟨by simpa using hne, find?_operatorsAt hfound⟩
      · rcases Option.map_eq_some_iff.1 h with ⟨⟨before', operator', finish'⟩, hlater, hparts⟩
        cases hparts
        rcases ih hlater with ⟨hne, sign, rfl, hsign⟩
        exact ⟨hne, sign, rfl, hsign⟩

/-- An operator behind a text is found in the whole, if none is found before. -/
theorem findOperator_ne_none_append {rest : List Char} (h : findOperator rest ≠ none)
    (before : List Char) : findOperator (before ++ rest) ≠ none := by
  induction before with
  | nil => exact h
  | cons c before ih =>
      rw [List.cons_append, findOperator]
      split
      · simp
      · simpa using ih

/-! ## Signs that are taken apart -/

/-- The sign is taken apart when nothing follows it: it holds an operator and more. -/
def Sign.Splits : Sign → Prop
  | .dependency => False
  | .flow value direction => direction = .both ∨ ∃ text ∈ value, ¬ HasNoOperator text

/-- A quoted value without operators holds none with the quote behind it. -/
theorem findOperator_quote {value : List Char} (h : HasNoOperator value) (direction : Direction) :
    findOperator (value ++ '\'' :: direction.text) = none := by
  induction value with
  | nil => cases direction <;> rfl
  | cons c value ih =>
      have hlater : HasNoOperator value := fun pair hpair hin =>
        h pair hpair (List.infix_cons hin)
      have hnone : operatorsAt (c :: (value ++ '\'' :: direction.text)) = [] := by
        by_cases hplus : c = '+' ∧ value = []
        · -- a quote that nothing closes carries no value
          rcases hplus with ⟨rfl, rfl⟩
          cases direction <;> rfl
        · apply operatorsAt_eq_nil
          rintro ⟨x, y⟩ hpair hprefix
          rcases List.cons_prefix_cons.1 hprefix with ⟨rfl, hbehind⟩
          cases value with
          | nil =>
              obtain rfl : y = '\'' := (List.cons_prefix_cons.1 hbehind).1
              have hplus' : ∀ pair ∈ operatorPairs, pair.2 = '\'' → pair.1 = '+' := by decide
              exact hplus ⟨hplus' _ hpair rfl, rfl⟩
          | cons d value =>
              rcases List.cons_prefix_cons.1 hbehind with ⟨rfl, -⟩
              exact h _ hpair ⟨[], value, rfl⟩
      rw [List.cons_append, findOperator, hnone, ih hlater]
      rfl

/-- A pair with which operators begin, a quote apart, begins an operator. -/
theorem findOperator_pair {pair : Char × Char} (hpair : pair ∈ operatorPairs)
    (hquote : pair.2 ≠ '\'') {rest : List Char} (hne : rest ≠ []) :
    findOperator (pair.1 :: pair.2 :: rest) ≠ none := by
  simp only [operatorPairs, List.mem_cons, List.not_mem_nil, or_false] at hpair
  rcases hpair with rfl | rfl | rfl | rfl
  · simp [findOperator, operatorsAt, hne]
  · rcases List.exists_cons_of_ne_nil hne with ⟨c, others, rfl⟩
    by_cases hc : c = '>'
    · subst hc
      cases others <;> simp [findOperator, operatorsAt, takeQuoted]
    · simp [findOperator, operatorsAt, takeQuoted, hc]
  · simp [findOperator, operatorsAt, takeQuoted, hne]
  · exact absurd rfl hquote

/-- A text with an operator and something behind it is taken apart there. -/
theorem findOperator_of_not_hasNoOperator {value rest : List Char} (hquote : '\'' ∉ value)
    (h : ¬ HasNoOperator value) (hne : rest ≠ []) : findOperator (value ++ rest) ≠ none := by
  simp only [HasNoOperator, not_forall, not_not] at h
  rcases h with ⟨pair, hpair, before, after, rfl⟩
  have hsecond : pair.2 ≠ '\'' := by
    intro heq
    apply hquote
    simp [heq]
  have hfound := findOperator_pair hpair hsecond
    (List.append_ne_nil_of_right_ne_nil after hne)
  simpa using findOperator_ne_none_append hfound before

/-- Behind the plus sign of a flow, its operator is the one of both directions or a later one. -/
theorem findOperator_flow_eq_none_iff {value : List Char} (hquote : '\'' ∉ value)
    (direction : Direction) :
    findOperator (Sign.flow (some value) direction).text = none ↔
      direction ≠ .both ∧ findOperator (value ++ '\'' :: direction.text) = none := by
  have htext : (Sign.flow (some value) direction).text =
      '+' :: '\'' :: (value ++ '\'' :: direction.text) := by
    simp [Sign.text, quoted]
  have htaken : takeQuoted ('\'' :: (value ++ '\'' :: direction.text)) =
      (some value, direction.text) := by
    rw [takeQuoted, dropWhile_ne_append hquote, takeWhile_ne_append hquote]
  -- the quote that opens the value begins no operator
  have hopening : operatorsAt ('\'' :: (value ++ '\'' :: direction.text)) = [] := by
    simp [operatorsAt]
  rw [htext, findOperator, operatorsAt, htaken, findOperator, hopening]
  cases direction <;> simp [Direction.text]

/-- No operator is found in a sign exactly when the sign is not taken apart. -/
theorem findOperator_text_eq_none_iff {sign : Sign} (hvalue : ∀ value ∈ sign.value?, '\'' ∉ value) :
    findOperator sign.text = none ↔ ¬ sign.Splits := by
  cases sign with
  | dependency => exact iff_of_true rfl id
  | flow value direction =>
      cases value with
      | none => cases direction <;> simp [Sign.Splits, Sign.text, quoted, Direction.text,
          findOperator, operatorsAt, takeQuoted]
      | some value =>
          have hquote : '\'' ∉ value := hvalue value rfl
          have hwithin : findOperator (value ++ '\'' :: direction.text) = none ↔
              HasNoOperator value := by
            refine ⟨fun hnone => ?_, fun h => findOperator_quote h direction⟩
            by_contra h
            exact findOperator_of_not_hasNoOperator hquote h (List.cons_ne_nil _ _) hnone
          rw [findOperator_flow_eq_none_iff hquote, hwithin]
          simp [Sign.Splits]

/-- A sign begins and ends in characters that are not blank. -/
theorem Sign.trim_text (sign : Sign) : trim sign.text = sign.text := by
  cases sign with
  | dependency => decide
  | flow value direction =>
      have hplus : trim ['+'] = ['+'] := by decide
      have hdirection : trim direction.text = direction.text ∧ direction.text ≠ [] := by
        cases direction <;> decide
      exact trim_between hplus (by decide) hdirection.1 hdirection.2 (quoted value)

theorem Sign.value_operator (sign : Sign) : sign.operator.value = sign.value? := by
  cases sign with
  | dependency => rfl
  | flow value direction => cases direction <;> rfl

/-! ## Links without an end -/

/-- A name with a sign and blanks behind it. -/
structure UnendedLink where
  start : List Char
  sign : Sign
  blanks : List Char := []
  deriving DecidableEq, Repr

namespace UnendedLink

/-- The name and the sign. -/
def core (unended : UnendedLink) : List Char := unended.start ++ unended.sign.text

/-- The line of a link without an end. -/
def line (unended : UnendedLink) : List Char := unended.core ++ unended.blanks

/-- The parts of a link without an end can be told apart. -/
structure IsReadable (unended : UnendedLink) : Prop where
  start_ne_nil : unended.start ≠ []
  trim_start : trim unended.start = unended.start
  noOperator : HasNoOperator unended.start
  word : firstWord unended.start ∉ reservedKeywords
  noQuote : ∀ value ∈ unended.sign.value?, '\'' ∉ value
  noSemicolon : ';' ∉ unended.core
  isBlank_blanks : ∀ c ∈ unended.blanks, isBlank c = true

-- `List.all` keeps the test to the blanks, instead of a search through all characters.
instance (unended : UnendedLink) : Decidable unended.IsReadable :=
  decidable_of_iff
    (unended.start ≠ [] ∧ trim unended.start = unended.start ∧ HasNoOperator unended.start ∧
      firstWord unended.start ∉ reservedKeywords ∧
      (∀ value ∈ unended.sign.value?, '\'' ∉ value) ∧ ';' ∉ unended.core ∧
      unended.blanks.all isBlank = true)
    ⟨fun ⟨h₁, h₂, h₃, h₄, h₅, h₆, h₇⟩ => ⟨h₁, h₂, h₃, h₄, h₅, h₆, List.all_eq_true.1 h₇⟩,
      fun ⟨h₁, h₂, h₃, h₄, h₅, h₆, h₇⟩ => ⟨h₁, h₂, h₃, h₄, h₅, h₆, List.all_eq_true.2 h₇⟩⟩

variable {unended : UnendedLink}

theorem IsReadable.trim_line (h : unended.IsReadable) : trim unended.line = unended.core := by
  have hsign : unended.sign.text ≠ [] := by
    cases unended.sign <;> exact List.cons_ne_nil _ _
  have hcore : trim unended.core = unended.core :=
    trim_between h.trim_start h.start_ne_nil unended.sign.trim_text hsign []
  rw [line, trim_append_blank h.isBlank_blanks, hcore]

/-- No keyword has a character with which signs begin. -/
theorem IsReadable.firstWord_line (h : unended.IsReadable) :
    firstWord unended.line ∉ reservedKeywords := by
  have hnone : ∃ c rest, unended.sign.text = c :: rest ∧ isSolid c = true ∧
      ∀ keyword ∈ reservedKeywords, c ∉ keyword.toList := by
    cases unended.sign with
    | dependency => exact ⟨'-', _, rfl, by decide, by decide⟩
    | flow value direction => exact ⟨'+', _, rfl, by decide, by decide⟩
  rcases hnone with ⟨c, rest, htext, hsolid, hnone⟩
  rw [firstWord, h.trim_line, core, htext, List.takeWhile_append]
  split
  · -- the first word goes on behind the name and takes the beginning of the sign with it
    intro hmem
    refine hnone _ hmem ?_
    simp [hsolid]
  · have hword := h.word
    rwa [firstWord, h.trim_start] at hword

/-- A line without an end holds a link exactly when its sign is taken apart. -/
theorem IsReadable.readLink?_eq_none_iff (h : unended.IsReadable) (keepContext : Bool)
    (number : Nat) :
    readLink? keepContext number unended.line = none ↔ ¬ unended.sign.Splits := by
  rcases List.exists_cons_of_ne_nil h.start_ne_nil with ⟨c, before, hstart⟩
  have hbefore : HasNoOperator before := by
    intro pair hpair hin
    apply h.noOperator pair hpair
    rw [hstart]
    exact List.infix_cons hin
  have hseam : ∀ d ∈ unended.sign.text.head?, d ∉ ['<', '>', '\''] := by
    cases unended.sign <;> simp [Sign.text]
  have hcore : unended.core = c :: (before ++ unended.sign.text) := by
    rw [core, hstart, List.cons_append]
  have hsplit : splitContext unended.core = (unended.core, none) := by
    rw [splitContext, breakAt_eq_none List.mem_cons_self h.noSemicolon]
  have htrim : trim unended.core = unended.core := by rw [← h.trim_line, trim_trim]
  rw [← findOperator_text_eq_none_iff h.noQuote, readLink?, h.trim_line, hsplit]
  dsimp only
  rw [htrim, hcore]
  dsimp only
  rw [findOperator_append hbefore hseam]
  cases findOperator unended.sign.text <;> simp

end UnendedLink

/-! ## The ends that links have -/

/-- A link is read from the parts of a text, and all of its sign is taken. -/
structure WrittenLink.Shows (written : WrittenLink) (text : List Char) (link : Link) : Prop where
  text_eq : text = written.core
  start_ne_nil : written.start ≠ []
  finish_ne_nil : written.finish ≠ []
  noQuote : ∀ value ∈ written.sign.value?, '\'' ∉ value
  isWhole : written.sign.IsWhole written.finish
  start_eq : link.start = String.ofList (trim written.start)
  finish_eq : link.finish = String.ofList (trim written.finish)
  flow_eq : link.flow = written.sign.operator.flow
  future_eq : link.future = written.sign.operator.future
  past_eq : link.past = written.sign.operator.past
  value_eq : link.flowValue = written.sign.value?.map String.ofList

/-- The link of a line is read from the parts of the text before its context. -/
theorem exists_shows {keepContext : Bool} {number : Nat} {line : List Char} {link : Link}
    (h : readLink? keepContext number line = some link) :
    link.line = some (.int number) ∧
      ∃ written : WrittenLink, written.Shows (trim (splitContext (trim line)).1) link := by
  rw [readLink?] at h
  generalize splitContext (trim line) = parts at h
  rcases parts with ⟨text, context⟩
  dsimp only at h
  split at h
  · cases h
  · rename_i c rest htext
    split at h
    · cases h
    · rename_i before operator finish hfind
      rcases findOperator_spec hfind with ⟨hne, sign, hrest, rfl, hquote, hwhole⟩
      cases h
      refine ⟨rfl, ⟨c :: before, sign, finish, none⟩, ?_⟩
      exact {
        text_eq := by rw [htext, hrest]; rfl
        start_ne_nil := List.cons_ne_nil _ _
        finish_ne_nil := hne
        noQuote := hquote
        isWhole := hwhole
        start_eq := rfl
        finish_eq := rfl
        flow_eq := rfl
        future_eq := rfl
        past_eq := rfl
        value_eq := by rw [Sign.value_operator] }

namespace UnendedLink

/--
A line without an end adds no link unless its sign is taken apart; and a link of any lines has
all of its sign, unless its end is the last character of a sign that nothing follows.
-/
theorem links_unended (keepContext : Bool) :
    (∀ unended : UnendedLink, unended.IsReadable → ∀ before after : List (List Char),
      (links keepContext (numbered (before ++ unended.line :: after)) =
        links keepContext (numbered before) ++
          links keepContext (numberFrom (before.length + 2) after) ↔ ¬ unended.sign.Splits)) ∧
    ∀ lines : List (Nat × List Char), ∀ link ∈ links keepContext lines,
      ∃ line ∈ lines, link.line = some (.int line.1) ∧
        ∃ written : WrittenLink, written.Shows (trim (splitContext (trim line.2)).1) link := by
  constructor
  · intro unended h before after
    have hkept : isReserved unended.line = false := by
      rw [Bool.eq_false_iff, Ne, isReserved_iff]
      exact h.firstWord_line
    rw [links_around before after unended.line keepContext hkept, List.append_cancel_left_eq,
      List.append_left_eq_self, Option.toList_eq_nil_iff, h.readLink?_eq_none_iff]
  · intro lines link hlink
    rcases List.mem_filterMap.1 hlink with ⟨line, hline, hread⟩
    exact ⟨line, (List.mem_filter.1 hline).1, exists_shows hread⟩

/-- A name that ends in a plus sign, and a flow whose value holds no operator. -/
def steam : UnendedLink where
  start := "Kettle of tea+".toList
  sign := .flow (some "5+ cups".toList) .past
  blanks := [' ', '\t']

theorem links_unended_steam :
    steam.IsReadable ∧ ¬ steam.sign.Splits ∧
      links true (numbered (["Tea->Cup".toList] ++ steam.line :: ["Cup->Tea".toList])) =
        [{ start := "Tea", finish := "Cup", line := some (.int 1) },
          { start := "Cup", finish := "Tea", line := some (.int 3) }] := by
  have hreadable : steam.IsReadable := by decide
  have hsplits : ¬ steam.sign.Splits := by
    rintro (hboth | ⟨value, hvalue, hoperator⟩)
    · cases hboth
    · cases hvalue
      exact hoperator (by decide)
  refine ⟨hreadable, hsplits, ?_⟩
  rw [((links_unended true).1 steam hreadable _ _).2 hsplits]
  decide

/-- The sign of both directions and a value that holds an operator are taken apart. -/
theorem ends_within_sign :
    let both : UnendedLink := { start := ['A'], sign := .flow none .both }
    let arrow : UnendedLink := { start := ['A'], sign := .flow (some ['-', '>']) .future }
    both.line = "A+<>".toList ∧ arrow.line = "A+'->'>".toList ∧
      both.IsReadable ∧ arrow.IsReadable ∧
      links true (numbered [both.line, arrow.line]) =
        [{ start := "A", finish := ">", flow := true, past := true, line := some (.int 1) },
          { start := "A+'", finish := "'>", line := some (.int 2) }] := by
  decide

end UnendedLink

end Wardley
