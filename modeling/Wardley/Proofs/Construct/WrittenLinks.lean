import Wardley.Parsing.Finding
import Wardley.Proofs.Construct.Operators
import Wardley.Proofs.Notation.Insertion

/-!
# Links as they are written

A link is written as the name of its start, a sign, the name of its finish and perhaps a
context behind a semicolon.  As long as no operator begins in the name of the start, it is
read back from its line, whatever signs the name of the finish and the context hold.

Main definitions:

- `Direction`, `Sign`: the signs between the names of a link.
- `WrittenLink`: the parts of a written link, with its `line` and its `link`.
- `WrittenLink.IsReadable`: the parts can be told apart.

Main results:

- `operatorsAt_text`: a sign is the first operator that its text may stand for.
- `WrittenLink.readLink?_line`: the link of a line is the one that is written there.
- `WrittenLink.read_links`: a written link among other lines gives one link of the map.
-/

namespace Wardley

open Construct Notation Text

/-! ## Signs -/

/-- The directions of a flow. -/
inductive Direction where
  | future
  | past
  | both
  deriving DecidableEq, Repr

/-- The signs of a direction. -/
def Direction.text : Direction → List Char
  | future => ['>']
  | past => ['<']
  | both => ['<', '>']

/-- What stands between the names of a link. -/
inductive Sign where
  | dependency
  | flow (value : Option (List Char)) (direction : Direction)
  deriving DecidableEq, Repr

/-- The quoted value of a flow. -/
def quoted : Option (List Char) → List Char
  | none => []
  | some value => '\'' :: (value ++ ['\''])

namespace Sign

/-- A sign as it is written. -/
def text : Sign → List Char
  | dependency => ['-', '>']
  | flow value direction => '+' :: (quoted value ++ direction.text)

/-- What a sign says about its link. -/
def operator : Sign → Operator
  | dependency => .dependency
  | flow value .future => ⟨true, true, false, value⟩
  | flow value .past => ⟨true, false, true, value⟩
  | flow value .both => ⟨true, true, true, value⟩

/-- The value that a sign carries. -/
def value? : Sign → Option (List Char)
  | dependency => none
  | flow value _ => value

/-- The sign ends in a single `<`, which a following `>` would turn into both directions. -/
def isOpen : Sign → Bool
  | flow _ .past => true
  | _ => false

end Sign

theorem takeQuoted_append {value : Option (List Char)} {rest : List Char}
    (hvalue : ∀ text ∈ value, '\'' ∉ text) (hrest : '\'' ∉ rest.head?) :
    takeQuoted (quoted value ++ rest) = (value, rest) := by
  cases value with
  | none => exact takeQuoted_of_not_quote hrest
  | some text =>
      have hquoted : quoted (some text) ++ rest = '\'' :: (text ++ '\'' :: rest) := by
        simp [quoted]
      rw [hquoted, takeQuoted, dropWhile_ne_append (hvalue text rfl),
        takeWhile_ne_append (hvalue text rfl)]

/-- A sign is the first operator that its text may stand for. -/
theorem operatorsAt_text {sign : Sign} {finish : List Char}
    (hvalue : ∀ text ∈ sign.value?, '\'' ∉ text) (hopen : sign.isOpen → '>' ∉ finish.head?) :
    ∃ others, operatorsAt (sign.text ++ finish) = (sign.operator, finish) :: others := by
  cases sign with
  | dependency => exact ⟨[], rfl⟩
  | flow value direction =>
      have htext : (Sign.flow value direction).text ++ finish =
          '+' :: (quoted value ++ (direction.text ++ finish)) := by
        simp [Sign.text]
      have hhead : '\'' ∉ (direction.text ++ finish).head? := by
        cases direction <;> simp [Direction.text]
      have hquoted : ∀ text ∈ value, '\'' ∉ text := hvalue
      rw [htext, operatorsAt, takeQuoted_append hquoted hhead]
      cases direction with
      | future => exact ⟨[], rfl⟩
      | both => exact ⟨_, rfl⟩
      | past =>
          refine ⟨[], ?_⟩
          cases finish with
          | nil => rfl
          | cons c rest =>
              have hc : c ≠ '>' := by
                rintro rfl
                exact hopen rfl rfl
              simp [Direction.text, Sign.operator, hc]

/-- The first operator of a text that begins with a sign is the sign. -/
theorem findOperator_text {sign : Sign} {finish : List Char}
    (hvalue : ∀ text ∈ sign.value?, '\'' ∉ text) (hopen : sign.isOpen → '>' ∉ finish.head?)
    (hne : finish ≠ []) :
    findOperator (sign.text ++ finish) = some ([], sign.operator, finish) := by
  rcases operatorsAt_text hvalue hopen with ⟨others, hothers⟩
  have hfound : (operatorsAt (sign.text ++ finish)).find? (fun found => !found.2.isEmpty) =
      some (sign.operator, finish) := by
    rw [hothers, List.find?_cons_of_pos (by simpa using hne)]
  cases htext : sign.text ++ finish with
  | nil => exact absurd (List.append_eq_nil_iff.1 htext).2 hne
  | cons c rest =>
      rw [findOperator, ← htext, hfound]

/-! ## Links -/

/-- The parts of a written link. -/
structure WrittenLink where
  start : List Char
  sign : Sign
  finish : List Char
  /-- What stands behind a semicolon. -/
  context : Option (List Char) := none
  deriving DecidableEq, Repr

/-- A context that is not blank, without the blanks around it. -/
def keptContext : Option (List Char) → Option String
  | none => none
  | some text => if trim text = [] then none else some (String.ofList (trim text))

namespace WrittenLink

/-- The names of a link with the sign between them. -/
def core (written : WrittenLink) : List Char :=
  written.start ++ (written.sign.text ++ written.finish)

/-- The line of a written link. -/
def line (written : WrittenLink) : List Char :=
  match written.context with
  | none => written.core
  | some context => written.core ++ ';' :: context

/-- The link that is written on the line of a number. -/
def link (keepContext : Bool) (number : Nat) (written : WrittenLink) : Link where
  start := String.ofList written.start
  finish := String.ofList written.finish
  flow := written.sign.operator.flow
  future := written.sign.operator.future
  past := written.sign.operator.past
  context := if keepContext then keptContext written.context else none
  flowValue := written.sign.value?.map String.ofList
  line := some (.int number)

/-- The parts of a written link can be told apart. -/
structure IsReadable (written : WrittenLink) : Prop where
  start_ne_nil : written.start ≠ []
  trim_start : trim written.start = written.start
  noOperator : HasNoOperator written.start
  finish_ne_nil : written.finish ≠ []
  trim_finish : trim written.finish = written.finish
  noQuote : ∀ value ∈ written.sign.value?, '\'' ∉ value
  noSemicolon : ';' ∉ written.core
  notBoth : written.sign.isOpen → '>' ∉ written.finish.head?

instance (written : WrittenLink) : Decidable written.IsReadable :=
  decidable_of_iff
    (written.start ≠ [] ∧ trim written.start = written.start ∧ HasNoOperator written.start ∧
      written.finish ≠ [] ∧ trim written.finish = written.finish ∧
      (∀ value ∈ written.sign.value?, '\'' ∉ value) ∧ ';' ∉ written.core ∧
      (written.sign.isOpen → '>' ∉ written.finish.head?))
    ⟨fun ⟨h₁, h₂, h₃, h₄, h₅, h₆, h₇, h₈⟩ => ⟨h₁, h₂, h₃, h₄, h₅, h₆, h₇, h₈⟩,
      fun ⟨h₁, h₂, h₃, h₄, h₅, h₆, h₇, h₈⟩ => ⟨h₁, h₂, h₃, h₄, h₅, h₆, h₇, h₈⟩⟩

variable {written : WrittenLink}

/-- The operator of a written link is its sign. -/
theorem IsReadable.findOperator_eq (h : written.IsReadable) {c : Char} {before : List Char}
    (hstart : written.start = c :: before) :
    findOperator (before ++ (written.sign.text ++ written.finish)) =
      some (before, written.sign.operator, written.finish) := by
  have hbefore : HasNoOperator before := by
    intro pair hpair hin
    apply h.noOperator pair hpair
    rw [hstart]
    exact List.infix_cons hin
  have hseam : ∀ c ∈ (written.sign.text ++ written.finish).head?, c ∉ ['<', '>', '\''] := by
    cases written.sign <;> simp [Sign.text]
  rw [findOperator_append hbefore hseam,
    findOperator_text h.noQuote h.notBoth h.finish_ne_nil]
  simp

theorem IsReadable.trim_core (h : written.IsReadable) : trim written.core = written.core :=
  trim_between h.trim_start h.start_ne_nil h.trim_finish h.finish_ne_nil _

/-- A trimmed line has the written context, up to the blanks around it. -/
theorem IsReadable.splitContext_line (h : written.IsReadable) :
    ∃ context, splitContext (trim written.line) = (written.core, context) ∧
      context.map trim = written.context.map trim := by
  cases hcontext : written.context with
  | none =>
      refine ⟨none, ?_, rfl⟩
      simp only [line, hcontext]
      rw [h.trim_core, splitContext, breakAt_eq_none List.mem_cons_self h.noSemicolon]
  | some context =>
      have hne : written.core ≠ [] := List.append_ne_nil_of_left_ne_nil h.start_ne_nil _
      have hend : trimEnd (';' :: context) = ';' :: trimEnd context := by
        rw [trimEnd]
        split
        · rename_i hnil
          rw [hnil]
          rfl
        · rfl
      have hline : trim written.line = written.core ++ ';' :: trimEnd context := by
        simp only [line, hcontext]
        rw [trim_append h.trim_core hne, hend]
      refine ⟨some (trimEnd context), ?_, ?_⟩
      · rw [hline, splitContext, breakAt_singleton h.noSemicolon]
      · simp only [Option.map_some, trim_trimEnd_eq]

/-- A context is kept if trimming leaves something of it. -/
theorem filter_map_trim {context kept : Option (List Char)}
    (h : kept.map trim = context.map trim) :
    ((kept.map trim).filter fun text => !text.isEmpty).map String.ofList = keptContext context := by
  rw [h]
  cases context with
  | none => rfl
  | some text =>
      by_cases hblank : trim text = []
      · simp [keptContext, hblank]
      · simp [keptContext, hblank]

/-- The link of a line is the one that is written there. -/
theorem IsReadable.readLink?_line (h : written.IsReadable) (keepContext : Bool) (number : Nat) :
    readLink? keepContext number written.line = some (written.link keepContext number) := by
  rcases h.splitContext_line with ⟨context, hsplit, hcontext⟩
  rcases List.exists_cons_of_ne_nil h.start_ne_nil with ⟨c, before, hstart⟩
  have hcore : written.core = c :: (before ++ (written.sign.text ++ written.finish)) := by
    rw [core, hstart, List.cons_append]
  have hvalue : written.sign.operator.value = written.sign.value? := by
    cases written.sign with
    | dependency => rfl
    | flow value direction => cases direction <;> rfl
  rw [readLink?, hsplit]
  dsimp only
  rw [h.trim_core, hcore]
  dsimp only
  rw [h.findOperator_eq hstart]
  simp only [filter_map_trim hcontext, hvalue, ← hstart, h.trim_start, h.trim_finish]
  rfl

/-- A written link among other lines gives one link of the map. -/
theorem read_links (switches : Switches) (h : written.IsReadable)
    (hword : firstWord written.line ∉ reservedKeywords) (before after : List (List Char)) :
    Kind.links.read switches (before ++ written.line :: after) =
      ⟨Kind.links.key,
        .links (links switches.linkContext (numbered before) ++
          written.link switches.linkContext (before.length + 1) ::
            links switches.linkContext (numberFrom (before.length + 2) after)), []⟩ := by
  have hkept : isReserved written.line = false := by
    rw [Bool.eq_false_iff, Ne, isReserved_iff]
    exact hword
  have hlines : numbered (before ++ written.line :: after) = numbered before ++
      (before.length + 1, written.line) :: numberFrom (before.length + 2) after := by
    rw [numbered, numberFrom_append, numberFrom_cons, Nat.add_comm 1]
    rfl
  have hlinks (lines : List (Nat × List Char)) :
      links switches.linkContext ((before.length + 1, written.line) :: lines) =
        written.link switches.linkContext (before.length + 1) ::
          links switches.linkContext lines := by
    rw [links, List.filter_cons_of_pos (by simp [hkept]), List.filterMap_cons,
      h.readLink?_line]
    rfl
  rw [Kind.read, Kind.contents, hlines, ← hlinks, links, List.filter_append,
    List.filterMap_append]
  rfl

/-- A flow with a value, from a name that ends in a plus sign to one that holds an arrow. -/
def kettle : WrittenLink where
  start := "Kettle+".toList
  sign := .flow (some "steam".toList) .both
  finish := "Cup->Saucer".toList
  context := some "  at noon; daily ".toList

theorem read_links_kettle :
    kettle.IsReadable ∧ firstWord kettle.line ∉ reservedKeywords ∧
      Kind.links.read .allOn (["title Tea".toList] ++ kettle.line :: ["Tea->Cup".toList]) =
        ⟨"links", .links [
          { start := "Kettle+", finish := "Cup->Saucer", flow := true, future := true,
            past := true, context := some "at noon; daily", flowValue := some "steam",
            line := some (.int 2) },
          { start := "Tea", finish := "Cup", line := some (.int 3) }], []⟩ := by
  have hreadable : kettle.IsReadable := by decide
  have hword : firstWord kettle.line ∉ reservedKeywords := by decide
  refine ⟨hreadable, hword, ?_⟩
  rw [read_links .allOn hreadable hword]
  decide

end WrittenLink

end Wardley
