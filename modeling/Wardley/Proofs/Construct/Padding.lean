import Wardley.Proofs.Construct.Insertion
import Wardley.Proofs.Notation.Padding

/-!
# Readings of padded lines

Every reading takes its texts from trimmed bodies, so that it yields the same from padded
lines as from their cores.  Only the children of a block are cut out of lines as they
stand; there, blanks at the ends fall into the text before the first child and into
the trimmed body of the last one.

Main results:

- `splitChildren_padded`: the children on a padded line.
- `declarations_map_trimLine`: the declarations of trimmed lines.
- `elementsOf_map_trimLine`, `pipelines_map_trimLine`, `links_map_trimLine`: the readings
  that look at more than single declarations.
-/

namespace Wardley
namespace Construct

open Notation Text

/-! ## Children of blocks -/

/-- A child begins at the start of a text. -/
def beginsChild (fresh : Bool) (text : List Char) : Bool :=
  fresh && (afterChildKeyword? text).isSome

/-- Where a child begins, the text is split and its keyword dropped. -/
theorem splitAtChildren_of_begins {fresh : Bool} {c : Char} {rest : List Char}
    (h : beginsChild fresh (c :: rest) = true) :
    splitAtChildren fresh (c :: rest) = [] :: splitAtChildren false (rest.drop 8) := by
  rcases Bool.and_eq_true_iff.1 h with ⟨rfl, hchild⟩
  rcases Option.isSome_iff_exists.1 hchild with ⟨after, hafter⟩
  rw [splitAtChildren, if_pos rfl, hafter]

/-- Where no child begins, the character joins the piece behind it. -/
theorem splitAtChildren_of_not_begins {fresh : Bool} {c : Char} {rest : List Char}
    (h : beginsChild fresh (c :: rest) = false) :
    splitAtChildren fresh (c :: rest) =
      match splitAtChildren (isBlank c) rest with
      | [] => [[c]]
      | piece :: others => (c :: piece) :: others := by
  have hnone : (if fresh then afterChildKeyword? (c :: rest) else none) = none := by
    cases fresh with
    | false => rfl
    | true => simpa [beginsChild] using h
  rw [splitAtChildren]
  split
  · rename_i hsome
    rw [hnone] at hsome
    contradiction
  · rfl

/-- No child begins with a blank. -/
theorem beginsChild_blank {fresh : Bool} {c : Char} (hc : isBlank c = true) (rest : List Char) :
    beginsChild fresh (c :: rest) = false := by
  have hne : 'c' ≠ c := by
    rintro rfl
    contradiction
  have hnone : afterChildKeyword? (c :: rest) = none := by
    rw [afterChildKeyword?]
    simp [afterPrefix, hne]
  rw [beginsChild, hnone, Option.isSome_none, Bool.and_false]

/-- Blanks at the end do not change where a child begins. -/
theorem beginsChild_append_blank {after : List Char} (h : ∀ c ∈ after, isBlank c)
    (fresh : Bool) (text : List Char) :
    beginsChild fresh (text ++ after) = beginsChild fresh text := by
  unfold beginsChild afterChildKeyword?
  rw [afterPrefix_append_blank (by decide) h]
  congr 1
  cases afterPrefix "component".toList text with
  | none => rfl
  | some rest =>
      cases rest with
      | cons c rest => by_cases hc : isBlank c <;> simp [hc]
      | nil =>
          cases after with
          | nil => rfl
          | cons c after => simp [h c List.mem_cons_self]

/-- A text in which a child begins is long enough for the word. -/
theorem length_of_beginsChild {fresh : Bool} {c : Char} {rest : List Char}
    (h : beginsChild fresh (c :: rest) = true) : 8 ≤ rest.length := by
  have hsome := (Bool.and_eq_true_iff.1 h).2
  unfold afterChildKeyword? at hsome
  cases hafter : afterPrefix "component".toList (c :: rest) with
  | none =>
      rw [hafter] at hsome
      contradiction
  | some tail =>
      have hlength := congrArg List.length (afterPrefix_eq_some.1 hafter)
      simp only [List.length_cons, List.length_append] at hlength
      have hword : "component".toList.length = 9 := rfl
      omega

/-- The blanks before a text belong to its first piece. -/
theorem splitAtChildren_blank_append {before : List Char} (h : ∀ c ∈ before, isBlank c)
    {text first : List Char} {others : List (List Char)}
    (hsplit : splitAtChildren true text = first :: others) :
    splitAtChildren true (before ++ text) = (before ++ first) :: others := by
  induction before with
  | nil => exact hsplit
  | cons c before ih =>
      have hc := h c List.mem_cons_self
      rw [List.cons_append, splitAtChildren_of_not_begins (beginsChild_blank hc _), hc,
        ih fun d hd => h d (List.mem_cons_of_mem _ hd)]
      rfl

/-- Blanks are one piece. -/
theorem splitAtChildren_blank {after : List Char} (h : ∀ c ∈ after, isBlank c) (fresh : Bool) :
    splitAtChildren fresh after = [after] := by
  induction after generalizing fresh with
  | nil => rw [splitAtChildren]
  | cons c after ih =>
      have hc := h c List.mem_cons_self
      rw [splitAtChildren_of_not_begins (beginsChild_blank hc _),
        ih fun d hd => h d (List.mem_cons_of_mem _ hd)]

/-- The blanks behind a text belong to its last piece. -/
theorem splitAtChildren_append_blank {after : List Char} (h : ∀ c ∈ after, isBlank c)
    (fresh : Bool) (text : List Char) :
    ∃ pieces last, splitAtChildren fresh text = pieces ++ [last] ∧
      splitAtChildren fresh (text ++ after) = pieces ++ [last ++ after] := by
  match text with
  | [] => exact ⟨[], [], by rw [splitAtChildren]; rfl, splitAtChildren_blank h fresh⟩
  | c :: rest =>
      have hsame := beginsChild_append_blank h fresh (c :: rest)
      by_cases hbegins : beginsChild fresh (c :: rest) = true
      · rcases splitAtChildren_append_blank h false (rest.drop 8) with ⟨pieces, last, hrest, hafter⟩
        have hbegins' : beginsChild fresh (c :: (rest ++ after)) = true := hsame.trans hbegins
        have hdrop : (rest ++ after).drop 8 = rest.drop 8 ++ after :=
          List.drop_append_of_le_length (length_of_beginsChild hbegins)
        refine ⟨[] :: pieces, last, ?_, ?_⟩
        · rw [splitAtChildren_of_begins hbegins, hrest]
          rfl
        · rw [List.cons_append, splitAtChildren_of_begins hbegins', hdrop, hafter]
          rfl
      · rw [Bool.not_eq_true] at hbegins
        have hbegins' : beginsChild fresh (c :: (rest ++ after)) = false := hsame.trans hbegins
        rcases splitAtChildren_append_blank h (isBlank c) rest with ⟨pieces, last, hrest, hafter⟩
        rw [List.cons_append, splitAtChildren_of_not_begins hbegins',
          splitAtChildren_of_not_begins hbegins, hrest, hafter]
        cases pieces with
        | nil => exact ⟨[], c :: last, rfl, rfl⟩
        | cons piece pieces => exact ⟨(c :: piece) :: pieces, last, rfl, rfl⟩
termination_by text.length
decreasing_by
  · simp only [List.length_cons, List.length_drop]
    omega
  · simp

/-- The children on a padded line are those on its core. -/
theorem splitChildren_padded {core text : List Char} (h : Padded core text) :
    splitChildren text = splitChildren core := by
  rcases h with ⟨before, after, rfl, hbefore, hafter⟩
  rcases splitAtChildren_append_blank hafter true core with ⟨pieces, last, hcore, htext⟩
  rw [splitChildren, splitChildren, List.append_assoc, hcore]
  cases pieces with
  | nil =>
      rw [splitAtChildren_blank_append hbefore htext]
      rfl
  | cons piece pieces =>
      rw [List.cons_append] at htext
      rw [splitAtChildren_blank_append hbefore htext]
      simp only [List.cons_append, List.tail_cons, List.map_append, List.map_singleton,
        trim_append_blank hafter]

/-- The part of a padded line inside a block is padded. -/
theorem padded_insideBlock (block : Block) (position : Nat) {core text : List Char}
    (h : Padded core text) :
    Padded (insideBlock block position core) (insideBlock block position text) := by
  have hopened : Padded (if position = block.opening then afterBrace core else core)
      (if position = block.opening then afterBrace text else text) := by
    split
    · exact padded_afterBrace h
    · exact h
  unfold insideBlock
  dsimp only
  split
  · exact hopened.takeWhile_ne (by decide)
  · exact hopened

/-! ## Declarations -/

/-- A numbered line without the blanks around it. -/
def trimLine (line : Nat × List Char) : Nat × List Char := (line.1, trim line.2)

/-- Trimming the texts leaves the numbers of the lines alone. -/
theorem numberFrom_map_trim (first : Nat) (lines : List (List Char)) :
    numberFrom first (lines.map trim) = (numberFrom first lines).map trimLine :=
  numberFrom_map first trim lines

/-- A declaration is the same on a trimmed line. -/
theorem declaration?_trimLine (keywords : List String) (line : Nat × List Char) :
    declaration? keywords (trimLine line) = declaration? keywords line := by
  simp only [declaration?, trimLine, keywordBody?_trim]

variable (lines : List (Nat × List Char))

/-- The declarations of trimmed lines. -/
theorem declarations_map_trimLine (keywords : List String) :
    declarations keywords (lines.map trimLine) = declarations keywords lines := by
  rw [declarations, List.filterMap_map]
  exact congrArg (List.filterMap · lines) (funext (declaration?_trimLine keywords))

/-- Trimmed lines have the same blocks. -/
theorem blocks_map_trimLine :
    blocks ((lines.map trimLine).map Prod.snd) = blocks (lines.map Prod.snd) := by
  rw [← blocks_map_trim (lines.map Prod.snd), List.map_map, List.map_map]
  rfl

/-! ## Elements and pipelines -/

/-- The same lines stand outside blocks after trimming. -/
theorem linesOutsideBlocks_map_trimLine :
    linesOutsideBlocks (lines.map trimLine) = (linesOutsideBlocks lines).map trimLine := by
  unfold linesOutsideBlocks
  simp only [blocks_map_trimLine, List.filter_map]
  rfl

/-- The elements of trimmed lines. -/
theorem elementsOf_map_trimLine (kinds : List ElementKind) :
    elementsOf kinds (lines.map trimLine) = elementsOf kinds lines := by
  rw [elementsOf, linesOutsideBlocks_map_trimLine, declarations_map_trimLine, elementsOf]

/-- A block declares the same children after trimming. -/
theorem childDeclarations_map_trimLine (block : Block) :
    childDeclarations block (lines.map trimLine) = childDeclarations block lines := by
  unfold childDeclarations
  rw [List.filter_map, List.flatMap_map]
  refine List.flatMap_congr fun line _ => ?_
  have hinside := padded_insideBlock block (line.1 - 1) (padded_trim line.2)
  simp only [trimLine, splitChildren_padded hinside]

/-- A header gives the same pipeline after trimming. -/
theorem readPipeline_map_trimLine (declared : List Element) (found : List Block)
    (header : Declaration) :
    readPipeline declared found (lines.map trimLine) header =
      readPipeline declared found lines header := by
  simp only [readPipeline, children, childDeclarations_map_trimLine]

/-- The pipelines of trimmed lines. -/
theorem pipelines_map_trimLine (readBlocks : Bool) :
    pipelines readBlocks (lines.map trimLine) = pipelines readBlocks lines := by
  have hdeclared : declaredElements (lines.map trimLine) = declaredElements lines :=
    congrArg Outcome.records (elementsOf_map_trimLine lines _)
  unfold pipelines
  have hkeep (found : List Block) :
      ((fun line : Nat × List Char => !found.any fun block => block.encloses (line.1 - 1)) ∘
        trimLine) = fun line => !found.any fun block => block.encloses (line.1 - 1) := rfl
  simp only [hdeclared, blocks_map_trimLine, List.filter_map, hkeep, declarations_map_trimLine]
  have hread (found : List Block) :
      readPipeline (declaredElements lines) found (lines.map trimLine) =
        readPipeline (declaredElements lines) found lines :=
    funext (readPipeline_map_trimLine lines _ found)
  simp only [hread]

/-! ## Links -/

/-- A link is the same on a trimmed line. -/
theorem readLink?_trim (keepContext : Bool) (number : Nat) (line : List Char) :
    readLink? keepContext number (trim line) = readLink? keepContext number line := by
  rw [readLink?, readLink?, trim_trim]

/-- The links of trimmed lines. -/
theorem links_map_trimLine (keepContext : Bool) :
    links keepContext (lines.map trimLine) = links keepContext lines := by
  have hkeep : ((fun line : Nat × List Char => !isReserved line.2) ∘ trimLine) =
      fun line => !isReserved line.2 :=
    funext fun line => congrArg not (isReserved_trim line.2)
  rw [links, List.filter_map, List.filterMap_map, hkeep, links]
  exact congrArg (List.filterMap · _) (funext fun line => readLink?_trim keepContext line.1 line.2)

end Construct
end Wardley
