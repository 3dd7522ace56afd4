import Wardley.Proofs.Construct.Insertion
import Wardley.Proofs.Notation.Concatenation

/-!
# Readings of lines behind others

A reading that looks at one line at a time reads lines that follow each other one after the
other: what it finds in the second lines comes behind what it finds in the first ones,
under the numbers that the second lines have in all.  The readings of elements leave out
the lines of blocks, and do the same where no block reaches over the seam.

Main results:

- `declarations_append`: the declarations of the lines.
- `collect_declarations_append`: all readings that collect declarations.
- `elementsOf_append`, `links_append`, `regions_append`: the other readings.
-/

namespace Wardley

namespace Notation

variable {α : Type}

/-- An outcome and one behind it. -/
def Outcome.append (first second : Outcome α) : Outcome α :=
  ⟨first.records ++ second.records, first.errors ++ second.errors⟩

instance : Append (Outcome α) := ⟨Outcome.append⟩

/-- Mapped outcomes follow one another as the outcomes do. -/
theorem mapRecords_append {β : Type} (f : α → β) (first second : Outcome α) :
    Construct.mapRecords f (first ++ second) =
      Construct.mapRecords f first ++ Construct.mapRecords f second :=
  congrArg (Outcome.mk · (first.errors ++ second.errors)) List.map_append

/-- Declarations are collected one after the other. -/
theorem collect_append (read : Declaration → Except Fault α) (first second : List Declaration) :
    collect read (first ++ second) = collect read first ++ collect read second := by
  induction first with
  | nil => rfl
  | cons declared rest ih =>
      rw [List.cons_append, collect, collect, ih]
      cases read declared <;> rfl

end Notation

namespace Construct

open Notation Text

/-! ## Declarations -/

variable (first second : List (List Char))

/-- The declarations of lines that follow each other. -/
theorem declarations_append (keywords : List String) :
    declarations keywords (numbered (first ++ second)) =
      declarations keywords (numbered first) ++
        (declarations keywords (numbered second)).map
          (Declaration.mapLine (· + first.length)) := by
  rw [numbered_append, ← declarations_map_renameLine]
  exact List.filterMap_append

section Collect

variable {α : Type} {read : Declaration → Except Fault α} {g : α → α}
  (hread : ∀ d, read (d.mapLine (· + first.length)) = (read d).map g)
include hread

/-- What is collected behind other declarations. -/
theorem collect_append_mapLine (before behind : List Declaration) :
    collect read (before ++ behind.map (Declaration.mapLine (· + first.length))) =
      collect read before ++ (collect read behind).mapLines g (· + first.length) := by
  rw [collect_append, collect_mapLine fun d _ => hread d]

/-- What is collected from lines that follow each other. -/
theorem collect_declarations_append (keywords : List String) :
    collect read (declarations keywords (numbered (first ++ second))) =
      collect read (declarations keywords (numbered first)) ++
        (collect read (declarations keywords (numbered second))).mapLines g
          (· + first.length) := by
  rw [declarations_append, collect_append_mapLine first hread]

end Collect

/-! ## Elements -/

section Apart

variable {first second : List (List Char)} (h : BlocksApart first second)
include h

/-- Where no block reaches over the seam, the lines outside of blocks are those of each text. -/
theorem linesOutsideBlocks_append :
    linesOutsideBlocks (numbered (first ++ second)) =
      linesOutsideBlocks (numbered first) ++
        (linesOutsideBlocks (numbered second)).map (renameLine (· + first.length)) := by
  simp only [linesOutsideBlocks, map_snd_numbered]
  exact filter_numbered_append (fun position => !isOwned (blocks (first ++ second)) position)
    (fun position hposition => congrArg not (h.isOwned_left hposition))
    fun position => congrArg not (h.isOwned_right position)

/-- The elements of two texts, the second one moved behind the first. -/
theorem elementsOf_append (kinds : List ElementKind) :
    elementsOf kinds (numbered (first ++ second)) =
      elementsOf kinds (numbered first) ++
        (elementsOf kinds (numbered second)).mapLines
          (Element.mapLine (· + first.length)) (· + first.length) := by
  simp only [elementsOf]
  rw [linesOutsideBlocks_append h, ← collect_append_mapLine first (readDeclared_mapLine _),
    ← declarations_map_renameLine]
  exact congrArg (collect readDeclared) List.filterMap_append

end Apart

/-! ## Links and regions -/

/-- The links of two texts, the second one moved behind the first. -/
theorem links_append (keepContext : Bool) :
    links keepContext (numbered (first ++ second)) =
      links keepContext (numbered first) ++
        (links keepContext (numbered second)).map (Link.mapLine (· + first.length)) := by
  rw [numbered_append, ← links_map_renameLine, links, List.filter_append, List.filterMap_append]
  rfl

/-- The regions of two texts, the second one moved behind the first. -/
theorem regions_append {keywords : List String} (hnodup : keywords.Nodup)
    (hwords : ∀ keyword ∈ keywords, IsKeyword keyword) (options : RegionOptions) :
    regions keywords options (numbered (first ++ second)) =
      regions keywords options (numbered first) ++
        (regions keywords options (numbered second)).mapLines
          (Region.mapLine (· + first.length)) (· + first.length) := by
  simp only [regions_eq_collect hnodup hwords options (pairwise_numbered _)]
  exact collect_declarations_append first second (readRegion_mapLine _ options) keywords

end Construct
end Wardley
