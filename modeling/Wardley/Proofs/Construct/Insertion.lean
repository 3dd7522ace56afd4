import Wardley.Proofs.Construct.Renaming
import Wardley.Proofs.Notation.Insertion

/-!
# Readings around an inserted line

Every reading of lines around an inserted empty line yields what it yields without the
line, with the lines of the records and diagnostics behind it moved by one.

Main results:

- `declarations_insert`: the declarations of the lines.
- `elementsOf_insert`, `pipelines_insert`, `links_insert`, `regions_insert`: the readings
  that look at more than one line, or at lines of other constructs.
- `collect_insert`: all other readings.
-/

namespace Wardley
namespace Construct

open Notation Text

section Insertion

variable (before after : List (List Char))

/-! ## Declarations -/

/-- What the kept items give is what each item gives if it is kept. -/
theorem flatMap_filter {α β : Type} (items : List α) (keep : α → Bool) (g : α → List β) :
    (items.filter keep).flatMap g = items.flatMap fun item => if keep item then g item else [] := by
  induction items with
  | nil => rfl
  | cons item rest ih =>
      rw [List.flatMap_cons, ← ih, List.filter_cons]
      cases keep item <;> rfl

/-- The declarations of the kept lines. -/
theorem declarations_filter (keywords : List String) (keep : Nat × List Char → Bool)
    (lines : List (Nat × List Char)) :
    declarations keywords (lines.filter keep) =
      lines.flatMap fun line => if keep line then (declaration? keywords line).toList else [] := by
  rw [declarations, List.filterMap_eq_flatMap_toList, flatMap_filter]

/-- A declaration of a renumbered line is the renumbered declaration. -/
theorem declaration?_renameLine (f : Nat → Nat) (keywords : List String)
    (line : Nat × List Char) :
    declaration? keywords (renameLine f line) =
      (declaration? keywords line).map (Declaration.mapLine f) := by
  simp only [declaration?, renameLine, List.map_findSome?, Function.comp_def, Option.map_map]
  rfl

/-- Declarations follow their lines. -/
theorem declarations_map_renameLine (f : Nat → Nat) (keywords : List String)
    (lines : List (Nat × List Char)) :
    declarations keywords (lines.map (renameLine f)) =
      (declarations keywords lines).map (Declaration.mapLine f) := by
  rw [declarations, List.filterMap_map, declarations, List.map_filterMap]
  exact congrArg (List.filterMap · lines) (funext (declaration?_renameLine f keywords))

/-- No word introduces an empty line. -/
theorem declaration?_empty {keywords : List String}
    (hwords : ∀ keyword ∈ keywords, keyword.toList ≠ []) (number : Nat) :
    declaration? keywords (number, []) = none := by
  rw [declaration?, List.findSome?_eq_none_iff]
  intro keyword hkeyword
  rw [keywordBody?_of_blank (hwords keyword hkeyword) trim_nil]
  rfl

/-- The declarations on the kept lines around an inserted one. -/
theorem declarations_filter_insert {keywords : List String}
    (hwords : ∀ keyword ∈ keywords, keyword.toList ≠ []) (keep keep' : Nat × List Char → Bool)
    (hkeep : ∀ line ∈ numbered (before ++ after),
      keep' (renameLine (bump (before.length + 1)) line) = keep line) :
    declarations keywords ((numbered (before ++ [] :: after)).filter keep') =
      (declarations keywords ((numbered (before ++ after)).filter keep)).map
        (Declaration.mapLine (bump (before.length + 1))) := by
  rw [declarations_filter, declarations_filter]
  refine flatMap_numbered_insert ?_ ?_
  · rw [declaration?_empty hwords]
    exact ite_self _
  · intro line hline
    rw [hkeep line hline, declaration?_renameLine]
    split
    · cases declaration? keywords line <;> rfl
    · rfl

/-- The declarations of the lines around an inserted one. -/
theorem declarations_insert {keywords : List String}
    (hwords : ∀ keyword ∈ keywords, keyword.toList ≠ []) :
    declarations keywords (numbered (before ++ [] :: after)) =
      (declarations keywords (numbered (before ++ after))).map
        (Declaration.mapLine (bump (before.length + 1))) := by
  have hall := declarations_filter_insert before after hwords (fun _ => true) (fun _ => true)
    fun _ _ => rfl
  rwa [List.filter_true, List.filter_true] at hall

variable {α : Type}

/-- A reading whose records follow their lines. -/
theorem collect_insert {keywords : List String}
    (hwords : ∀ keyword ∈ keywords, keyword.toList ≠ []) {read : Declaration → Except Fault α}
    {g : α → α}
    (hread : ∀ d, read (d.mapLine (bump (before.length + 1))) = (read d).map g) :
    collect read (declarations keywords (numbered (before ++ [] :: after))) =
      (collect read (declarations keywords (numbered (before ++ after)))).mapLines g
        (bump (before.length + 1)) := by
  rw [declarations_insert before after hwords]
  exact collect_mapLine fun d _ => hread d

/-! ## Elements -/

/-- The line of a number belongs to a block when it did so without the inserted line. -/
theorem isOwned_insert {line : Nat × List Char} (h : line ∈ numbered (before ++ after)) :
    isOwned (blocks (before ++ [] :: after)) (bump (before.length + 1) line.1 - 1) =
      isOwned (blocks (before ++ after)) (line.1 - 1) := by
  rw [bump_sub_one (number_of_mem_numbered h).1, blocks_insert rfl, isOwned_map_rename]

/-- A blank line moves the elements behind it by one line. -/
theorem elementsOf_insert (kinds : List ElementKind) :
    elementsOf kinds (numbered (before ++ [] :: after)) =
      (elementsOf kinds (numbered (before ++ after))).mapLines
        (Element.mapLine (bump (before.length + 1))) (bump (before.length + 1)) := by
  have hwords : ∀ word ∈ kinds.map ElementKind.word, word.toList ≠ [] := by
    intro word hword
    rcases List.mem_map.1 hword with ⟨kind, -, rfl⟩
    cases kind <;> decide
  unfold elementsOf linesOutsideBlocks
  simp only [map_snd_numbered]
  rw [declarations_filter_insert before after hwords
    (fun line => !isOwned (blocks (before ++ after)) (line.1 - 1)) _ ?_]
  · exact collect_mapLine fun d _ => readDeclared_mapLine _ d
  · intro line hline
    exact congrArg not (isOwned_insert before after hline)

/-! ## Pipelines -/

/-- The part of a line inside a moved block does not change. -/
theorem insideBlock_rename (block : Block) (position : Nat) (line : List Char) :
    insideBlock (block.rename (bump before.length)) (bump before.length position) line =
      insideBlock block position line := by
  simp only [insideBlock, Block.rename, bump_inj]

/-- A blank line holds no child. -/
theorem splitChildren_insideBlock_nil (block : Block) (position : Nat) :
    splitChildren (insideBlock block position []) = [] := by
  have hnil : insideBlock block position [] = [] := by
    unfold insideBlock
    split <;> split <;> rfl
  rw [hnil, splitChildren, splitAtChildren]
  rfl

/-- The children on the lines of a block around an inserted one. -/
theorem childDeclarations_insert (block : Block) :
    childDeclarations (block.rename (bump before.length)) (numbered (before ++ [] :: after)) =
      (childDeclarations block (numbered (before ++ after))).map
        (Declaration.mapLine (bump (before.length + 1))) := by
  unfold childDeclarations
  rw [flatMap_filter, flatMap_filter]
  refine flatMap_numbered_insert ?_ ?_
  · simp only [splitChildren_insideBlock_nil]
    exact ite_self _
  · intro line hline
    simp only [renameLine, bump_sub_one (number_of_mem_numbered hline).1, owns_rename_bump,
      insideBlock_rename]
    split
    · simp only [List.map_map]
      rfl
    · rfl

/-- A blank line moves the children behind it by one line. -/
theorem children_insert (block : Block) (visibility : Number) :
    children (block.rename (bump before.length)) visibility (numbered (before ++ [] :: after)) =
      (children block visibility (numbered (before ++ after))).mapLines
        (PipelineChild.mapLine (bump (before.length + 1))) (bump (before.length + 1)) := by
  rw [children, childDeclarations_insert]
  exact collect_mapLine fun d _ => readChild_mapLine _ visibility d

/-- A pipeline around an inserted line, with the blocks that are read. -/
theorem readPipeline_insert (declared : List Element) (found : List Block) {header : Declaration}
    (hheader : 1 ≤ header.line) :
    readPipeline (declared.map (Element.mapLine (bump (before.length + 1))))
        (found.map (Block.rename (bump before.length))) (numbered (before ++ [] :: after))
        (header.mapLine (bump (before.length + 1))) =
      (readPipeline declared found (numbered (before ++ after)) header).mapLines
        (Pipeline.mapLine (bump (before.length + 1))) (bump (before.length + 1)) := by
  have hfind : ((found.map (Block.rename (bump before.length))).find? fun block =>
      block.header == (header.mapLine (bump (before.length + 1))).line - 1) =
        (found.find? fun block => block.header == header.line - 1).map
          (Block.rename (bump before.length)) := by
    rw [List.find?_map]
    congr 2
    funext block
    simp only [Function.comp, Block.rename, Declaration.mapLine, bump_sub_one hheader]
    rw [Bool.eq_iff_iff, beq_iff_eq, beq_iff_eq, bump_inj]
  unfold readPipeline
  rw [readHeader_mapLine, hfind]
  cases readHeader declared header with
  | error fault => rfl
  | ok pipeline =>
      cases found.find? fun block => block.header == header.line - 1 with
      | none => rfl
      | some block =>
          have hvisibility : (pipeline.mapLine (bump (before.length + 1))).visibility =
              pipeline.visibility := rfl
          simp only [Except.map, Option.map, hvisibility, children_insert]
          rfl

/-- A blank line moves the declared elements behind it by one line. -/
theorem declaredElements_insert :
    declaredElements (numbered (before ++ [] :: after)) =
      (declaredElements (numbered (before ++ after))).map
        (Element.mapLine (bump (before.length + 1))) :=
  congrArg Outcome.records (elementsOf_insert before after _)

/-- The pipelines around an inserted line. -/
theorem pipelines_insert (readBlocks : Bool) :
    pipelines readBlocks (numbered (before ++ [] :: after)) =
      (pipelines readBlocks (numbered (before ++ after))).mapLines
        (Pipeline.mapLine (bump (before.length + 1))) (bump (before.length + 1)) := by
  let found := if readBlocks then blocks (before ++ after) else []
  have hfound : (if readBlocks then blocks (before ++ [] :: after) else []) =
      found.map (Block.rename (bump before.length)) := by
    simp only [found]
    split
    · exact blocks_insert rfl before after
    · rfl
  let keep (line : Nat × List Char) : Bool := !found.any fun block => block.encloses (line.1 - 1)
  have hwords : ∀ word ∈ ["pipeline"], word.toList ≠ [] := by decide
  have hheaders := declarations_filter_insert before after hwords keep
    (fun line => !(found.map (Block.rename (bump before.length))).any
      fun block => block.encloses (line.1 - 1)) ?_
  · have hread : ∀ header ∈ declarations ["pipeline"] ((numbered (before ++ after)).filter keep),
        readPipeline (declaredElements (numbered (before ++ [] :: after)))
            (found.map (Block.rename (bump before.length))) (numbered (before ++ [] :: after))
            (header.mapLine (bump (before.length + 1))) =
          (readPipeline (declaredElements (numbered (before ++ after))) found
            (numbered (before ++ after)) header).mapLines
            (Pipeline.mapLine (bump (before.length + 1))) (bump (before.length + 1)) := by
      intro header hheader
      rcases mem_declarations hheader with ⟨line, hline, -, -⟩
      rw [declaredElements_insert]
      exact readPipeline_insert before after _ found
        (number_of_mem_numbered (List.mem_filter.1 hline).1).1
    unfold pipelines
    simp only [map_snd_numbered, hfound]
    rw [hheaders, List.map_map]
    simp only [Function.comp_def]
    rw [List.map_congr_left hread]
    simp only [Outcome.mapLines, List.flatMap_map, List.map_flatMap]
    rfl
  · intro line hline
    simp only [keep, renameLine, bump_sub_one (number_of_mem_numbered hline).1, List.any_map,
      Function.comp_def, encloses_rename_bump]

/-! ## Links and regions -/

/-- Links follow their lines. -/
theorem links_map_renameLine (f : Nat → Nat) (keepContext : Bool)
    (lines : List (Nat × List Char)) :
    links keepContext (lines.map (renameLine f)) =
      (links keepContext lines).map (Link.mapLine f) := by
  rw [links, links, List.filter_map, List.filterMap_map, List.map_filterMap]
  exact congrArg (List.filterMap · _)
    (funext fun line => readLink?_mapLine f keepContext line.1 line.2)

/-- A blank line moves the links behind it by one line. -/
theorem links_insert (keepContext : Bool) :
    links keepContext (numbered (before ++ [] :: after)) =
      (links keepContext (numbered (before ++ after))).map
        (Link.mapLine (bump (before.length + 1))) := by
  unfold links
  rw [List.filterMap_eq_flatMap_toList, List.filterMap_eq_flatMap_toList, flatMap_filter,
    flatMap_filter]
  refine flatMap_numbered_insert ?_ ?_
  · rfl
  · intro line _
    simp only [renameLine, readLink?_mapLine]
    by_cases hreserved : (!isReserved line.2) = true
    · rw [if_pos hreserved, if_pos hreserved]
      cases readLink? keepContext line.1 line.2 <;> rfl
    · rw [if_neg hreserved, if_neg hreserved]
      rfl

/-- Regions keep the order of their lines, which only move apart. -/
theorem regions_insert {keywords : List String} (hnodup : keywords.Nodup)
    (hwords : ∀ keyword ∈ keywords, IsKeyword keyword) (options : RegionOptions) :
    regions keywords options (numbered (before ++ [] :: after)) =
      (regions keywords options (numbered (before ++ after))).mapLines
        (Region.mapLine (bump (before.length + 1))) (bump (before.length + 1)) := by
  rw [regions_eq_collect hnodup hwords options (pairwise_numbered _),
    regions_eq_collect hnodup hwords options (pairwise_numbered _)]
  refine collect_insert before after ?_ fun d => readRegion_mapLine _ options d
  intro keyword hkeyword hnil
  have := (hwords keyword hkeyword).1
  rw [hnil] at this
  contradiction

end Insertion

end Construct
end Wardley
