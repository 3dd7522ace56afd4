import Wardley.Construct.Settings
import Wardley.Proofs.Construct.Insertion
import Wardley.Proofs.Model.Reordering
import Wardley.Proofs.Text.Padding

/-!
# Readings of lines in another order

Every reading takes a line by itself, apart from two: elements and pipelines look for the
braces of blocks, and a pipeline takes its visibility from an element.  Without braces and
with elements of different names, lines in another order are therefore read as the same
records and diagnostics in another order.

Main definitions:

- `Outcome.Reorders`: the same records and diagnostics in any order.
- `readUnblocked`: the pipeline of a header without a block.

Main results:

- `blocks_of_not_mem`: lines without braces have no blocks.
- `collect_reorders`: readings of single declarations.
- `elementsOf_reorders`, `pipelines_reorders`, `links_perm`, `regions_reorders`: the other
  readings.
-/

namespace Wardley

namespace Notation

open Text

/-! ## Lines without braces -/

/-- A line without an opening brace neither holds nor begins a block. -/
theorem startsWith_brace_of_not_mem {line : List Char} (h : '{' ∉ line) :
    line.contains '{' = false ∧ startsWith ['{'] (trim line) = false := by
  have hline : line.contains '{' = false := by
    simpa using h
  refine ⟨hline, ?_⟩
  have htrim := (padded_trim line).contains_eq (c := '{') (by decide)
  rw [hline] at htrim
  cases hafter : afterPrefix ['{'] (trim line) with
  | none => rw [startsWith, hafter, Option.isSome_none]
  | some rest =>
      rw [afterPrefix_eq_some.1 hafter] at htrim
      contradiction

theorem blocksFrom_of_not_mem {lines : List (List Char)} (h : ∀ line ∈ lines, '{' ∉ line)
    (position : Nat) : blocksFrom position lines = [] := by
  induction lines generalizing position with
  | nil => rw [blocksFrom]
  | cons line rest ih =>
      have hrest := ih fun other hother => h other (List.mem_cons_of_mem _ hother)
      rw [blocksFrom, (startsWith_brace_of_not_mem (h line List.mem_cons_self)).1]
      split
      · exact hrest _
      · split
        · contradiction
        · split
          · exact hrest _
          · rename_i next others hnext
            have hmem : next ∈ rest := List.mem_of_mem_drop (hnext ▸ List.mem_cons_self)
            rw [(startsWith_brace_of_not_mem (h next (List.mem_cons_of_mem _ hmem))).2]
            exact hrest _

/-- Lines without opening braces have no blocks. -/
theorem blocks_of_not_mem {lines : List (List Char)} (h : ∀ line ∈ lines, '{' ∉ line) :
    blocks lines = [] :=
  blocksFrom_of_not_mem h 0

/-! ## Declarations -/

section Declarations

variable {lines others : List (Nat × List Char)}

/-- Without their numbers, lines in another order are a permutation. -/
theorem renameLine_perm (h : (lines.map Prod.snd).Perm (others.map Prod.snd)) :
    (lines.map (renameLine noLine)).Perm (others.map (renameLine noLine)) := by
  have hmap (some' : List (Nat × List Char)) :
      some'.map (renameLine noLine) = (some'.map Prod.snd).map fun text => (0, text) := by
    rw [List.map_map]
    rfl
  rw [hmap, hmap]
  exact h.map _

variable {α : Type}

/-- Two outcomes have the same records and diagnostics in different orders. -/
structure Outcome.Reorders (outcome other : Outcome α) : Prop where
  records : outcome.records.Perm other.records
  errors : outcome.errors.Perm other.errors

/-- Declarations in another order are read as the same records and diagnostics. -/
theorem collect_perm (read : Declaration → Except Fault α) {declared others : List Declaration}
    (h : declared.Perm others) : (collect read declared).Reorders (collect read others) := by
  refine ⟨?_, ?_⟩
  · rw [records_collect, records_collect]
    exact h.filterMap _
  · rw [errors_collect, errors_collect]
    exact h.filterMap _

end Declarations

end Notation

namespace Construct

open Notation Text

/-- The pipeline of a header that no block follows; without a range it is hidden. -/
def readUnblocked (declared : List Element) (header : Declaration) : Except Fault Pipeline :=
  (readHeader declared header).map fun pipeline =>
    { pipeline with hidden := pipeline.maturity1.isNone }

section WithoutBraces

variable {lines : List (Nat × List Char)} (h : ∀ line ∈ lines, '{' ∉ line.2)
include h

theorem blocks_map_snd_of_not_mem : blocks (lines.map Prod.snd) = [] := by
  refine blocks_of_not_mem fun text htext => ?_
  rcases List.mem_map.1 htext with ⟨line, hline, rfl⟩
  exact h line hline

theorem linesOutsideBlocks_of_not_mem : linesOutsideBlocks lines = lines := by
  unfold linesOutsideBlocks
  rw [blocks_map_snd_of_not_mem h]
  exact List.filter_true _

/-- Without blocks, pipelines are read from single declarations. -/
theorem pipelines_of_not_mem (readBlocks : Bool) :
    pipelines readBlocks lines =
      collect (readUnblocked (declaredElements lines)) (declarations ["pipeline"] lines) := by
  have hfound : (if readBlocks then blocks (lines.map Prod.snd) else []) = [] := by
    rw [blocks_map_snd_of_not_mem h, ite_self]
  have houtside : lines.filter (fun line => !([] : List Block).any
      fun block => block.encloses (line.1 - 1)) = lines := List.filter_true _
  unfold pipelines
  simp only [hfound, houtside]
  induction declarations ["pipeline"] lines with
  | nil => rfl
  | cons header rest ih =>
      rw [collect, ← ih, readUnblocked]
      simp only [List.map_cons, List.flatMap_cons, readPipeline, List.find?_nil]
      cases readHeader (declaredElements lines) header <;> rfl

/-- Without blocks, pipelines have no children. -/
theorem children_eq_nil_of_not_mem {readBlocks : Bool} {pipeline : Pipeline}
    (hmem : pipeline ∈ (pipelines readBlocks lines).records) : pipeline.children = [] := by
  rw [pipelines_of_not_mem h] at hmem
  rcases mem_records_collect.1 hmem with ⟨header, -, hread⟩
  rcases map_eq_ok.1 hread with ⟨read, hheader, rfl⟩
  exact (readHeader_eq_ok hheader).2.2

end WithoutBraces

/-! ## Visibilities -/

theorem firstVisibility?_mapLine (f : Nat → Nat) (declared : List Element) :
    firstVisibility? (declared.map (Element.mapLine f)) = firstVisibility? declared := by
  funext name
  rw [firstVisibility?, List.find?_map, Option.map_map]
  rfl

/-- A header asks elements for visibilities only. -/
theorem readHeader_congr {declared others : List Element}
    (h : firstVisibility? declared = firstVisibility? others) :
    readHeader declared = readHeader others := by
  funext header
  simp only [readHeader, h]

/-- A header on another line, among the same elements. -/
theorem readHeader_mapLine_same (f : Nat → Nat) (declared : List Element) (header : Declaration) :
    readHeader declared (header.mapLine f) =
      (readHeader declared header).map (Pipeline.mapLine f) := by
  rw [← readHeader_mapLine, readHeader_congr (firstVisibility?_mapLine f declared)]

theorem readUnblocked_mapLine (f : Nat → Nat) (declared : List Element) (header : Declaration) :
    readUnblocked declared (header.mapLine f) =
      (readUnblocked declared header).map (Pipeline.mapLine f) := by
  rw [readUnblocked, readHeader_mapLine_same, readUnblocked]
  cases readHeader declared header <;> rfl

/-! ## Regions -/

/-- Sorting does not matter to lists in different orders. -/
theorem map_mergeSort_perm {α β : Type} {f : α → β} {le : α → α → Bool} {items others : List α}
    (h : (items.map f).Perm (others.map f)) :
    ((items.mergeSort le).map f).Perm ((others.mergeSort le).map f) :=
  ((List.mergeSort_perm items le).map f).trans
    (h.trans ((List.mergeSort_perm others le).map f).symm)

/-- Records that are made of regions come in the order of the regions. -/
theorem mapRecords_reorders {β : Type} {f : Region → β} {g : β → β}
    {outcome other : Outcome Region} (hline : ∀ region, f (region.mapLine noLine) = g (f region))
    (h : (outcome.mapLines (Region.mapLine noLine) noLine).Reorders
      (other.mapLines (Region.mapLine noLine) noLine)) :
    ((mapRecords f outcome).mapLines g noLine).Reorders
      ((mapRecords f other).mapLines g noLine) := by
  rw [← mapRecords_mapLine noLine hline, ← mapRecords_mapLine noLine hline]
  exact ⟨h.records.map f, h.errors⟩

section Reordering

/-! ## Single declarations -/

variable {lines others : List (Nat × List Char)}
  (h : (lines.map Prod.snd).Perm (others.map Prod.snd))
include h

/-- The declarations of lines in another order. -/
theorem declarations_perm_noLine (keywords : List String) :
    ((declarations keywords lines).map (Declaration.mapLine noLine)).Perm
      ((declarations keywords others).map (Declaration.mapLine noLine)) := by
  rw [← declarations_map_renameLine, ← declarations_map_renameLine]
  exact (renameLine_perm h).filterMap _

variable {α : Type}

/-- A reading whose records follow their lines. -/
theorem collect_reorders {read : Declaration → Except Fault α} {g : α → α}
    (hread : ∀ d, read (d.mapLine noLine) = (read d).map g) (keywords : List String) :
    ((collect read (declarations keywords lines)).mapLines g noLine).Reorders
      ((collect read (declarations keywords others)).mapLines g noLine) := by
  rw [← collect_mapLine fun d _ => hread d, ← collect_mapLine fun d _ => hread d]
  exact collect_perm read (declarations_perm_noLine h keywords)

/-! ## Links and regions -/

/-- The links of lines in another order. -/
theorem links_perm (keepContext : Bool) :
    ((links keepContext lines).map (Link.mapLine noLine)).Perm
      ((links keepContext others).map (Link.mapLine noLine)) := by
  rw [← links_map_renameLine, ← links_map_renameLine]
  exact ((renameLine_perm h).filter _).filterMap _

/-- The regions of lines in another order. -/
theorem regions_reorders (keywords : List String) (options : RegionOptions) :
    ((regions keywords options lines).mapLines (Region.mapLine noLine) noLine).Reorders
      ((regions keywords options others).mapLines (Region.mapLine noLine) noLine) := by
  have hruns (keyword : String) :=
    collect_reorders h (readRegion_mapLine noLine options) [keyword]
  -- the regions are sorted by lines that they have forgotten
  refine ⟨map_mergeSort_perm ?_, map_mergeSort_perm ?_⟩
  · rw [List.flatMap_map, List.flatMap_map, List.map_flatMap, List.map_flatMap]
    exact List.Perm.flatMap_left _ fun keyword _ => (hruns keyword).records
  · rw [List.flatMap_map, List.flatMap_map, List.map_flatMap, List.map_flatMap]
    exact List.Perm.flatMap_left _ fun keyword _ => (hruns keyword).errors

theorem attitudes_reorders :
    ((attitudes lines).mapLines (Attitude.mapLine noLine) noLine).Reorders
      ((attitudes others).mapLines (Attitude.mapLine noLine) noLine) :=
  mapRecords_reorders (attitude_mapLine noLine) (regions_reorders h _ _)

theorem accelerators_reorders (enabled : Bool) :
    ((accelerators enabled lines).mapLines (Accelerator.mapLine noLine) noLine).Reorders
      ((accelerators enabled others).mapLines (Accelerator.mapLine noLine) noLine) := by
  cases enabled with
  | false => exact ⟨List.Perm.refl _, List.Perm.refl _⟩
  | true => exact mapRecords_reorders (accelerator_mapLine noLine) (regions_reorders h _ _)

/-! ## Elements -/

variable (hbraces : ∀ line ∈ lines, '{' ∉ line.2)
include hbraces

theorem not_mem_of_perm : ∀ line ∈ others, '{' ∉ line.2 := by
  intro line hline
  have hmem : line.2 ∈ lines.map Prod.snd := h.mem_iff.2 (List.mem_map_of_mem hline)
  rcases List.mem_map.1 hmem with ⟨same, hsame, heq⟩
  rw [← heq]
  exact hbraces same hsame

/-- The elements of lines in another order. -/
theorem elementsOf_reorders (kinds : List ElementKind) :
    ((elementsOf kinds lines).mapLines (Element.mapLine noLine) noLine).Reorders
      ((elementsOf kinds others).mapLines (Element.mapLine noLine) noLine) := by
  rw [elementsOf, elementsOf, linesOutsideBlocks_of_not_mem hbraces,
    linesOutsideBlocks_of_not_mem (not_mem_of_perm h hbraces)]
  exact collect_reorders h (readDeclared_mapLine noLine) _

/-! ## Pipelines -/

variable (hnames : ((declaredElements lines).map Element.name).Nodup)
include hnames

/-- Elements of different names have the same visibilities in any order. -/
theorem firstVisibility?_declaredElements :
    firstVisibility? (declaredElements lines) = firstVisibility? (declaredElements others) := by
  have hrecords : ((declaredElements lines).map (Element.mapLine noLine)).Perm
      ((declaredElements others).map (Element.mapLine noLine)) :=
    (elementsOf_reorders h hbraces _).records
  have hkeys :
      (((declaredElements lines).map (Element.mapLine noLine)).map Element.name).Nodup := by
    rw [List.map_map]
    exact hnames
  rw [← firstVisibility?_mapLine noLine,
    ← firstVisibility?_mapLine noLine (declaredElements others)]
  funext name
  exact congrArg (Option.map Element.visibility) (find?_key_perm hrecords hkeys name)

/-- The pipelines of lines in another order. -/
theorem pipelines_reorders (readBlocks : Bool) :
    ((pipelines readBlocks lines).mapLines (Pipeline.mapLine noLine) noLine).Reorders
      ((pipelines readBlocks others).mapLines (Pipeline.mapLine noLine) noLine) := by
  have hread :
      readUnblocked (declaredElements lines) = readUnblocked (declaredElements others) := by
    funext header
    rw [readUnblocked, readUnblocked,
      readHeader_congr (firstVisibility?_declaredElements h hbraces hnames)]
  rw [pipelines_of_not_mem hbraces, pipelines_of_not_mem (not_mem_of_perm h hbraces), hread]
  exact collect_reorders h (readUnblocked_mapLine noLine _) _

end Reordering

end Construct
end Wardley
