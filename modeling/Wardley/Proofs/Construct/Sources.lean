import Wardley.Proofs.Construct.Records

/-!
# Where records come from

Every record and every diagnostic that a reading of numbered lines yields stands on one
of these lines.  Elements come from lines outside the blocks of pipelines, pipelines
from header lines and children from the lines of a block.

Main results:

- `mem_elementsOf`: an element is read from a declaration.
- `mem_pipelines`: a pipeline is read from a header, its children from a block.
- `onLine_errors_pipelines`, `onLine_errors_collect`: diagnostics name given lines.
-/

namespace Wardley
namespace Construct

open Notation Text

/-! ## Lines of declarations -/

/-- A number of one of the lines. -/
def OnLine (lines : List (Nat × List Char)) (line : Number) : Prop :=
  ∃ n ∈ lines.map Prod.fst, line = .int (n : Nat)

/-- A line number of some of the lines is one of them all. -/
theorem onLine_mono {few lines : List (Nat × List Char)} {line : Number}
    (hsub : few ⊆ lines) (h : OnLine few line) : OnLine lines line := by
  rcases h with ⟨n, hn, rfl⟩
  exact ⟨n, List.map_subset _ hsub hn, rfl⟩

/-- A declaration stands on one of the lines. -/
theorem onLine_of_mem_declarations {keywords : List String} {lines : List (Nat × List Char)}
    {declared : Declaration} (h : declared ∈ declarations keywords lines) :
    OnLine lines (.int declared.line) := by
  rcases mem_declarations h with ⟨line, hmem, -, -⟩
  exact ⟨declared.line, List.mem_map_of_mem hmem, rfl⟩

/-- A child declaration stands on one of the lines. -/
theorem onLine_of_mem_childDeclarations {block : Block} {lines : List (Nat × List Char)}
    {declared : Declaration} (h : declared ∈ childDeclarations block lines) :
    OnLine lines (.int declared.line) := by
  rcases List.mem_flatMap.1 h with ⟨line, hline, hbody⟩
  rcases List.mem_map.1 hbody with ⟨body, -, rfl⟩
  exact ⟨line.1, List.mem_map_of_mem (List.mem_filter.1 hline).1, rfl⟩

/-- The lines of numbered lines are counted from one. -/
theorem onLine_numbered {lines : List (List Char)} {line : Number}
    (h : OnLine (numbered lines) line) :
    ∃ n : Nat, line = .int n ∧ 1 ≤ n ∧ n ≤ lines.length := by
  rcases h with ⟨n, hn, rfl⟩
  rcases List.mem_map.1 hn with ⟨entry, hentry, rfl⟩
  exact ⟨entry.1, rfl, number_of_mem_numbered hentry⟩

variable {α : Type}

/-- The errors of collected declarations are on their lines. -/
theorem onLine_errors_collect {read : Declaration → Except Fault α}
    {declared : List Declaration} {lines : List (Nat × List Char)} {error : Diagnostic}
    (hdeclared : ∀ d ∈ declared, OnLine lines (.int d.line))
    (h : error ∈ (collect read declared).errors) : OnLine lines error.line := by
  rcases mem_errors_collect.1 h with ⟨d, hd, fault, -, rfl⟩
  exact hdeclared d hd

/-! ## Elements -/

/-- The lines outside blocks are some of the lines. -/
theorem linesOutsideBlocks_subset (lines : List (Nat × List Char)) :
    linesOutsideBlocks lines ⊆ lines :=
  List.filter_subset_self _

/-- An element is read from a declaration of one of the kinds. -/
theorem mem_elementsOf {kinds : List ElementKind} {lines : List (Nat × List Char)}
    {element : Element} (h : element ∈ (elementsOf kinds lines).records) :
    ∃ kind line, OnLine lines line ∧ IsDeclared kind line element := by
  rcases mem_records_collect.1 h with ⟨d, hd, hread⟩
  exact ⟨kindOf d.keyword, .int d.line,
    onLine_mono (linesOutsideBlocks_subset lines) (onLine_of_mem_declarations hd),
    readElement_eq_ok hread⟩

/-- The errors of elements are on the lines. -/
theorem onLine_errors_elementsOf {kinds : List ElementKind} {lines : List (Nat × List Char)}
    {error : Diagnostic} (h : error ∈ (elementsOf kinds lines).errors) :
    OnLine lines error.line := by
  apply onLine_errors_collect _ h
  intro d hd
  exact onLine_mono (linesOutsideBlocks_subset lines) (onLine_of_mem_declarations hd)

/-! ## Pipelines -/

/-- A child of a block stands on one of the lines and shares the visibility. -/
theorem mem_children {block : Block} {visibility : Number} {lines : List (Nat × List Char)}
    {child : PipelineChild} (h : child ∈ (children block visibility lines).records) :
    IsName child.name ∧ (∃ line, OnLine lines line ∧ child.line = some line) ∧
      child.visibility = visibility := by
  rcases mem_records_collect.1 h with ⟨d, hd, hread⟩
  rcases readChild_eq_ok hread with ⟨hname, hline, hvisibility⟩
  exact ⟨hname, ⟨_, onLine_of_mem_childDeclarations hd, hline⟩, hvisibility⟩

/-- What holds of every pipeline that is read from lines. -/
structure IsRead (lines : List (Nat × List Char)) (pipeline : Pipeline) : Prop where
  name : IsName pipeline.name
  line : ∃ line, OnLine lines line ∧ pipeline.line = some line
  childName : ∀ child ∈ pipeline.children, IsName child.name
  childLine : ∀ child ∈ pipeline.children, ∃ line, OnLine lines line ∧ child.line = some line
  childVisibility : ∀ child ∈ pipeline.children, child.visibility = pipeline.visibility

/-- The pipeline of a header is read off the lines. -/
theorem isRead_of_mem_readPipeline {declared : List Element} {found : List Block}
    {lines : List (Nat × List Char)} {header : Declaration} {pipeline : Pipeline}
    (hheader : OnLine lines (.int header.line))
    (h : pipeline ∈ (readPipeline declared found lines header).records) :
    IsRead lines pipeline := by
  unfold readPipeline at h
  split at h
  · simp at h
  · rename_i base hread
    rcases readHeader_eq_ok hread with ⟨hname, hline, hchildren⟩
    split at h
    · rcases List.mem_singleton.1 h with rfl
      refine ⟨hname, ⟨_, hheader, hline⟩, ?_, ?_, ?_⟩
      · intro child hchild
        exact (mem_children hchild).1
      · intro child hchild
        exact (mem_children hchild).2.1
      · intro child hchild
        exact (mem_children hchild).2.2
    · rcases List.mem_singleton.1 h with rfl
      refine ⟨hname, ⟨_, hheader, hline⟩, ?_, ?_, ?_⟩ <;> simp [hchildren]

/-- The errors of a pipeline are on the lines. -/
theorem onLine_errors_readPipeline {declared : List Element} {found : List Block}
    {lines : List (Nat × List Char)} {header : Declaration} {error : Diagnostic}
    (hheader : OnLine lines (.int header.line))
    (h : error ∈ (readPipeline declared found lines header).errors) :
    OnLine lines error.line := by
  unfold readPipeline at h
  split at h
  · rcases List.mem_singleton.1 h with rfl
    exact hheader
  · split at h
    · exact onLine_errors_collect (fun _ hd => onLine_of_mem_childDeclarations hd) h
    · simp at h

/-- A pipeline is read from a header line, and its children from lines of a block. -/
theorem mem_pipelines {readBlocks : Bool} {lines : List (Nat × List Char)}
    {pipeline : Pipeline} (h : pipeline ∈ (pipelines readBlocks lines).records) :
    IsRead lines pipeline := by
  rcases List.mem_flatMap.1 h with ⟨outcome, houtcome, hpipeline⟩
  rcases List.mem_map.1 houtcome with ⟨header, hheader, rfl⟩
  have hline := onLine_of_mem_declarations hheader
  exact isRead_of_mem_readPipeline (onLine_mono (List.filter_subset_self _) hline) hpipeline

/-- The errors of all pipelines are on the lines. -/
theorem onLine_errors_pipelines {readBlocks : Bool} {lines : List (Nat × List Char)}
    {error : Diagnostic} (h : error ∈ (pipelines readBlocks lines).errors) :
    OnLine lines error.line := by
  rcases List.mem_flatMap.1 h with ⟨outcome, houtcome, herror⟩
  rcases List.mem_map.1 houtcome with ⟨header, hheader, rfl⟩
  have hline := onLine_of_mem_declarations hheader
  exact onLine_errors_readPipeline (onLine_mono (List.filter_subset_self _) hline) herror

/-! ## Regions -/

/-- A region is read from a declaration of one of the keywords. -/
theorem mem_regions {keywords : List String} {options : RegionOptions}
    {lines : List (Nat × List Char)} {region : Region}
    (h : region ∈ (regions keywords options lines).records) :
    ∃ d, OnLine lines (.int d.line) ∧ readRegion options d = .ok region := by
  unfold regions mergeByLine at h
  rw [List.mem_mergeSort, List.flatMap_map, List.mem_flatMap] at h
  rcases h with ⟨keyword, -, hregion⟩
  rcases mem_records_collect.1 hregion with ⟨d, hd, hread⟩
  exact ⟨d, onLine_of_mem_declarations hd, hread⟩

/-- The errors of regions are on the lines. -/
theorem onLine_errors_regions {keywords : List String} {options : RegionOptions}
    {lines : List (Nat × List Char)} {error : Diagnostic}
    (h : error ∈ (regions keywords options lines).errors) : OnLine lines error.line := by
  unfold regions mergeByLine at h
  rw [List.mem_mergeSort, List.flatMap_map, List.mem_flatMap] at h
  rcases h with ⟨keyword, -, herror⟩
  exact onLine_errors_collect (fun _ hd => onLine_of_mem_declarations hd) herror

/-! ## Links -/

/-- A link joins two names and knows its line. -/
theorem mem_links {keepContext : Bool} {lines : List (Nat × List Char)} {link : Link}
    (h : link ∈ links keepContext lines) :
    IsName link.start ∧ IsName link.finish ∧
      ∃ line, OnLine lines line ∧ link.line = some line := by
  rcases List.mem_filterMap.1 h with ⟨line, hline, hread⟩
  rcases readLink?_eq_some hread with ⟨hstart, hfinish, hnumber⟩
  have hmem : line.1 ∈ lines.map Prod.fst := List.mem_map_of_mem (List.mem_filter.1 hline).1
  exact ⟨hstart, hfinish, _, ⟨_, hmem, rfl⟩, hnumber⟩

end Construct
end Wardley
