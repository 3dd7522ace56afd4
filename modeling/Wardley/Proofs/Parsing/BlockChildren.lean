import Wardley.Proofs.Construct.BlockText
import Wardley.Proofs.Construct.Headers
import Wardley.Proofs.Construct.Sources
import Wardley.Proofs.Parsing.Coverage
import Wardley.Proofs.Parsing.Switched

/-!
# Children belong to their pipelines

Positioned elements are read from the lines outside all blocks, whether the blocks are
read or not, and children from the lines that a block owns.  The children of a block go to
the pipeline of its header: each word `component` of its text gives one of them or a
diagnostic, and nothing else in a text gives any.

Main definitions:

- `ReadsBlock`: what the reading of pipelines makes of a block.
- `KeepsChildrenApart`: how children and elements of a text are told apart.

Main results:

- `exists_header_of_mem_blocks`: every block has a header that is read.
- `reads_block`: what is read of a block behind a valid header.
- `children_apart`: children belong to their pipelines and to nothing else.
-/

namespace Wardley

open Construct Notation Text

/-! ## Elements outside blocks -/

/-- A positioned kind reads elements from the lines outside all blocks. -/
theorem line_of_mem_elements {switches : Switches} {lines : List (List Char)} {kind : Kind}
    (hkind : kind ∈ Kind.positioned) {element : Element}
    (h : element ∈ (kind.read switches lines).content.asElements) :
    ∃ number : Nat, element.line = some (.int number) ∧
      isOwned (blocks lines) (number - 1) = false := by
  have hread : ∃ kinds, element ∈ (elementsOf kinds (numbered lines)).records := by
    cases kind with
    | elements => exact ⟨_, h⟩
    | anchors => exact ⟨_, h⟩
    | submaps => exact ⟨_, h⟩
    | _ => simp [Kind.positioned] at hkind
  rcases hread with ⟨kinds, hmem⟩
  rcases mem_records_collect.1 hmem with ⟨declared, hdeclared, hok⟩
  rcases mem_declarations hdeclared with ⟨line, hline, -, -⟩
  refine ⟨declared.line, (readElement_eq_ok hok).line_eq, ?_⟩
  have houtside := (List.mem_filter.1 hline).2
  rwa [map_snd_numbered, Bool.not_eq_true'] at houtside

/-- The switch of blocks does not change what a positioned kind reads. -/
theorem read_positioned {kind : Kind} (hkind : kind ∈ Kind.positioned) (switches : Switches)
    (readBlocks : Bool) (lines : List (List Char)) :
    kind.read { switches with newPipelines := readBlocks } lines = kind.read switches lines := by
  have hne : kind ≠ .pipelines := by
    rintro rfl
    simp [Kind.positioned] at hkind
  have hsame : kind.contents { switches with newPipelines := readBlocks } (numbered lines) =
      kind.contents switches (numbered lines) := by
    refine contents_congr ?_ ?_ ?_ _
    · exact fun hblocks => absurd hblocks hne
    · exact fun _ => rfl
    · exact fun _ => rfl
  rw [Kind.read, Kind.read, hsame]

/-! ## Children within blocks -/

/-- A child is declared on a line that a block owns. -/
theorem isOwned_of_mem_declaredChildren {readBlocks : Bool} {lines : List (List Char)}
    {child : Number × Declaration} (h : child ∈ declaredChildren readBlocks (numbered lines)) :
    isOwned (blocks lines) (child.2.line - 1) = true := by
  rcases List.mem_flatMap.1 h with ⟨header, -, hbehind⟩
  unfold childrenBehind at hbehind
  split at hbehind
  · rename_i pipeline block hheader hfind
    rcases List.mem_map.1 hbehind with ⟨inner, hinner, rfl⟩
    have hblock : block ∈ blocks lines := by
      have hopen := List.mem_of_find?_eq_some hfind
      rw [openBlocks, map_snd_numbered] at hopen
      split at hopen
      · exact hopen
      · cases hopen
    exact List.any_eq_true.2 ⟨block, hblock, owns_of_mem_childDeclarations hinner⟩
  · cases hbehind

/-- A child of a pipeline stands on a line that a block owns. -/
theorem line_of_mem_children {readBlocks : Bool} {lines : List (List Char)}
    {child : PipelineChild}
    (h : child ∈ (pipelines readBlocks (numbered lines)).records.flatMap Pipeline.children) :
    ∃ number : Nat, child.line = some (.int number) ∧
      isOwned (blocks lines) (number - 1) = true := by
  rcases (mem_children_pipelines _ _).1 h with ⟨declared, hdeclared, hread⟩
  exact ⟨declared.2.line, (readChild_eq_ok hread).2.1, isOwned_of_mem_declaredChildren hdeclared⟩

/-! ## Headers of blocks -/

section Block

variable {lines : List (List Char)} {block : Block} (h : block ∈ blocks lines)
include h

/-- A block is found by its header. -/
theorem find?_header_eq :
    (blocks lines).find? (fun other => other.header == block.header) = some block := by
  have hsome : ((blocks lines).find? fun other => other.header == block.header).isSome := by
    rw [List.find?_isSome]
    exact ⟨block, h, by simp⟩
  rcases Option.isSome_iff_exists.1 hsome with ⟨other, hother⟩
  have hheader : other.header = block.header := by simpa using List.find?_some hother
  have hmem := List.mem_of_find?_eq_some hother
  have hsame : other = block :=
    eq_of_mem_blocks hmem h ⟨Nat.le_of_eq hheader, hheader ▸ header_le_of_mem_blocks hmem⟩
      ⟨Nat.le_refl _, header_le_of_mem_blocks h⟩
  rw [hother, hsame]

/-- No block encloses the header of another one. -/
theorem not_encloses_header {other : Block} (hother : other ∈ blocks lines) :
    other.encloses block.header = false := by
  rw [Bool.eq_false_iff]
  intro hencloses
  simp only [Block.encloses, Bool.and_eq_true, decide_eq_true_eq] at hencloses
  have hlies := liesIn_of_mem_blocks h
  have hsame : other = block := eq_of_mem_blocks hother h
    ⟨Nat.le_trans (liesIn_of_mem_blocks hother).header_le (Nat.le_of_lt hencloses.1),
      Nat.le_of_lt hencloses.2⟩
    ⟨Nat.le_refl _, header_le_of_mem_blocks h⟩
  subst hsame
  exact absurd hlies.header_le (Nat.not_le_of_lt hencloses.1)

/-- Every block has a header that is read. -/
theorem exists_header_of_mem_blocks :
    ∃ header ∈ headers true (numbered lines), header.line = block.header + 1 := by
  rcases (liesIn_of_mem_blocks h).header with ⟨text, htext, hheader⟩
  rcases Option.isSome_iff_exists.1 hheader with ⟨body, hbody⟩
  refine ⟨⟨block.header + 1, "pipeline", body⟩,
    List.mem_filterMap.2 ⟨(block.header + 1, text), ?_, ?_⟩, rfl⟩
  · rw [List.mem_filter]
    refine ⟨mem_numberFrom_zero.1 htext, ?_⟩
    rw [openBlocks, if_pos rfl, map_snd_numbered, Bool.not_eq_true', List.any_eq_false]
    intro other hother
    simpa using not_encloses_header h hother
  · simp only [declaration?, List.findSome?_cons, hbody, Option.map_some]

end Block

/-! ## Blocks behind valid headers -/

/-- What the reading of pipelines makes of a block behind the header of a pipeline. -/
structure ReadsBlock (switches : Switches) (lines : List (List Char)) (block : Block)
    (pipeline : Pipeline) (read : Outcome PipelineChild) : Prop where
  /-- The pipeline has the children of the block, and their diagnostics follow each other. -/
  placed : ∃ earlier later : Outcome Pipeline,
    Kind.pipelines.read { switches with newPipelines := true } lines =
      ⟨Kind.pipelines.key,
        .pipelines (earlier.records ++ { pipeline with children := read.records } :: later.records),
        earlier.errors ++ read.errors ++ later.errors⟩
  /-- Each word `component` of the block gives a child or a diagnostic. -/
  length_eq :
    read.records.length + read.errors.length = (words (block.text lines)).count childWord
  /-- They come from bodies that follow the text of the block. -/
  ordered : ∃ declared : List Declaration,
    read.records = declared.filterMap (fun d => (readChild pipeline.visibility d).toOption) ∧
      read.errors = declared.filterMap (diagnostic? (readChild pipeline.visibility)) ∧
      (declared.flatMap fun d => childWord :: words d.body).Sublist (words (block.text lines))
  /-- The lines of the children follow each other within the block. -/
  lines_eq : ∃ numbers : List Nat,
    read.records.map PipelineChild.line = numbers.map (fun number => some (.int number)) ∧
      numbers.Pairwise (· ≤ ·) ∧ ∀ number ∈ numbers, block.owns (number - 1) = true
  visibility : ∀ child ∈ read.records, child.visibility = pipeline.visibility

/-- The children of a block stand on its lines, in their order. -/
theorem lines_records_children (block : Block) (visibility : Number)
    (lines : List (List Char)) :
    ∃ numbers : List Nat,
      (children block visibility (numbered lines)).records.map PipelineChild.line =
          numbers.map (fun number => some (.int number)) ∧
        numbers.Pairwise (· ≤ ·) ∧ ∀ number ∈ numbers, block.owns (number - 1) = true := by
  let kept := (childDeclarations block (numbered lines)).filter fun d =>
    (readChild visibility d).isOk
  refine ⟨kept.map Declaration.line, ?_, ?_, ?_⟩
  · rw [List.map_map]
    exact map_line_records (f := fun number : Nat => some (Number.int number))
      fun d _ child hread => (readChild_eq_ok hread).2.1
  · exact (pairwise_line_childDeclarations block lines).sublist (List.filter_sublist.map _)
  · intro number hnumber
    rcases List.mem_map.1 hnumber with ⟨declared, hdeclared, rfl⟩
    exact owns_of_mem_childDeclarations (List.mem_filter.1 hdeclared).1

section Header

variable {lines : List (List Char)} {block : Block} (hblock : block ∈ blocks lines)
  {header : Declaration} (hheader : header ∈ headers true (numbered lines))
  (hline : header.line = block.header + 1) {pipeline : Pipeline}
  (hread : readHeader (declaredElements (numbered lines)) header = .ok pipeline)
include hblock hline hread

/-- A valid header gives its pipeline with the children of the block behind it. -/
theorem readPipeline_eq_children :
    readPipeline (declaredElements (numbered lines)) (openBlocks true (numbered lines))
        (numbered lines) header =
      let inner := children block pipeline.visibility (numbered lines)
      ⟨[{ pipeline with children := inner.records }], inner.errors⟩ := by
  have hfound : (openBlocks true (numbered lines)).find?
      (fun other => other.header == header.line - 1) = some block := by
    rw [openBlocks, if_pos rfl, map_snd_numbered, hline, Nat.add_sub_cancel]
    exact find?_header_eq hblock
  simp only [readPipeline, hread, hfound]

include hheader

/-- What a valid header gives stands among what the other headers give. -/
theorem exists_placed (switches : Switches) :
    let inner := children block pipeline.visibility (numbered lines)
    ∃ earlier later : Outcome Pipeline,
      Kind.pipelines.read { switches with newPipelines := true } lines =
        ⟨Kind.pipelines.key,
          .pipelines (earlier.records ++ { pipeline with children := inner.records } ::
            later.records),
          earlier.errors ++ inner.errors ++ later.errors⟩ := by
  intro inner
  let read := readPipeline (declaredElements (numbered lines))
    (openBlocks true (numbered lines)) (numbered lines)
  have hhere : read header = ⟨[{ pipeline with children := inner.records }], inner.errors⟩ :=
    readPipeline_eq_children hblock hline hread
  rcases List.append_of_mem hheader with ⟨front, back, hsplit⟩
  refine ⟨⟨front.flatMap fun d => (read d).records, front.flatMap fun d => (read d).errors⟩,
    ⟨back.flatMap fun d => (read d).records, back.flatMap fun d => (read d).errors⟩, ?_⟩
  rw [Kind.read, Kind.contents, fromOutcome, pipelines_eq, hsplit]
  simp only [List.flatMap_append, List.flatMap_cons]
  rw [show readPipeline _ _ _ header = _ from hhere, List.append_assoc]
  rfl

/-- Behind a valid header a block is read word by word. -/
theorem reads_block (switches : Switches) :
    ReadsBlock switches lines block pipeline
      (children block pipeline.visibility (numbered lines)) := by
  rcases opensAmong_of_mem_blocks hblock with ⟨before, first, rest, hopens⟩
  exact {
    placed := exists_placed hblock hheader hline hread switches
    length_eq := by rw [children, length_collect, length_childDeclarations hopens]
    ordered := ⟨_, records_collect _ _, errors_collect _ _, childDeclarations_sublist hopens⟩
    lines_eq := lines_records_children block _ lines
    visibility := fun child hchild => (mem_children hchild).2.2 }

end Header

/-! ## All children and elements -/

/-- How the children and the elements of a text are told apart. -/
structure KeepsChildrenApart (switches : Switches) (lines : List (List Char)) : Prop where
  /-- Whether blocks are read does not change what the positioned kinds read. -/
  read_eq : ∀ kind ∈ Kind.positioned, ∀ readBlocks : Bool,
    kind.read { switches with newPipelines := readBlocks } lines = kind.read switches lines
  /-- No line gives both an element and a child. -/
  line_ne : ∀ kind ∈ Kind.positioned,
    ∀ element ∈ (kind.read switches lines).content.asElements,
    ∀ pipeline ∈ (Kind.pipelines.read switches lines).content.asPipelines,
    ∀ child ∈ pipeline.children, element.line ≠ child.line
  /-- Every block has one header, and behind a valid header it is read word by word. -/
  blocks : ∀ block ∈ blocks lines, ∃ header ∈ declarations ["pipeline"] (numbered lines),
    header.line = block.header + 1 ∧
      ∀ pipeline, readHeader (declaredElements (numbered lines)) header = .ok pipeline →
        ReadsBlock switches lines block pipeline
          (children block pipeline.visibility (numbered lines))

/-- Children belong to their pipelines and to nothing else. -/
theorem children_apart (switches : Switches) (lines : List (List Char)) :
    KeepsChildrenApart switches lines where
  read_eq kind hkind readBlocks := read_positioned hkind switches readBlocks lines
  line_ne kind hkind element helement pipeline hpipeline child hchild := by
    rcases line_of_mem_elements hkind helement with ⟨number, hline, houtside⟩
    have hmem := List.mem_flatMap.2 ⟨pipeline, hpipeline, hchild⟩
    rcases line_of_mem_children hmem with ⟨other, hother, howned⟩
    intro hsame
    rw [hline, hother, Option.some.injEq, Number.int.injEq, Int.natCast_inj] at hsame
    rw [hsame, howned] at houtside
    contradiction
  blocks block hblock := by
    rcases exists_header_of_mem_blocks hblock with ⟨header, hheader, hline⟩
    refine ⟨header, ?_, hline, fun pipeline hread =>
      reads_block hblock hheader hline hread switches⟩
    exact (List.filter_sublist.filterMap _).subset hheader

/-- A block without an end: two children on its opening line, of which one has no maturity, and
one on a line that would declare an element outside it. -/
example :
    let lines := ["pipeline Tea \x7b component Green [0.2] component Black".toList,
      "component White [0.4]".toList]
    let found := pipelines true (numbered lines)
    (blocks lines).map (fun block => (words (block.text lines)).count childWord) = [3] ∧
      (found.records.flatMap Pipeline.children).map PipelineChild.line =
        [some (.int 1), some (.int 2)] ∧
      found.errors.map Diagnostic.line = [.int 1] ∧
      (elements (numbered lines)).records = [] := by
  decide +kernel

end Wardley
