import Wardley.Proofs.Construct.BlockText
import Wardley.Proofs.Construct.Concatenation
import Wardley.Proofs.Construct.Headers
import Wardley.Proofs.Construct.Reordering

/-!
# Pipelines of lines behind others

Pipelines are read with the elements of a whole text, from which they take their visibility.
But for these elements they are read from the lines around them alone: where no block reaches
over the seam of two texts, the headers, the blocks behind them and their children are those
of each text.

Main definitions:

- `pipelinesAmong`: the pipelines of lines, with the elements of a text around them.

Main results:

- `headers_append`: the headers of lines that follow each other.
- `readPipeline_append_left`, `readPipeline_append_right`: a header on one side of a seam.
- `pipelinesAmong_append`: the pipelines of lines that follow each other.
- `pipelinesAmong_congr`: elements matter by the visibilities of their names.
-/

namespace Wardley

namespace Notation

variable {α : Type}

/-- Outcomes one behind the other. -/
def Outcome.concat (outcomes : List (Outcome α)) : Outcome α :=
  ⟨outcomes.flatMap Outcome.records, outcomes.flatMap Outcome.errors⟩

theorem concat_singleton (outcome : Outcome α) : Outcome.concat [outcome] = outcome := by
  rw [Outcome.concat, List.flatMap_singleton, List.flatMap_singleton]

theorem concat_append (first second : List (Outcome α)) :
    Outcome.concat (first ++ second) = Outcome.concat first ++ Outcome.concat second := by
  rw [Outcome.concat, List.flatMap_append, List.flatMap_append]
  rfl

theorem mapLines_append (g : α → α) (f : Nat → Nat) (first second : Outcome α) :
    (first ++ second).mapLines g f = first.mapLines g f ++ second.mapLines g f :=
  congrArg₂ Outcome.mk List.map_append List.map_append

theorem concat_map_mapLines (g : α → α) (f : Nat → Nat) (outcomes : List (Outcome α)) :
    Outcome.concat (outcomes.map (Outcome.mapLines g f)) =
      (Outcome.concat outcomes).mapLines g f := by
  simp only [Outcome.concat, Outcome.mapLines, List.flatMap_map, List.map_flatMap]

end Notation

namespace Construct

open Notation Text

/-- The pipelines of lines, with the elements of a text around them. -/
def pipelinesAmong (declared : List Element) (lines : List (List Char)) : Outcome Pipeline :=
  .concat ((headers true (numbered lines)).map
    (readPipeline declared (blocks lines) (numbered lines)))

theorem openBlocks_numbered (lines : List (List Char)) :
    openBlocks true (numbered lines) = blocks lines := by
  rw [openBlocks, if_pos rfl, map_snd_numbered]

/-- A text is read with the elements that it declares. -/
theorem pipelines_eq_pipelinesAmong (lines : List (List Char)) :
    pipelines true (numbered lines) =
      pipelinesAmong (declaredElements (numbered lines)) lines := by
  rw [pipelines_eq, openBlocks_numbered]
  simp only [pipelinesAmong, Outcome.concat, List.flatMap_map]

/-- Elements matter by the visibilities of their names. -/
theorem pipelinesAmong_congr {declared others : List Element}
    (h : firstVisibility? declared = firstVisibility? others) (lines : List (List Char)) :
    pipelinesAmong declared lines = pipelinesAmong others lines := by
  have hread : readPipeline declared (blocks lines) (numbered lines) =
      readPipeline others (blocks lines) (numbered lines) := by
    funext header
    simp only [readPipeline, readHeader_congr h]
  rw [pipelinesAmong, hread, pipelinesAmong]

/-! ## Headers -/

/-- Headers stand on the lines of which they are headers. -/
theorem bounds_of_mem_headers {lines : List (List Char)} {header : Declaration}
    (h : header ∈ headers true (numbered lines)) :
    1 ≤ header.line ∧ header.line ≤ lines.length := by
  rcases mem_declarations h with ⟨line, hline, -, -⟩
  exact number_of_mem_numbered (List.mem_filter.1 hline).1

section Apart

variable {first second : List (List Char)} (h : BlocksApart first second)
include h

/-- The headers of lines that follow each other. -/
theorem headers_append :
    headers true (numbered (first ++ second)) =
      headers true (numbered first) ++
        (headers true (numbered second)).map (Declaration.mapLine (· + first.length)) := by
  simp only [headers, openBlocks_numbered]
  rw [filter_numbered_append
    (fun position => !(blocks (first ++ second)).any fun block => block.encloses position)
    (fun position hposition => congrArg not (h.encloses_left hposition))
    (fun position => congrArg not (h.encloses_right position)),
    ← declarations_map_renameLine]
  exact List.filterMap_append

/-! ## Blocks behind headers -/

/-- A header of the first lines has the block that it has without the second ones. -/
theorem find?_append_left {position : Nat} (hposition : position < first.length) :
    (blocks (first ++ second)).find? (fun block => block.header == position) =
      (blocks first).find? fun block => block.header == position := by
  have hlater : (blocks second).find? ((fun block => block.header == position) ∘
      Block.rename (· + first.length)) = none := by
    rw [List.find?_eq_none]
    intro block _
    simp only [Function.comp_apply, Block.rename, beq_iff_eq]
    omega
  rw [h.blocks_eq, List.find?_append, List.find?_map, hlater, Option.map_none, Option.or_none]

/-- A header of the second lines has the block that it has without the first ones. -/
theorem find?_append_right (position : Nat) :
    (blocks (first ++ second)).find? (fun block => block.header == position + first.length) =
      ((blocks second).find? fun block => block.header == position).map
        (Block.rename (· + first.length)) := by
  have hearlier : (blocks first).find?
      (fun block => block.header == position + first.length) = none := by
    rw [List.find?_eq_none]
    intro block hblock
    have hclosing := h.closing_lt block hblock
    have hheader := header_le_of_mem_blocks hblock
    simp only [beq_iff_eq]
    omega
  have hsame : (fun block : Block => block.header == position + first.length) ∘
      Block.rename (· + first.length) = fun block => block.header == position := by
    funext block
    simp [Block.rename]
  rw [h.blocks_eq, List.find?_append, hearlier, Option.none_or, List.find?_map, hsame]

end Apart

/-! ## Children -/

section Children

variable (first second : List (List Char))

/-- A block of the first lines has its children on them. -/
theorem childDeclarations_append_left {block : Block} (hclosing : block.closing < first.length) :
    childDeclarations block (numbered (first ++ second)) =
      childDeclarations block (numbered first) := by
  have hbehind (position : Nat) : block.owns (position + first.length) = false := by
    have hnot : ¬ position + first.length ≤ block.closing := by omega
    simp [Block.owns, hnot]
  rw [childDeclarations, filter_numbered_append block.owns (fun _ _ => rfl) hbehind,
    List.filter_false, List.map_nil, List.append_nil]
  rfl

/-- A block of the second lines has its children on them. -/
theorem childDeclarations_append_right (block : Block) :
    childDeclarations (block.rename (· + first.length)) (numbered (first ++ second)) =
      (childDeclarations block (numbered second)).map
        (Declaration.mapLine (· + first.length)) := by
  have hbefore : ∀ position < first.length,
      (block.rename (· + first.length)).owns position = false := by
    intro position hposition
    have hnot : ¬ block.opening + first.length ≤ position := by omega
    simp [Block.owns, Block.rename, hnot]
  have howned (position : Nat) : (block.rename (· + first.length)).owns (position + first.length) =
      block.owns position := by
    simp only [Block.owns, Block.rename, Nat.add_le_add_iff_right]
  rw [childDeclarations, filter_numbered_append _ hbefore howned, List.filter_false,
    List.nil_append, List.flatMap_map, childDeclarations, List.map_flatMap]
  refine List.flatMap_congr fun line hline => ?_
  have hnumber := (number_of_mem_numbered (List.mem_filter.1 hline).1).1
  have hposition : line.1 + first.length - 1 = line.1 - 1 + first.length :=
    Nat.sub_add_comm hnumber
  have hinside : insideBlock (block.rename (· + first.length)) (line.1 - 1 + first.length) line.2 =
      insideBlock block (line.1 - 1) line.2 := by
    simp only [insideBlock, Block.rename, Nat.add_right_cancel_iff]
  simp only [renameLine, hposition, hinside, List.map_map]
  rfl

end Children

/-! ## Pipelines -/

section Apart

variable {first second : List (List Char)} (h : BlocksApart first second)
  (declared : List Element)
include h

/-- A header of the first lines gives what it gives without the second ones. -/
theorem readPipeline_append_left {header : Declaration}
    (hheader : header ∈ headers true (numbered first)) :
    readPipeline declared (blocks (first ++ second)) (numbered (first ++ second)) header =
      readPipeline declared (blocks first) (numbered first) header := by
  have hposition : header.line - 1 < first.length := by
    have := bounds_of_mem_headers hheader
    omega
  unfold readPipeline
  rw [find?_append_left h hposition]
  cases readHeader declared header with
  | error fault => rfl
  | ok pipeline =>
      cases hfind : (blocks first).find? fun block => block.header == header.line - 1 with
      | none => rfl
      | some block =>
          have hclosing := h.closing_lt block (List.mem_of_find?_eq_some hfind)
          simp only [children, childDeclarations_append_left first second hclosing]

/-- A header of the second lines gives what it gives without the first ones. -/
theorem readPipeline_append_right {header : Declaration}
    (hheader : header ∈ headers true (numbered second)) :
    readPipeline declared (blocks (first ++ second)) (numbered (first ++ second))
        (header.mapLine (· + first.length)) =
      (readPipeline declared (blocks second) (numbered second) header).mapLines
        (Pipeline.mapLine (· + first.length)) (· + first.length) := by
  have hposition : (header.mapLine (· + first.length)).line - 1 =
      header.line - 1 + first.length := Nat.sub_add_comm (bounds_of_mem_headers hheader).1
  unfold readPipeline
  rw [readHeader_mapLine_same, hposition, find?_append_right h]
  cases readHeader declared header with
  | error fault => rfl
  | ok pipeline =>
      cases (blocks second).find? fun block => block.header == header.line - 1 with
      | none => rfl
      | some block =>
          have hchildren : children (block.rename (· + first.length)) pipeline.visibility
              (numbered (first ++ second)) =
                (children block pipeline.visibility (numbered second)).mapLines
                  (PipelineChild.mapLine (· + first.length)) (· + first.length) := by
            rw [children, childDeclarations_append_right]
            exact collect_mapLine fun d _ => readChild_mapLine _ pipeline.visibility d
          have hvisibility : (pipeline.mapLine (· + first.length)).visibility =
              pipeline.visibility := rfl
          simp only [Except.map, Option.map, hvisibility, hchildren]
          rfl

/-- The pipelines of lines that follow each other. -/
theorem pipelinesAmong_append :
    pipelinesAmong declared (first ++ second) =
      pipelinesAmong declared first ++
        (pipelinesAmong declared second).mapLines
          (Pipeline.mapLine (· + first.length)) (· + first.length) := by
  have hleft := List.map_congr_left
    fun header (hheader : header ∈ headers true (numbered first)) =>
      readPipeline_append_left h declared hheader
  have hright := List.map_congr_left
    fun header (hheader : header ∈ headers true (numbered second)) =>
      readPipeline_append_right h declared hheader
  simp only [pipelinesAmong]
  rw [headers_append h, List.map_append, List.map_map, concat_append, hleft,
    ← concat_map_mapLines, List.map_map]
  exact congrArg (Outcome.concat _ ++ Outcome.concat ·) hright

end Apart

end Construct
end Wardley
