import Mathlib.Data.List.Perm.Basic
import Wardley.Proofs.Construct.Records

/-!
# Headers and children of pipelines

The reading of pipelines is two readings in one.  The lines that declare pipelines are
read like those of any other construct, one record or diagnostic for each; the children
of the blocks behind the valid headers are read one by one, whatever else stands on
their lines.

Main definitions:

- `headers`: the lines that declare pipelines.
- `declaredChildren`: the children that are declared in blocks behind valid headers.

Main results:

- `line_records_pipelines`: pipelines stand on the lines of the headers that are read.
- `errors_pipelines_perm`: the diagnostics of headers and those of children.
- `children_records_pipelines`: the children of all pipelines.
-/

namespace Wardley
namespace Construct

open Notation

/-! ## Headers -/

/-- The blocks of which the children are read. -/
def openBlocks (readBlocks : Bool) (lines : List (Nat × List Char)) : List Block :=
  if readBlocks then blocks (lines.map Prod.snd) else []

/-- The lines that declare pipelines: headers that no block that is read encloses. -/
def headers (readBlocks : Bool) (lines : List (Nat × List Char)) : List Declaration :=
  declarations ["pipeline"] (lines.filter fun line =>
    !(openBlocks readBlocks lines).any fun block => block.encloses (line.1 - 1))

/-- What the headers alone say: pipelines without children, and diagnostics. -/
def headerOutcome (readBlocks : Bool) (lines : List (Nat × List Char)) : Outcome Pipeline :=
  collect (readHeader (declaredElements lines)) (headers readBlocks lines)

/-! ## Children -/

/-- The children behind a valid header, with the visibility that they inherit. -/
def childrenBehind (declared : List Element) (found : List Block)
    (lines : List (Nat × List Char)) (header : Declaration) : List (Number × Declaration) :=
  match readHeader declared header, found.find? fun block => block.header == header.line - 1 with
  | .ok pipeline, some block =>
    (childDeclarations block lines).map fun child => (pipeline.visibility, child)
  | _, _ => []

/-- All children that are declared in blocks, with the visibility that they inherit. -/
def declaredChildren (readBlocks : Bool) (lines : List (Nat × List Char)) :
    List (Number × Declaration) :=
  (headers readBlocks lines).flatMap
    (childrenBehind (declaredElements lines) (openBlocks readBlocks lines) lines)

/-- A declared child, read at the visibility that it inherits. -/
def readInherited (child : Number × Declaration) : Except Fault PipelineChild :=
  readChild child.1 child.2

/-- The diagnostic that a declared child gives, if its reading fails. -/
def childDiagnostic? (child : Number × Declaration) : Option Diagnostic :=
  diagnostic? (readChild child.1) child.2

/-! ## Single headers -/

section Header

variable (declared : List Element) (found : List Block) (lines : List (Nat × List Char))
  (header : Declaration)

/-- A pipeline stands on the line of its header. -/
theorem line_records_readPipeline :
    (readPipeline declared found lines header).records.map Pipeline.line =
      (readHeader declared header).toOption.toList.map Pipeline.line := by
  unfold readPipeline
  cases readHeader declared header with
  | error fault => rfl
  | ok pipeline => cases found.find? fun block => block.header == header.line - 1 <;> rfl

/-- A header gives its own diagnostic or those of its children. -/
theorem errors_readPipeline :
    (readPipeline declared found lines header).errors =
      (diagnostic? (readHeader declared) header).toList ++
        (childrenBehind declared found lines header).filterMap childDiagnostic? := by
  unfold readPipeline childrenBehind diagnostic?
  cases readHeader declared header with
  | error fault => rfl
  | ok pipeline =>
      cases found.find? fun block => block.header == header.line - 1 with
      | none => rfl
      | some block =>
          dsimp only
          rw [children, errors_collect, List.filterMap_map]
          rfl

/-- A pipeline has the children that are declared behind its header and read. -/
theorem children_readPipeline :
    (readPipeline declared found lines header).records.flatMap Pipeline.children =
      (childrenBehind declared found lines header).filterMap
        fun child => (readInherited child).toOption := by
  unfold readPipeline childrenBehind
  cases hread : readHeader declared header with
  | error fault => rfl
  | ok pipeline =>
      cases found.find? fun block => block.header == header.line - 1 with
      | none => simp [(readHeader_eq_ok hread).2.2]
      | some block =>
          dsimp only
          rw [children, records_collect, List.filterMap_map, List.flatMap_singleton]
          rfl

/-- A header gives a pipeline of the visibility of the first element of its name. -/
theorem visibility_of_readHeader {declared : List Element} {header : Declaration}
    {pipeline : Pipeline} (h : readHeader declared header = .ok pipeline) :
    pipeline.visibility = (firstVisibility? declared pipeline.name).getD sketchVisibility := by
  unfold readHeader at h
  simp only [bind_eq_ok, guard_eq_ok, pure_eq_ok] at h
  rcases h with ⟨placement, -, -, rfl⟩
  rfl

theorem visibility_of_mem_readPipeline {pipeline : Pipeline}
    (h : pipeline ∈ (readPipeline declared found lines header).records) :
    pipeline.visibility = (firstVisibility? declared pipeline.name).getD sketchVisibility := by
  unfold readPipeline at h
  split at h
  · cases h
  · rename_i base hread
    have hbase := visibility_of_readHeader hread
    split at h <;> rcases List.mem_singleton.1 h with rfl <;> exact hbase

end Header

/-! ## All headers -/

section Pipelines

variable (readBlocks : Bool) (lines : List (Nat × List Char))

/-- Pipelines are read header by header. -/
theorem pipelines_eq :
    pipelines readBlocks lines =
      let read := readPipeline (declaredElements lines) (openBlocks readBlocks lines) lines
      ⟨(headers readBlocks lines).flatMap fun header => (read header).records,
        (headers readBlocks lines).flatMap fun header => (read header).errors⟩ := by
  rw [pipelines]
  simp only [List.flatMap_map]
  rfl

/-- Pipelines stand on the lines of the headers that are read. -/
theorem line_records_pipelines :
    (pipelines readBlocks lines).records.map Pipeline.line =
      (headerOutcome readBlocks lines).records.map Pipeline.line := by
  rw [pipelines_eq, headerOutcome, records_collect, List.map_flatMap,
    List.filterMap_eq_flatMap_toList, List.map_flatMap]
  simp only [line_records_readPipeline]

/-- The diagnostics of pipelines are those of the headers and those of the children. -/
theorem errors_pipelines_perm :
    (pipelines readBlocks lines).errors.Perm
      ((headerOutcome readBlocks lines).errors ++
        (declaredChildren readBlocks lines).filterMap childDiagnostic?) := by
  rw [pipelines_eq, headerOutcome, errors_collect, declaredChildren, List.filterMap_flatMap,
    List.filterMap_eq_flatMap_toList]
  simp only [errors_readPipeline]
  exact (List.flatMap_append_perm _ _ _).symm

/-- The children of all pipelines are the declared ones that are read. -/
theorem children_records_pipelines :
    (pipelines readBlocks lines).records.flatMap Pipeline.children =
      (declaredChildren readBlocks lines).filterMap
        fun child => (readInherited child).toOption := by
  rw [pipelines_eq, List.flatMap_assoc, declaredChildren, List.filterMap_flatMap]
  simp only [children_readPipeline]

/-- A child of a pipeline is what one of the declared children gives. -/
theorem mem_children_pipelines {record : PipelineChild} :
    record ∈ (pipelines readBlocks lines).records.flatMap Pipeline.children ↔
      ∃ child ∈ declaredChildren readBlocks lines, readInherited child = .ok record := by
  rw [children_records_pipelines, List.mem_filterMap]
  simp only [toOption_eq_some_iff]

/-- A diagnostic of a pipeline is that of a header or that of a declared child. -/
theorem mem_errors_pipelines {error : Diagnostic} :
    error ∈ (pipelines readBlocks lines).errors ↔
      error ∈ (headerOutcome readBlocks lines).errors ∨
        ∃ child ∈ declaredChildren readBlocks lines, childDiagnostic? child = some error := by
  rw [(errors_pipelines_perm readBlocks lines).mem_iff, List.mem_append, List.mem_filterMap]

/-- A pipeline has the visibility of the first element of its name. -/
theorem visibility_of_mem_pipelines {pipeline : Pipeline}
    (h : pipeline ∈ (pipelines readBlocks lines).records) :
    pipeline.visibility =
      (firstVisibility? (declaredElements lines) pipeline.name).getD sketchVisibility := by
  rw [pipelines_eq] at h
  rcases List.mem_flatMap.1 h with ⟨header, -, hpipeline⟩
  exact visibility_of_mem_readPipeline _ _ _ _ hpipeline

end Pipelines

end Construct
end Wardley
