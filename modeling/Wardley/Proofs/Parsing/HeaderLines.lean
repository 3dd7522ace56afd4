import Wardley.Proofs.Construct.Headers
import Wardley.Proofs.Notation.BlockOrder
import Wardley.Proofs.Parsing.Coverage

/-!
# Which lines declare pipelines

A line that the word `pipeline` introduces declares a pipeline unless a block that is
read encloses it.  The closing line of a block is not enclosed, and without the reading
of blocks no line is.  So the lines that declare pipelines are those outside the blocks
of earlier headers as long as no header stands where a block is passed over.

Main definitions:

- `headerNumbers`: the lines that declare pipelines.
- `outerHeaders`: the header lines outside the blocks of earlier headers.
- `DeclaresPipelines`: what a reading of pipelines does with the header lines.

Main results:

- `accounts_headers`: pipelines and the diagnostics of headers share out their lines.
- `headerNumbers_eq_outerHeaders_iff`: when the lines are those outside blocks.
- `declaresPipelines`: the reading of pipelines of every list of lines.
-/

namespace Wardley

open Construct Notation

/-! ## Lines of headers -/

/-- The lines that declare pipelines: headers that no block that is read encloses. -/
def headerNumbers (readBlocks : Bool) (lines : List (List Char)) : List Nat :=
  ((numbered lines).filter fun line =>
    isHeader line.2 &&
      !(readBlocks && (blocks lines).any fun block => block.encloses (line.1 - 1))).map Prod.fst

/-- The line at a position belongs to the block of an earlier header. -/
def Notation.Block.ownsBehindHeader (block : Block) (position : Nat) : Bool :=
  block.header < position && block.owns position

/-- The headers that do not belong to the block of an earlier header. -/
def outerHeaders (lines : List (List Char)) : List Nat :=
  ((numbered lines).filter fun line =>
    isHeader line.2 &&
      !(blocks lines).any fun block => block.ownsBehindHeader (line.1 - 1)).map Prod.fst

theorem introduces_pipeline (line : List Char) : introduces ["pipeline"] line = isHeader line := by
  simp [introduces, isHeader]

/-- The headers stand on the lines that declare pipelines. -/
theorem map_line_headers (readBlocks : Bool) (lines : List (List Char)) :
    (headers readBlocks (numbered lines)).map Declaration.line =
      headerNumbers readBlocks lines := by
  rw [headers, map_line_declarations, List.filter_filter, headerNumbers]
  refine congrArg (List.map Prod.fst) (List.filter_congr fun line _ => ?_)
  rw [introduces_pipeline, openBlocks, map_snd_numbered]
  cases readBlocks <;> rfl

/-- Pipelines and the diagnostics of headers share out the lines that declare pipelines. -/
theorem accounts_headers (readBlocks : Bool) (lines : List (List Char)) :
    Accounts ((pipelines readBlocks (numbered lines)).records.map Pipeline.line)
      ((headerOutcome readBlocks (numbered lines)).errors.map Diagnostic.line)
      (headerNumbers readBlocks lines) := by
  rw [line_records_pipelines, ← map_line_headers]
  refine accounts_collect (fun d _ pipeline hread => (readHeader_eq_ok hread).2.1) ?_
  exact pairwise_line_declarations _
    ((pairwise_numbered lines).sublist (List.filter_sublist.map _))

/-- What is read as a header with blocks is read as a header without them. -/
theorem headerNumbers_sublist (lines : List (List Char)) :
    (headerNumbers true lines).Sublist (headerNumbers false lines) := by
  refine List.Sublist.map _ (List.monotone_filter_right _ ?_)
  intro line hline
  rw [Bool.and_eq_true] at hline
  simp [hline.1]

/-! ## Lines outside blocks -/

variable {lines : List (List Char)}

/-- A block that encloses a line owns it behind its header. -/
theorem ownsBehindHeader_of_encloses {block : Block} (h : block ∈ blocks lines) {position : Nat}
    (hencloses : block.encloses position = true) : block.ownsBehindHeader position = true := by
  have hle := (liesIn_of_mem_blocks h).header_le
  simp only [Block.encloses, Bool.and_eq_true, decide_eq_true_eq] at hencloses
  simp only [Block.ownsBehindHeader, Block.owns, Bool.and_eq_true, decide_eq_true_eq]
  omega

/-- A header that a block owns behind its own is enclosed unless it closes the block. -/
theorem encloses_iff_of_ownsBehindHeader {block : Block} (h : block ∈ blocks lines)
    {line : Nat × List Char} (hline : line ∈ numbered lines) (hheader : isHeader line.2 = true)
    (howns : block.ownsBehindHeader (line.1 - 1) = true) :
    block.encloses (line.1 - 1) = true ↔ line.1 - 1 < block.closing := by
  have hposition : (line.1 - 1, line.2) ∈ numberFrom 0 lines := by
    rw [mem_numberFrom_zero, Nat.sub_add_cancel (number_of_mem_numbered hline).1]
    exact hline
  rw [Block.ownsBehindHeader, Bool.and_eq_true, decide_eq_true_eq] at howns
  have hlt := opening_lt_of_owns_header h howns.1 howns.2 hposition hheader
  simp [Block.encloses, hlt]

/-- Some block that is read encloses a header if and only if its own block does. -/
theorem any_encloses_iff {block : Block} (h : block ∈ blocks lines) {position : Nat}
    (howns : block.ownsBehindHeader position = true) :
    ((blocks lines).any fun other => other.encloses position) = true ↔
      block.encloses position = true := by
  rw [List.any_eq_true]
  constructor
  · rintro ⟨other, hother, hencloses⟩
    have howns' := ownsBehindHeader_of_encloses hother hencloses
    simp only [Block.ownsBehindHeader, Block.owns, Bool.and_eq_true, decide_eq_true_eq]
      at howns howns'
    have hsame : block = other := eq_of_mem_blocks h hother
      ⟨Nat.le_of_lt howns.1, howns.2.2⟩ ⟨Nat.le_of_lt howns'.1, howns'.2.2⟩
    rwa [hsame]
  · exact fun hencloses => ⟨block, h, hencloses⟩

/-- The number of a line is among those that a condition selects if the line is selected. -/
theorem mem_map_fst_filter_numbered {p : Nat × List Char → Bool} {line : Nat × List Char}
    (h : line ∈ numbered lines) :
    line.1 ∈ ((numbered lines).filter p).map Prod.fst ↔ p line = true := by
  rw [List.mem_map]
  constructor
  · rintro ⟨other, hother, hnumber⟩
    rcases List.mem_filter.1 hother with ⟨hmem, hp⟩
    obtain ⟨number, text⟩ := other
    obtain rfl : number = line.1 := hnumber
    obtain rfl : text = line.2 := eq_of_mem_numbered hmem h
    exact hp
  · exact fun hp => ⟨line, List.mem_filter.2 ⟨h, hp⟩, rfl⟩

/--
The lines that declare pipelines are the headers outside the blocks of earlier headers
exactly when each header within such a block is passed over: blocks are read, and the
header does not close the block.
-/
theorem headerNumbers_eq_outerHeaders_iff (readBlocks : Bool) :
    headerNumbers readBlocks lines = outerHeaders lines ↔
      ∀ block ∈ blocks lines, ∀ line ∈ numbered lines, isHeader line.2 = true →
        block.ownsBehindHeader (line.1 - 1) = true →
          readBlocks = true ∧ line.1 - 1 < block.closing := by
  constructor
  · intro heq block hblock line hline hheader howns
    have hinner : line.1 ∉ outerHeaders lines := by
      rw [outerHeaders, mem_map_fst_filter_numbered hline, hheader,
        List.any_eq_true.2 ⟨block, hblock, howns⟩]
      decide
    rw [← heq, headerNumbers, mem_map_fst_filter_numbered hline, hheader, Bool.true_and,
      Bool.not_eq_true', Bool.not_eq_false, Bool.and_eq_true] at hinner
    refine ⟨hinner.1, ?_⟩
    rw [← encloses_iff_of_ownsBehindHeader hblock hline hheader howns,
      ← any_encloses_iff hblock howns]
    exact hinner.2
  · intro hall
    refine congrArg (List.map Prod.fst) (List.filter_congr fun line hline => ?_)
    cases hheader : isHeader line.2 with
    | false => rfl
    | true =>
        rw [Bool.true_and, Bool.true_and, Bool.not_inj_iff, Bool.eq_iff_iff, Bool.and_eq_true]
        constructor
        · rintro ⟨-, hencloses⟩
          rcases List.any_eq_true.1 hencloses with ⟨block, hblock, hblock'⟩
          exact List.any_eq_true.2 ⟨block, hblock, ownsBehindHeader_of_encloses hblock hblock'⟩
        · intro howns
          rcases List.any_eq_true.1 howns with ⟨block, hblock, hblock'⟩
          rcases hall block hblock line hline hheader hblock' with ⟨hread, hlt⟩
          refine ⟨hread, (any_encloses_iff hblock hblock').2 ?_⟩
          exact (encloses_iff_of_ownsBehindHeader hblock hline hheader hblock').2 hlt

/-- Reading blocks makes no difference exactly when no block encloses a header. -/
theorem headerNumbers_true_eq_false_iff :
    headerNumbers true lines = headerNumbers false lines ↔
      ∀ block ∈ blocks lines, ∀ line ∈ numbered lines, isHeader line.2 = true →
        block.encloses (line.1 - 1) = false := by
  constructor
  · intro heq block hblock line hline hheader
    have hmem : line.1 ∈ headerNumbers false lines := by
      rw [headerNumbers, mem_map_fst_filter_numbered hline, hheader]
      rfl
    rw [← heq, headerNumbers, mem_map_fst_filter_numbered hline, hheader, Bool.true_and,
      Bool.true_and, Bool.not_eq_true', List.any_eq_false] at hmem
    exact Bool.eq_false_iff.2 (hmem block hblock)
  · intro hnone
    refine congrArg (List.map Prod.fst) (List.filter_congr fun line hline => ?_)
    cases hheader : isHeader line.2 with
    | false => rfl
    | true =>
        have hoff : ((blocks lines).any fun block => block.encloses (line.1 - 1)) = false :=
          List.any_eq_false.2 fun block hblock =>
            Bool.eq_false_iff.1 (hnone block hblock line hline hheader)
        rw [hoff]
        rfl

/-! ## Readings of pipelines -/

/-- What a reading of pipelines makes of the headers in lines. -/
structure DeclaresPipelines (readBlocks : Bool) (lines : List (List Char)) : Prop where
  /-- A line that declares a pipeline gives one pipeline or one diagnostic of its header. -/
  accounts : Accounts ((pipelines readBlocks (numbered lines)).records.map Pipeline.line)
    ((headerOutcome readBlocks (numbered lines)).errors.map Diagnostic.line)
    (headerNumbers readBlocks lines)
  /-- All other diagnostics are about children. -/
  errors : (pipelines readBlocks (numbered lines)).errors.Perm
    ((headerOutcome readBlocks (numbered lines)).errors ++
      (declaredChildren readBlocks (numbered lines)).filterMap childDiagnostic?)
  /-- When exactly the headers outside the blocks of earlier headers declare pipelines. -/
  outer_iff : headerNumbers readBlocks lines = outerHeaders lines ↔
    ∀ block ∈ blocks lines, ∀ line ∈ numbered lines, isHeader line.2 = true →
      block.ownsBehindHeader (line.1 - 1) = true →
        readBlocks = true ∧ line.1 - 1 < block.closing
  /-- No pipeline is lost when blocks are not read. -/
  kept : (headerNumbers true lines).Sublist (headerNumbers false lines)
  /-- When no pipeline is gained either. -/
  same_iff : headerNumbers true lines = headerNumbers false lines ↔
    ∀ block ∈ blocks lines, ∀ line ∈ numbered lines, isHeader line.2 = true →
      block.encloses (line.1 - 1) = false

/-- Every reading of pipelines treats the headers in its lines so. -/
theorem declaresPipelines (readBlocks : Bool) (lines : List (List Char)) :
    DeclaresPipelines readBlocks lines where
  accounts := accounts_headers readBlocks lines
  errors := errors_pipelines_perm readBlocks (numbered lines)
  outer_iff := headerNumbers_eq_outerHeaders_iff readBlocks
  kept := headerNumbers_sublist lines
  same_iff := headerNumbers_true_eq_false_iff

/--
A header within the block of an earlier one declares a pipeline when blocks are not read,
and one that closes such a block does even when they are.
-/
theorem headers_within_block :
    let enclosed := ["pipeline A".toList, ['{'], "pipeline B".toList, ['}']]
    let closing := ["pipeline A".toList, ['{'], "pipeline B \x7d".toList]
    outerHeaders enclosed = [1] ∧
      (pipelines true (numbered enclosed)).records.map Pipeline.line = [some 1] ∧
      (pipelines false (numbered enclosed)).records.map Pipeline.line = [some 1, some 3] ∧
      outerHeaders closing = [1] ∧
      (pipelines true (numbered closing)).records.map Pipeline.line = [some 1, some 3] := by
  decide +kernel

end Wardley
