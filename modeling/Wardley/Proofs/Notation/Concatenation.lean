import Wardley.Proofs.Notation.BlockOrder
import Wardley.Proofs.Notation.Insertion

/-!
# Lines behind others

The lines of two texts that follow each other are numbered through.  Where the blocks of the
first lines end within them, and no header at their end waits for a brace that the second
ones bring, the scan for blocks starts afresh at the seam: all blocks are those of the first
lines and those of the second ones, moved behind them.

Main definitions:

- `ClosesBlocks`: no block of the lines reaches behind their end, whatever follows them.
- `BlocksApart`: no block of lines reaches into those that follow them.

Main results:

- `numbered_append`, `filter_numbered_append`: the numbers of lines that follow each other.
- `ClosesBlocks.apart`, `apart_of_isHeader`: where no block reaches over the seam.
- `BlocksApart.isOwned_left`, `BlocksApart.isOwned_right`, `BlocksApart.encloses_left`,
  `BlocksApart.encloses_right`: which lines belong to blocks or lie within them.
-/

namespace Wardley
namespace Notation

open Text

/-! ## Numbers -/

theorem numberFrom_add (first count : Nat) (lines : List (List Char)) :
    numberFrom (first + count) lines = (numberFrom first lines).map (renameLine (· + count)) := by
  induction lines generalizing first with
  | nil => rfl
  | cons line rest ih =>
      rw [numberFrom_cons, numberFrom_cons, List.map_cons, ← ih, Nat.add_right_comm]
      rfl

/-- Lines that follow each other are numbered through. -/
theorem numbered_append (first second : List (List Char)) :
    numbered (first ++ second) =
      numbered first ++ (numbered second).map (renameLine (· + first.length)) := by
  rw [numbered, numberFrom_append, numberFrom_add]
  rfl

/-- Lines that follow each other are kept by their positions. -/
theorem filter_numbered_append {first second : List (List Char)} (keep : Nat → Bool)
    {keepFirst keepSecond : Nat → Bool}
    (hfirst : ∀ position < first.length, keep position = keepFirst position)
    (hsecond : ∀ position, keep (position + first.length) = keepSecond position) :
    (numbered (first ++ second)).filter (fun line => keep (line.1 - 1)) =
      (numbered first).filter (fun line => keepFirst (line.1 - 1)) ++
        ((numbered second).filter fun line => keepSecond (line.1 - 1)).map
          (renameLine (· + first.length)) := by
  rw [numbered_append, List.filter_append, List.filter_map]
  congr 1
  · refine List.filter_congr fun line hline => ?_
    have hnumber := number_of_mem_numbered hline
    exact hfirst _ (by omega)
  · congr 1
    refine List.filter_congr fun line hline => ?_
    have hposition : (renameLine (· + first.length) line).1 - 1 = line.1 - 1 + first.length :=
      Nat.sub_add_comm (number_of_mem_numbered hline).1
    rw [Function.comp_apply, hposition, hsecond]

/-! ## The end of a scan -/

/-- The state of a scan for blocks behind lines. -/
def ScanState.run (state : ScanState) : List (Nat × List Char) → ScanState
  | [] => state
  | line :: rest => (state.step line.1 line.2).1.run rest

theorem run_append (state : ScanState) (first second : List (Nat × List Char)) :
    state.run (first ++ second) = (state.run first).run second := by
  induction first generalizing state with
  | nil => rfl
  | cons line rest ih => exact ih _

/-- A scan that no end of the text would have completed goes on behind the first lines. -/
theorem scan_append {state : ScanState} {first : List (Nat × List Char)} {seam : Nat}
    (h : (state.run first).finish seam = []) (last : Nat) (second : List (Nat × List Char)) :
    scan last state (first ++ second) =
      scan seam state first ++ scan last (state.run first) second := by
  induction first generalizing state with
  | nil =>
      rw [scan, show state.finish seam = [] from h]
      rfl
  | cons line rest ih =>
      rw [List.cons_append, scan, scan, ih h, List.append_assoc]
      rfl

/-- A block that is open at the end of a scan closes at the last position. -/
theorem mem_scan_of_run_eq_inside {state : ScanState} {lines : List (Nat × List Char)}
    {header opening : Nat} (h : state.run lines = .inside header opening) (last : Nat) :
    ⟨header, opening, last⟩ ∈ scan last state lines := by
  induction lines generalizing state with
  | nil =>
      obtain rfl : state = .inside header opening := h
      exact List.mem_singleton_self _
  | cons line rest ih => exact List.mem_append_right _ (ih h)

theorem enter_ne_pending (header position waiting : Nat) (line : List Char) :
    (ScanState.enter header position line).1 ≠ .pending waiting := by
  unfold ScanState.enter
  split <;> exact ScanState.noConfusion

/-- A line that lets the scan wait for a brace is a header without one. -/
theorem begin_eq_pending {position waiting : Nat} {line : List Char}
    (h : (ScanState.begin position line).1 = .pending waiting) :
    isHeader line = true ∧ '{' ∉ line := by
  unfold ScanState.begin at h
  split at h
  · contradiction
  · rename_i hheader
    split at h
    · exact absurd h (enter_ne_pending _ _ _ _)
    · rename_i hbrace
      exact ⟨by simpa using hheader, by simpa using hbrace⟩

/-- Only blank lines let the scan go on waiting. -/
theorem step_eq_pending {state : ScanState} {position waiting : Nat} {line : List Char}
    (h : (state.step position line).1 = .pending waiting) (hblank : isAllBlank line = false) :
    isHeader line = true ∧ '{' ∉ line := by
  cases state with
  | outside => exact begin_eq_pending h
  | pending header =>
      rw [step_pending_of_not_blank (by simp [hblank])] at h
      split at h
      · exact absurd h (enter_ne_pending _ _ _ _)
      · exact begin_eq_pending h
  | inside header opening =>
      simp only [ScanState.step] at h
      split at h <;> contradiction

/-- The lines that are not blank. -/
def writtenLines (lines : List (List Char)) : List (List Char) :=
  lines.filter fun line => !isAllBlank line

/-- A scan that waits for a brace at the end has seen a header last, but for blank lines. -/
theorem header_of_run_eq_pending {position waiting : Nat} {lines : List (List Char)}
    (h : ScanState.outside.run (numberFrom position lines) = .pending waiting) :
    ∃ line ∈ (writtenLines lines).getLast?, isHeader line = true ∧ '{' ∉ line := by
  induction lines using List.reverseRecOn with
  | nil => contradiction
  | append_singleton rest line ih =>
      rw [numberFrom_append, run_append] at h
      unfold writtenLines at ih ⊢
      rw [List.filter_append]
      cases hblank : isAllBlank line with
      | true =>
          rw [numberFrom_cons, ScanState.run, step_of_isAllBlank hblank] at h
          rw [List.filter_cons_of_neg (by simp [hblank]), List.filter_nil, List.append_nil]
          exact ih h
      | false =>
          rw [List.filter_cons_of_pos (by simp [hblank])]
          exact ⟨line, by simp, step_eq_pending h hblank⟩

/-! ## Blocks that end within their lines -/

/-- No block of the lines reaches behind their end. -/
structure ClosesBlocks (lines : List (List Char)) : Prop where
  closing_lt : ∀ block ∈ blocks lines, block.closing < lines.length
  /-- A header that only blank lines follow has its brace. -/
  brace_mem : ∀ line ∈ (writtenLines lines).getLast?, isHeader line = true → '{' ∈ line

/-- The scan ends outside of blocks. -/
theorem ClosesBlocks.run_eq_outside {lines : List (List Char)} (h : ClosesBlocks lines) :
    ScanState.outside.run (numberFrom 0 lines) = .outside := by
  cases hrun : ScanState.outside.run (numberFrom 0 lines) with
  | outside => rfl
  | pending waiting =>
      rcases header_of_run_eq_pending hrun with ⟨line, hline, hheader, hbrace⟩
      exact absurd (h.brace_mem line hline hheader) hbrace
  | inside header opening =>
      have hmem := mem_scan_of_run_eq_inside hrun lines.length
      rw [← blocks_eq_scan] at hmem
      exact absurd (h.closing_lt _ hmem) (Nat.lt_irrefl _)

/-! ## The seam -/

/-- No block of lines reaches into those that follow them. -/
structure BlocksApart (first second : List (List Char)) : Prop where
  closing_lt : ∀ block ∈ blocks first, block.closing < first.length
  blocks_eq : blocks (first ++ second) =
    blocks first ++ (blocks second).map (Block.rename (· + first.length))

/-- Behind the first lines the scan goes on as it would begin with the second ones. -/
theorem apart_of_scan_eq {first second : List (List Char)} {state : ScanState}
    (hclosing : ∀ block ∈ blocks first, block.closing < first.length)
    (hrun : ScanState.outside.run (numberFrom 0 first) = state)
    (hfinish : state.finish first.length = [])
    (hscan : ∀ last position, scan last state (numberFrom position second) =
      scan last .outside (numberFrom position second)) :
    BlocksApart first second where
  closing_lt := hclosing
  blocks_eq := by
    have hlast : (first ++ second).length = second.length + first.length := by
      rw [List.length_append, Nat.add_comm]
    subst hrun
    rw [blocks_eq_scan, blocks_eq_scan, blocks_eq_scan, numberFrom_append, scan_append hfinish,
      hscan, numberFrom_add, hlast]
    exact congrArg (_ ++ ·) (scan_rename (· + first.length) second.length .outside _)

/-- Where the first lines close their blocks, the second ones may be any. -/
theorem ClosesBlocks.apart {first : List (List Char)} (h : ClosesBlocks first)
    (second : List (List Char)) : BlocksApart first second :=
  apart_of_scan_eq h.closing_lt h.run_eq_outside rfl fun _ _ => rfl

/-- A header takes no brace to a header before it. -/
theorem step_pending_of_isHeader {line : List Char} (h : isHeader line = true)
    (position waiting : Nat) :
    (ScanState.pending waiting).step position line = ScanState.outside.step position line := by
  have hwritten : ¬ isAllBlank line = true := by
    intro hblank
    rw [isHeader_of_isAllBlank hblank] at h
    contradiction
  have hbrace : ¬ startsWith ['{'] (trim line) = true := by
    intro hbegins
    rw [isHeader_of_startsWith_brace hbegins] at h
    contradiction
  rw [step_pending_of_not_blank hwritten, if_neg hbrace]

/-- No block reaches into lines that begin with a header, but for those that never end. -/
theorem apart_of_isHeader {first rest : List (List Char)} {line : List Char}
    (hclosing : ∀ block ∈ blocks first, block.closing < first.length)
    (hheader : isHeader line = true) : BlocksApart first (line :: rest) := by
  cases hrun : ScanState.outside.run (numberFrom 0 first) with
  | outside => exact apart_of_scan_eq hclosing hrun rfl fun _ _ => rfl
  | pending waiting =>
      refine apart_of_scan_eq hclosing hrun rfl fun last position => ?_
      rw [numberFrom_cons, scan, scan, step_pending_of_isHeader hheader]
  | inside header opening =>
      have hmem := mem_scan_of_run_eq_inside hrun first.length
      rw [← blocks_eq_scan] at hmem
      exact absurd (hclosing _ hmem) (Nat.lt_irrefl _)

namespace BlocksApart

variable {first second : List (List Char)} (h : BlocksApart first second)
include h

/-- A test that fails for blocks behind a first line finds those of the first lines. -/
theorem any_left {test : Block → Bool} {position : Nat} (hposition : position < first.length)
    (htest : ∀ block, test block = true → block.opening ≤ position) :
    (blocks (first ++ second)).any test = (blocks first).any test := by
  have hlater : ((blocks second).map (Block.rename (· + first.length))).any test = false := by
    rw [List.any_map, List.any_eq_false]
    intro block _ hblock
    have hopening : block.opening + first.length ≤ position := htest _ hblock
    omega
  rw [h.blocks_eq, List.any_append, hlater, Bool.or_false]

/-- A test that fails for blocks before the second lines finds those of the second lines. -/
theorem any_right {test : Block → Bool}
    (htest : ∀ block, test block = true → first.length ≤ block.closing) :
    (blocks (first ++ second)).any test =
      (blocks second).any fun block => test (block.rename (· + first.length)) := by
  have hearlier : (blocks first).any test = false := by
    rw [List.any_eq_false]
    intro block hblock hclosing
    exact absurd (h.closing_lt block hblock) (Nat.not_lt_of_le (htest block hclosing))
  rw [h.blocks_eq, List.any_append, hearlier, Bool.false_or, List.any_map]
  rfl

/-- The first lines belong to the blocks that they belong to without the second ones. -/
theorem isOwned_left {position : Nat} (hposition : position < first.length) :
    isOwned (blocks (first ++ second)) position = isOwned (blocks first) position :=
  h.any_left hposition fun block howns => by simp [Block.owns] at howns; omega

/-- The second lines belong to their own blocks, moved behind the first ones. -/
theorem isOwned_right (position : Nat) :
    isOwned (blocks (first ++ second)) (position + first.length) =
      isOwned (blocks second) position := by
  rw [isOwned, h.any_right fun block howns => by simp [Block.owns] at howns; omega]
  simp only [isOwned, Block.owns, Block.rename, Nat.add_le_add_iff_right]

/-- The first lines lie between the braces that they lie between without the second ones. -/
theorem encloses_left {position : Nat} (hposition : position < first.length) :
    (blocks (first ++ second)).any (fun block => block.encloses position) =
      (blocks first).any fun block => block.encloses position :=
  h.any_left hposition fun block hencloses => by simp [Block.encloses] at hencloses; omega

/-- The second lines lie between the braces of their own blocks. -/
theorem encloses_right (position : Nat) :
    (blocks (first ++ second)).any (fun block => block.encloses (position + first.length)) =
      (blocks second).any fun block => block.encloses position := by
  rw [h.any_right fun block hencloses => by simp [Block.encloses] at hencloses; omega]
  simp only [Block.encloses, Block.rename, Nat.add_lt_add_iff_right]

end BlocksApart

end Notation
end Wardley
