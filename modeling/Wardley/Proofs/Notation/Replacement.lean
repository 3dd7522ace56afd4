import Wardley.Proofs.Notation.Concatenation

/-!
# A line in place of another

Outside the blocks of pipelines a line matters to the blocks only if it declares a pipeline
or stands between a header and its brace.  A line that is not blank, no header and not
begun by a brace ends the search for a brace and does nothing else, whatever it says, so that
such a line may stand in the place of another one.

Main definitions:

- `IsIdle`: a line that does no more than end the search for a brace.

Main results:

- `scan_append_run`: a scan goes on behind lines from the state in which it has left them.
- `run_ne_inside`: no block is open before a line that belongs to none.
- `blocks_replace`: the blocks around a line that another one replaces.
-/

namespace Wardley
namespace Notation

open Text

/-! ## Scans that go on -/

/-- The blocks that a scan completes on lines. -/
def ScanState.completed (state : ScanState) : List (Nat × List Char) → List Block
  | [] => []
  | line :: rest =>
    (state.step line.1 line.2).2 ++ (state.step line.1 line.2).1.completed rest

/-- A scan goes on behind lines from the state in which it has left them. -/
theorem scan_append_run (last : Nat) (state : ScanState) (first second : List (Nat × List Char)) :
    scan last state (first ++ second) =
      state.completed first ++ scan last (state.run first) second := by
  induction first generalizing state with
  | nil => rfl
  | cons line rest ih =>
      rw [List.cons_append, scan, ih, ← List.append_assoc]
      rfl

/-! ## Idle lines -/

/-- A line that ends the search for the brace of a header and does nothing else. -/
def IsIdle (line : List Char) : Prop :=
  isHeader line = false ∧ isAllBlank line = false ∧ startsWith ['{'] (trim line) = false

instance (line : List Char) : Decidable (IsIdle line) :=
  inferInstanceAs (Decidable (_ ∧ _ ∧ _))

/-- Outside blocks an idle line leaves no header waiting. -/
theorem IsIdle.step_eq {line : List Char} (h : IsIdle line) {state : ScanState}
    (hstate : ∀ header opening, state ≠ .inside header opening) (position : Nat) :
    state.step position line = (.outside, []) := by
  rcases h with ⟨hheader, hblank, hbrace⟩
  cases state with
  | outside => simp [ScanState.step, ScanState.begin, hheader]
  | pending header => simp [ScanState.step, ScanState.begin, hheader, hblank, hbrace]
  | inside header opening => exact absurd rfl (hstate header opening)

/-! ## Lines that belong to no block -/

section Around

variable {before after : List (List Char)} {line other : List Char}

/-- The lines before a line are scanned first. -/
theorem blocks_around :
    blocks (before ++ line :: after) =
      ScanState.outside.completed (numberFrom 0 before) ++
        scan (before ++ line :: after).length (ScanState.outside.run (numberFrom 0 before))
          (numberFrom before.length (line :: after)) := by
  rw [blocks_eq_scan, numberFrom_append, scan_append_run, Nat.zero_add]

/-- A block that is open behind lines opens within them. -/
theorem opening_lt_of_run_eq_inside {header opening : Nat}
    (h : ScanState.outside.run (numberFrom 0 before) = .inside header opening) :
    opening < before.length := by
  have hmem : ⟨header, opening, before.length⟩ ∈ blocks before := by
    rw [blocks_eq_scan]
    exact mem_scan_of_run_eq_inside h before.length
  have hlies := liesIn_of_mem_blocks hmem
  have hlt {position : Nat} {text : List Char} (htext : (position, text) ∈ numberFrom 0 before) :
      position < before.length :=
    (List.getElem?_eq_some_iff.1 (mem_numberFrom.1 htext).2).1
  rcases hlies.opening with hsame | ⟨text, htext, -⟩
  · rcases hlies.header with ⟨text, htext, -⟩
    have hheader := hlt htext
    rwa [← hsame] at hheader
  · exact hlt htext

/-- No block is open before a line that belongs to none. -/
theorem run_ne_inside (h : isOwned (blocks (before ++ line :: after)) before.length = false)
    (header opening : Nat) :
    ScanState.outside.run (numberFrom 0 before) ≠ .inside header opening := by
  intro hinside
  have hlast : before.length + (line :: after).length = (before ++ line :: after).length := by
    rw [List.length_append]
  -- the block that is open takes the line
  rw [blocks_around, hinside, scan_inside header opening hlast, isOwned, List.any_append,
    Bool.or_eq_false_iff, List.any_cons, Bool.or_eq_false_iff] at h
  have hopening := opening_lt_of_run_eq_inside hinside
  have hnot := h.2.1
  simp only [Block.owns, Bool.and_eq_false_iff, decide_eq_false_iff_not] at hnot
  omega

/-- The blocks around an idle line that belongs to none are those around any other such line. -/
theorem blocks_replace (hline : IsIdle line) (hother : IsIdle other)
    (h : isOwned (blocks (before ++ line :: after)) before.length = false) :
    blocks (before ++ other :: after) = blocks (before ++ line :: after) := by
  have hstate := run_ne_inside h
  have hlength : (before ++ other :: after).length = (before ++ line :: after).length := by
    simp only [List.length_append, List.length_cons]
  rw [blocks_around, blocks_around, hlength, numberFrom_cons, numberFrom_cons, scan, scan,
    hline.step_eq hstate, hother.step_eq hstate]

end Around

end Notation
end Wardley
