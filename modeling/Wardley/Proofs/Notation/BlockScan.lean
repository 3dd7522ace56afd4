import Wardley.Notation.Block
import Wardley.Proofs.Notation.Declarations

/-!
# Scanning for blocks

The blocks of pipelines can be found in one pass: the scan waits for a header, then for
the brace behind it, then for the closing brace.  A blank line leaves the scan where it
is, and positions are only handed on, never compared.

Main results:

- `blocks_eq_scan`: the scan finds the blocks of a list of lines.
- `scan_insert_blank`: a blank line does not change what the scan finds.
- `scan_map`: renaming positions renames those of the found blocks.
-/

namespace Wardley
namespace Notation

open Text

/-! ## States and steps -/

/-- Where a scan for blocks stands between two lines. -/
inductive ScanState where
  /-- No block is open and no brace is waited for. -/
  | outside
  /-- A header without a brace was seen, and since then only blank lines. -/
  | pending (header : Nat)
  /-- A block is open. -/
  | inside (header opening : Nat)
  deriving DecidableEq, Repr

namespace ScanState

/-- The scan after the opening line of a block, which may close it as well. -/
def enter (header position : Nat) (line : List Char) : ScanState × List Block :=
  if (afterBrace line).contains '}' then (outside, [⟨header, position, position⟩])
  else (inside header position, [])

/-- The scan after a line that no block and no header before it takes. -/
def begin (position : Nat) (line : List Char) : ScanState × List Block :=
  if !isHeader line then (outside, [])
  else if line.contains '{' then enter position position line
  else (pending position, [])

/-- The scan after one more line, and the blocks that the line completes. -/
def step (position : Nat) (line : List Char) : ScanState → ScanState × List Block
  | outside => begin position line
  | pending header =>
    if isAllBlank line then (pending header, [])
    else if startsWith ['{'] (trim line) then enter header position line
    else begin position line
  | inside header opening =>
    if line.contains '}' then (outside, [⟨header, opening, position⟩])
    else (inside header opening, [])

/-- The blocks that the end of the text completes. -/
def finish (last : Nat) : ScanState → List Block
  | outside | pending _ => []
  | inside header opening => [⟨header, opening, last⟩]

end ScanState

/-- The blocks that a scan finds in lines with positions, up to a last position. -/
def scan (last : Nat) (state : ScanState) : List (Nat × List Char) → List Block
  | [] => state.finish last
  | (position, line) :: rest =>
    (state.step position line).2 ++ scan last (state.step position line).1 rest

/-! ## Blank lines -/

/-- A blank line is no header. -/
theorem isHeader_of_isAllBlank {line : List Char} (h : isAllBlank line = true) :
    isHeader line = false := by
  have hblank : trim line = [] := trim_eq_nil_iff.2 (List.all_eq_true.1 h)
  rw [isHeader, keywordBody?_of_blank (by decide) hblank]
  rfl

/-- A blank line holds blanks only. -/
theorem contains_of_isAllBlank {line : List Char} (h : isAllBlank line = true) {c : Char}
    (hc : isBlank c = false) : line.contains c = false := by
  rw [Bool.eq_false_iff]
  intro hmem
  have := List.all_eq_true.1 h c (List.contains_iff_mem.1 hmem)
  rw [hc] at this
  contradiction

/-- A blank line leaves the scan where it is. -/
theorem step_of_isAllBlank {line : List Char} (h : isAllBlank line = true) (position : Nat)
    (state : ScanState) : state.step position line = (state, []) := by
  cases state with
  | outside => simp [ScanState.step, ScanState.begin, isHeader_of_isAllBlank h]
  | pending header => rw [ScanState.step, if_pos h]
  | inside header opening =>
      rw [ScanState.step, contains_of_isAllBlank h (by decide)]
      rfl

/-- Behind a header, a written line opens the block or starts afresh. -/
theorem step_pending_of_not_blank {line : List Char} (h : ¬ isAllBlank line = true)
    (position header : Nat) :
    (ScanState.pending header).step position line =
      if startsWith ['{'] (trim line) then ScanState.enter header position line
      else ScanState.outside.step position line :=
  if_neg h

/-! ## The blocks of lines -/

/-- An open block ends at the first closing brace, or at the last position. -/
theorem scan_inside {last position : Nat} {rest : List (List Char)} (header opening : Nat)
    (hlast : position + rest.length = last) :
    scan last (.inside header opening) (numberFrom position rest) =
      let distance := (rest.takeWhile fun line => !line.contains '}').length
      ⟨header, opening, position + distance⟩ ::
        scan last .outside (numberFrom (position + distance + 1) (rest.drop (distance + 1))) := by
  induction rest generalizing position with
  | nil =>
      subst hlast
      rfl
  | cons line rest ih =>
      rw [numberFrom_cons, scan, ScanState.step]
      by_cases hclose : line.contains '}' = true
      · rw [if_pos hclose, List.takeWhile_cons_of_neg (by rw [hclose]; decide)]
        rfl
      · have hnext : position + 1 + rest.length = last := by
          rw [← hlast, List.length_cons]
          omega
        rw [if_neg hclose, List.takeWhile_cons_of_pos (by simpa using hclose), ih hnext]
        simp only [List.nil_append, List.length_cons, List.drop_succ_cons]
        rw [Nat.add_right_comm position 1, Nat.add_assoc position _ 1]

/-- An opening line begins a block. -/
theorem scan_enter {last position : Nat} {line : List Char} {rest : List (List Char)}
    (header : Nat) (hlast : position + 1 + rest.length = last) :
    (ScanState.enter header position line).2 ++
        scan last (ScanState.enter header position line).1 (numberFrom (position + 1) rest) =
      let distance := closingDistance line rest
      ⟨header, position, position + distance⟩ ::
        scan last .outside (numberFrom (position + distance + 1) (rest.drop distance)) := by
  unfold ScanState.enter closingDistance
  by_cases hclose : (afterBrace line).contains '}' = true
  · rw [if_pos hclose, if_pos hclose]
    rfl
  · rw [if_neg hclose, if_neg hclose, List.nil_append, scan_inside header position hlast]
    simp only [Nat.add_right_comm position 1, Nat.add_assoc position _ 1]

/-- Behind a header, the first line that is not blank begins a block or counts for itself. -/
theorem scan_pending {last position : Nat} {rest : List (List Char)} (header : Nat)
    (hlast : position + rest.length = last) :
    scan last (.pending header) (numberFrom position rest) =
      match rest.drop (leadingBlank rest) with
      | [] => scan last .outside (numberFrom position rest)
      | next :: others =>
        if startsWith ['{'] (trim next) then
          let opening := position + leadingBlank rest
          let distance := closingDistance next others
          ⟨header, opening, opening + distance⟩ ::
            scan last .outside (numberFrom (opening + distance + 1) (others.drop distance))
        else scan last .outside (numberFrom position rest) := by
  induction rest generalizing position with
  | nil => rfl
  | cons line rest ih =>
      have hnext : position + 1 + rest.length = last := by
        rw [← hlast, List.length_cons]
        omega
      rw [numberFrom_cons, scan, scan]
      by_cases hblank : isAllBlank line = true
      · have hleading : leadingBlank (line :: rest) = leadingBlank rest + 1 := by
          simp [leadingBlank, hblank]
        rw [step_of_isAllBlank hblank, step_of_isAllBlank hblank, hleading, List.nil_append,
          List.nil_append, ih hnext, List.drop_succ_cons, Nat.add_right_comm position 1,
          Nat.add_assoc position _ 1]
      · have hleading : leadingBlank (line :: rest) = 0 := by
          simp [leadingBlank, hblank]
        rw [step_pending_of_not_blank hblank, hleading]
        by_cases hbrace : startsWith ['{'] (trim line) = true
        · rw [if_pos hbrace, scan_enter header hnext]
          simp only [List.drop_zero, hbrace, if_true, Nat.add_zero]
        · rw [if_neg hbrace]
          simp only [List.drop_zero, hbrace]
          rfl

/-- Behind a block, the rest of the lines ends at the same position. -/
theorem length_drop_add {last position : Nat} {rest : List (List Char)} (distance : Nat)
    (hlast : position + rest.length = last) (hne : rest.drop distance ≠ []) :
    position + distance + (rest.drop distance).length = last := by
  have hlt : distance < rest.length := by
    rw [← List.length_pos_iff, List.length_drop] at hne
    omega
  rw [List.length_drop]
  omega

/-- A header without a brace waits for one. -/
theorem scan_header {last position : Nat} {line : List Char} {rest : List (List Char)}
    (hheader : ¬ (!isHeader line) = true) (hbrace : ¬ line.contains '{' = true) :
    scan last .outside (numberFrom position (line :: rest)) =
      scan last (.pending position) (numberFrom (position + 1) rest) := by
  rw [numberFrom_cons, scan, ScanState.step, ScanState.begin, if_neg hheader, if_neg hbrace]
  rfl

/-- The scan finds the blocks of the lines from a position on. -/
theorem blocksFrom_eq_scan {last position : Nat} {lines : List (List Char)}
    (hlast : lines ≠ [] → position + lines.length = last) :
    blocksFrom position lines = scan last .outside (numberFrom position lines) := by
  have hnext {position : Nat} {line : List Char} {rest : List (List Char)}
      (h : line :: rest ≠ [] → position + (line :: rest).length = last) :
      position + 1 + rest.length = last := by
    have := h (List.cons_ne_nil _ _)
    rw [List.length_cons] at this
    omega
  fun_induction blocksFrom position lines with
  | case1 position => rfl
  | case2 position line rest hheader ih =>
      rw [numberFrom_cons, scan, ScanState.step, ScanState.begin, if_pos hheader]
      exact ih fun _ => hnext hlast
  | case3 position line rest hheader hbrace distance ih =>
      rw [numberFrom_cons, scan, ScanState.step, ScanState.begin, if_neg hheader, if_pos hbrace,
        scan_enter position (hnext hlast), ih]
      intro hne
      have := length_drop_add distance (hnext hlast) hne
      omega
  | case4 position line rest hheader hbrace hrest ih =>
      rw [scan_header hheader hbrace, scan_pending position (hnext hlast), hrest]
      exact ih fun _ => hnext hlast
  | case5 position line rest hheader hbrace next others hrest hopens opening distance ih =>
      rw [scan_header hheader hbrace, scan_pending position (hnext hlast), hrest]
      simp only [hopens, if_true]
      rw [ih]
      intro hne
      have hothers : opening + 1 + others.length = last := by
        have hlength := congrArg List.length hrest
        rw [List.length_drop, List.length_cons] at hlength
        have := hnext hlast
        omega
      have := length_drop_add distance hothers hne
      omega
  | case6 position line rest hheader hbrace next others hrest hopens ih =>
      rw [scan_header hheader hbrace, scan_pending position (hnext hlast), hrest]
      simp only [hopens]
      exact ih fun _ => hnext hlast

/-- The scan finds the blocks of a list of lines. -/
theorem blocks_eq_scan (lines : List (List Char)) :
    blocks lines = scan lines.length .outside (numberFrom 0 lines) :=
  blocksFrom_eq_scan fun _ => Nat.zero_add _

/-! ## Blank lines and other positions -/

/-- A blank line among others does not change what a scan finds. -/
theorem scan_insert_blank {blank : Nat × List Char} (h : isAllBlank blank.2 = true) (last : Nat)
    (state : ScanState) (before after : List (Nat × List Char)) :
    scan last state (before ++ blank :: after) = scan last state (before ++ after) := by
  induction before generalizing state with
  | nil =>
      rw [List.nil_append, List.nil_append, scan, step_of_isAllBlank h]
      rfl
  | cons line rest ih => simp only [List.cons_append, scan, ih]

/-- A block with its positions renamed. -/
def Block.rename (f : Nat → Nat) (block : Block) : Block :=
  ⟨f block.header, f block.opening, f block.closing⟩

/-- A line with its number renamed. -/
def renameLine (f : Nat → Nat) (line : Nat × List Char) : Nat × List Char := (f line.1, line.2)

/-- A state of the scan with its positions renamed. -/
def ScanState.rename (f : Nat → Nat) : ScanState → ScanState
  | outside => outside
  | pending header => pending (f header)
  | inside header opening => inside (f header) (f opening)

/-- Opening a block commutes with moving positions. -/
theorem enter_rename (f : Nat → Nat) (header position : Nat) (line : List Char) :
    ScanState.enter (f header) (f position) line =
      ((ScanState.enter header position line).1.rename f,
        (ScanState.enter header position line).2.map (Block.rename f)) := by
  unfold ScanState.enter
  split <;> rfl

/-- Beginning a line commutes with moving positions. -/
theorem begin_rename (f : Nat → Nat) (position : Nat) (line : List Char) :
    ScanState.begin (f position) line =
      ((ScanState.begin position line).1.rename f,
        (ScanState.begin position line).2.map (Block.rename f)) := by
  unfold ScanState.begin
  split
  · rfl
  · split
    · exact enter_rename f position position line
    · rfl

/-- A step hands positions on. -/
theorem step_rename (f : Nat → Nat) (position : Nat) (line : List Char) (state : ScanState) :
    (state.rename f).step (f position) line =
      ((state.step position line).1.rename f,
        (state.step position line).2.map (Block.rename f)) := by
  cases state with
  | outside => exact begin_rename f position line
  | pending header =>
      simp only [ScanState.rename, ScanState.step]
      split
      · rfl
      · split
        · exact enter_rename f header position line
        · exact begin_rename f position line
  | inside header opening =>
      simp only [ScanState.rename, ScanState.step]
      split <;> rfl

/-- With renamed positions, a scan finds the blocks with renamed positions. -/
theorem scan_rename (f : Nat → Nat) (last : Nat) (state : ScanState)
    (lines : List (Nat × List Char)) :
    scan (f last) (state.rename f) (lines.map (renameLine f)) =
      (scan last state lines).map (Block.rename f) := by
  induction lines generalizing state with
  | nil => cases state <;> rfl
  | cons line rest ih =>
      rw [List.map_cons, renameLine, scan, scan, step_rename, ih, List.map_append]

end Notation
end Wardley
