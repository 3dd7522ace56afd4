import Mathlib.Data.List.Pairwise
import Wardley.Notation.Block
import Wardley.Proofs.Notation.Declarations

/-!
# How blocks lie in their lines

A block begins at its header, opens on the header line or on a later line that a brace
begins, and closes at its opening line or behind it.  Blocks do not overlap, since the
search for the next header goes on behind the closing line.

Main definitions:

- `Block.LiesIn`: the header, the opening and the closing line of a block.
- `FoundFrom`: blocks that lie in lines, each behind the one before.

Main results:

- `foundFrom_blocksFrom`: what the search for blocks finds.
- `liesIn_of_mem_blocks`: the blocks of lines lie in them.
- `pairwise_blocks`: a block closes before the header of the next one.
- `eq_of_mem_blocks`: blocks do not overlap.
- `opening_lt_of_owns_header`: a header within the block of an earlier one stands behind the
  opening line.
-/

namespace Wardley
namespace Notation

open Text

/-! ## Numbered lines -/

theorem numberFrom_drop (first count : Nat) (lines : List (List Char)) :
    numberFrom (first + count) (lines.drop count) = (numberFrom first lines).drop count := by
  induction count generalizing first lines with
  | zero => simp
  | succ count ih =>
      cases lines with
      | nil => rfl
      | cons line rest =>
          rw [List.drop_succ_cons, numberFrom_cons, List.drop_succ_cons, ← ih,
            Nat.add_right_comm first 1, Nat.add_assoc first count 1]

/-- The lines behind some others stand among all of them. -/
theorem numberFrom_drop_subset (first count : Nat) (lines : List (List Char)) :
    numberFrom (first + count) (lines.drop count) ⊆ numberFrom first lines := by
  rw [numberFrom_drop]
  exact List.drop_subset _ _

/-- The line at a position has the number behind the position. -/
theorem mem_numberFrom_zero {position : Nat} {text : List Char} {lines : List (List Char)} :
    (position, text) ∈ numberFrom 0 lines ↔ (position + 1, text) ∈ numbered lines := by
  simp [numbered, mem_numberFrom]

/-- Lines with the same number are the same. -/
theorem eq_of_mem_numbered {lines : List (List Char)} {number : Nat} {text other : List Char}
    (h : (number, text) ∈ numbered lines) (hother : (number, other) ∈ numbered lines) :
    text = other := by
  have htext := (mem_numberFrom.1 h).2
  rw [(mem_numberFrom.1 hother).2] at htext
  exact (Option.some.inj htext).symm

/-! ## Headers and braces -/

/-- A header is told by its first word. -/
theorem isHeader_iff {line : List Char} : isHeader line = true ↔ firstWord line = "pipeline" := by
  have hwords : ∀ keyword ∈ ["pipeline"], IsKeyword keyword := by decide
  have hiff : introduces ["pipeline"] line = true ↔ firstWord line ∈ ["pipeline"] :=
    introduces_iff hwords
  simpa [introduces, isHeader] using hiff

/-- A line that a brace begins is no header. -/
theorem isHeader_of_startsWith_brace {line : List Char} (h : startsWith ['{'] (trim line) = true) :
    isHeader line = false := by
  rcases Option.isSome_iff_exists.1 h with ⟨rest, hrest⟩
  rw [isHeader, keywordBody?, afterPrefix_eq_some.1 hrest]
  rfl

/-- Where a block lies in lines with positions. -/
structure Block.LiesIn (lines : List (Nat × List Char)) (block : Block) : Prop where
  header : ∃ text, (block.header, text) ∈ lines ∧ isHeader text = true
  header_le : block.header ≤ block.opening
  /-- A block that does not open on its header line opens on one that a brace begins. -/
  opening : block.opening = block.header ∨
    ∃ text, (block.opening, text) ∈ lines ∧ startsWith ['{'] (trim text) = true
  opening_le : block.opening ≤ block.closing

theorem Block.LiesIn.mono {few lines : List (Nat × List Char)} {block : Block}
    (h : block.LiesIn few) (hsub : few ⊆ lines) : block.LiesIn lines where
  header := h.header.imp fun _ htext => ⟨hsub htext.1, htext.2⟩
  header_le := h.header_le
  opening := h.opening.imp_right fun ⟨text, htext⟩ => ⟨text, hsub htext.1, htext.2⟩
  opening_le := h.opening_le

/-! ## The search for blocks -/

/-- A block lies in lines of which the first has a given position. -/
structure Block.LiesFrom (position : Nat) (lines : List (List Char)) (block : Block) : Prop where
  position_le : position ≤ block.header
  liesIn : block.LiesIn (numberFrom position lines)

/-- A block that lies in the lines behind some others lies among all of them. -/
theorem Block.LiesFrom.of_drop {position : Nat} (count : Nat) {lines : List (List Char)}
    {block : Block} (h : block.LiesFrom (position + count) (lines.drop count)) :
    block.LiesFrom position lines where
  position_le := Nat.le_trans (Nat.le_add_right position count) h.position_le
  liesIn := h.liesIn.mono (numberFrom_drop_subset position count lines)

/-- Blocks lie in lines, each behind the one before. -/
structure FoundFrom (position : Nat) (lines : List (List Char)) (found : List Block) : Prop where
  lies : ∀ block ∈ found, block.LiesFrom position lines
  pairwise : found.Pairwise fun first second => first.closing < second.header

/-- What is found behind the first line is found from that line on. -/
theorem FoundFrom.of_tail {position : Nat} {line : List Char} {rest : List (List Char)}
    {found : List Block} (h : FoundFrom (position + 1) rest found) :
    FoundFrom position (line :: rest) found where
  lies block hblock := (h.lies block hblock).of_drop 1
  pairwise := h.pairwise

/-- A block and what is found behind its closing line. -/
theorem FoundFrom.cons {position next : Nat} {lines behind : List (List Char)} {block : Block}
    {later : List Block} (hblock : block.LiesFrom position lines)
    (hlater : FoundFrom next behind later) (hclosing : block.closing < next)
    (hbehind : ∀ other : Block, other.LiesFrom next behind → other.LiesFrom position lines) :
    FoundFrom position lines (block :: later) where
  lies := List.forall_mem_cons.2
    ⟨hblock, fun other hother => hbehind other (hlater.lies other hother)⟩
  pairwise := List.pairwise_cons.2
    ⟨fun other hother => Nat.lt_of_lt_of_le hclosing (hlater.lies other hother).position_le,
      hlater.pairwise⟩

/-- The search finds blocks from its first line on. -/
theorem foundFrom_blocksFrom (position : Nat) (lines : List (List Char)) :
    FoundFrom position lines (blocksFrom position lines) := by
  fun_induction blocksFrom position lines with
  | case1 position => exact ⟨by simp, .nil⟩
  | case2 position line rest hheader ih => exact ih.of_tail
  | case3 position line rest hheader hbrace distance ih =>
      refine .cons ?_ ih (Nat.lt_succ_self _) fun other hother => ?_
      · exact ⟨Nat.le_refl _, {
          header := ⟨line, List.mem_cons_self, by simpa using hheader⟩
          header_le := Nat.le_refl _
          opening := .inl rfl
          opening_le := Nat.le_add_right _ _ }⟩
      · exact .of_drop (distance + 1) hother
  | case4 position line rest hheader hbrace hrest ih => exact ih.of_tail
  | case5 position line rest hheader hbrace next others hrest hopens opening distance ih =>
      have hblank : numberFrom opening (next :: others) ⊆ numberFrom position (line :: rest) := by
        rw [← hrest]
        exact List.Subset.trans (numberFrom_drop_subset (position + 1) (leadingBlank rest) rest)
          (List.subset_cons_self _ _)
      refine .cons ?_ ih (Nat.lt_succ_self _) fun other hother => ?_
      · exact ⟨Nat.le_refl _, {
          header := ⟨line, List.mem_cons_self, by simpa using hheader⟩
          header_le := Nat.le_trans (Nat.le_succ _) (Nat.le_add_right _ _)
          opening := .inr ⟨next, hblank List.mem_cons_self, hopens⟩
          opening_le := Nat.le_add_right _ _ }⟩
      · have hopened : other.LiesFrom opening (next :: others) := .of_drop (distance + 1) hother
        rw [← hrest] at hopened
        exact .of_drop 1 (.of_drop (leadingBlank rest) hopened)
  | case6 position line rest hheader hbrace next others hrest hopens ih => exact ih.of_tail

/-! ## The blocks of lines -/

variable {lines : List (List Char)}

/-- The blocks of lines lie in them. -/
theorem liesIn_of_mem_blocks {block : Block} (h : block ∈ blocks lines) :
    block.LiesIn (numberFrom 0 lines) :=
  ((foundFrom_blocksFrom 0 lines).lies block h).liesIn

theorem header_le_of_mem_blocks {block : Block} (h : block ∈ blocks lines) :
    block.header ≤ block.closing :=
  Nat.le_trans (liesIn_of_mem_blocks h).header_le (liesIn_of_mem_blocks h).opening_le

/-- A block closes before the header of the next one. -/
theorem pairwise_blocks (lines : List (List Char)) :
    (blocks lines).Pairwise fun first second => first.closing < second.header :=
  (foundFrom_blocksFrom 0 lines).pairwise

/-- Blocks that both reach over a position are the same. -/
theorem eq_of_mem_blocks {first second : Block} (hfirst : first ∈ blocks lines)
    (hsecond : second ∈ blocks lines) {position : Nat}
    (hposition : first.header ≤ position ∧ position ≤ first.closing)
    (hposition' : second.header ≤ position ∧ position ≤ second.closing) : first = second := by
  let Meet (a b : Block) : Prop := a.header ≤ b.closing ∧ b.header ≤ a.closing
  have : Std.Symm fun a b => Meet a b → a = b := ⟨fun _ _ h hmeet => (h hmeet.symm).symm⟩
  have hapart : (blocks lines).Pairwise fun a b => Meet a b → a = b := by
    refine (pairwise_blocks lines).imp ?_
    intro a b hlt hmeet
    exact absurd hmeet.2 (Nat.not_le_of_lt hlt)
  exact hapart.forall_of_forall (fun _ _ _ => rfl) hfirst hsecond
    ⟨Nat.le_trans hposition.1 hposition'.2, Nat.le_trans hposition'.1 hposition.2⟩

/-- A header within the block of an earlier one stands behind the opening line. -/
theorem opening_lt_of_owns_header {block : Block} (h : block ∈ blocks lines) {position : Nat}
    (hearlier : block.header < position) (howns : block.owns position = true)
    {text : List Char} (htext : (position, text) ∈ numberFrom 0 lines)
    (hheader : isHeader text = true) : block.opening < position := by
  have hle : block.opening ≤ position := by
    simp only [Block.owns, Bool.and_eq_true, decide_eq_true_eq] at howns
    exact howns.1
  refine Nat.lt_of_le_of_ne hle ?_
  rintro rfl
  rcases (liesIn_of_mem_blocks h).opening with heq | ⟨other, hother, hbrace⟩
  · exact absurd heq (Nat.ne_of_gt hearlier)
  · obtain rfl := eq_of_mem_numbered (mem_numberFrom_zero.1 hother) (mem_numberFrom_zero.1 htext)
    rw [isHeader_of_startsWith_brace hbrace] at hheader
    contradiction

end Notation
end Wardley
