import Wardley.Proofs.Notation.BlockScan

/-!
# Inserted lines

An empty line inserted among others moves the lines behind it by one.  Their blocks
move along: a block grows by the line if it is inserted between its ends, and the end of
a block that is never closed moves with the end of the text.

Main results:

- `numbered_insert`: the numbers of the other lines.
- `blocks_insert`: the blocks of the other lines.
- `flatMap_numbered_insert`: what is read line by line only changes its numbers.
-/

namespace Wardley
namespace Notation

open Text

/-! ## Numbers -/

/-- Numbers from a first one on moved by one. -/
def bump (first number : Nat) : Nat := if number < first then number else number + 1

/-- Making room keeps the order of positions. -/
theorem bump_lt_bump_iff {first a b : Nat} : bump first a < bump first b ↔ a < b := by
  unfold bump
  split <;> split <;> omega

/-- Making room keeps the weak order of positions. -/
theorem bump_le_bump_iff {first a b : Nat} : bump first a ≤ bump first b ↔ a ≤ b := by
  unfold bump
  split <;> split <;> omega

/-- Making room keeps positions apart. -/
theorem bump_inj {first a b : Nat} : bump first a = bump first b ↔ a = b := by
  unfold bump
  split <;> split <;> omega

/-- Positions are numbers counted from zero. -/
theorem bump_sub_one {first number : Nat} (h : 1 ≤ number) :
    bump (first + 1) number - 1 = bump first (number - 1) := by
  unfold bump
  split <;> split <;> omega

/-- Lines in front of an inserted one keep their numbers. -/
theorem map_bump_numberFrom_before (first : Nat) (before : List (List Char)) :
    (numberFrom first before).map (renameLine (bump (first + before.length))) =
      numberFrom first before := by
  have hid : ∀ line ∈ numberFrom first before,
      renameLine (bump (first + before.length)) line = line := by
    intro line hline
    rcases mem_numberFrom.1 hline with ⟨-, hget⟩
    have hlt := (List.getElem?_eq_some_iff.1 hget).1
    have hbump : bump (first + before.length) line.1 = line.1 := by
      rw [bump, if_pos]
      omega
    rw [renameLine, hbump]
  rw [List.map_congr_left hid, List.map_id']

/-- Lines behind an inserted one have the next number. -/
theorem map_bump_numberFrom_after {first position : Nat} (h : first ≤ position)
    (after : List (List Char)) :
    (numberFrom position after).map (renameLine (bump first)) =
      numberFrom (position + 1) after := by
  induction after generalizing position with
  | nil => rfl
  | cons line rest ih =>
      have hbump : bump first position = position + 1 := if_neg (Nat.not_lt.2 h)
      rw [numberFrom_cons, numberFrom_cons, List.map_cons, ih (Nat.le_succ_of_le h), renameLine,
        hbump]

/-- The numbers of lines around an inserted one. -/
theorem numberFrom_insert (first : Nat) (line : List Char) (before after : List (List Char)) :
    let place := first + before.length
    numberFrom first (before ++ line :: after) =
      (numberFrom first before).map (renameLine (bump place)) ++
        (place, line) :: (numberFrom place after).map (renameLine (bump place)) := by
  intro place
  rw [numberFrom_append, map_bump_numberFrom_before, map_bump_numberFrom_after (Nat.le_refl _)]
  rfl

/-! ## Blocks -/

/-- The blocks around an inserted blank line. -/
theorem blocks_insert {line : List Char} (h : isAllBlank line = true)
    (before after : List (List Char)) :
    blocks (before ++ line :: after) =
      (blocks (before ++ after)).map (Block.rename (bump before.length)) := by
  have hlast : (before ++ line :: after).length = bump before.length (before ++ after).length := by
    rw [bump, if_neg] <;> simp only [List.length_append, List.length_cons] <;> omega
  rw [blocks_eq_scan, blocks_eq_scan, numberFrom_insert, Nat.zero_add, scan_insert_blank h,
    ← List.map_append, hlast, ← scan_rename]
  rw [numberFrom_append, Nat.zero_add]
  rfl

/-- A moved block owns the moved positions. -/
theorem owns_rename_bump (first position : Nat) (block : Block) :
    (block.rename (bump first)).owns (bump first position) = block.owns position := by
  simp only [Block.owns, Block.rename, bump_le_bump_iff]

/-- A moved block encloses the moved positions. -/
theorem encloses_rename_bump (first position : Nat) (block : Block) :
    (block.rename (bump first)).encloses (bump first position) = block.encloses position := by
  simp only [Block.encloses, Block.rename, bump_lt_bump_iff]

/-- The moved blocks own the moved positions. -/
theorem isOwned_map_rename (first position : Nat) (found : List Block) :
    isOwned (found.map (Block.rename (bump first))) (bump first position) =
      isOwned found position := by
  simp only [isOwned, List.any_map, Function.comp_def, owns_rename_bump]

/-! ## Reading line by line -/

section Reading

variable {α : Type}

/-- What is read line by line, nothing from the inserted line, changes its numbers only. -/
theorem flatMap_numbered_insert {read read' : Nat × List Char → List α} {f : α → α}
    {line : List Char} {before after : List (List Char)}
    (hline : read' (before.length + 1, line) = [])
    (hread : ∀ entry ∈ numbered (before ++ after),
      read' (renameLine (bump (before.length + 1)) entry) = (read entry).map f) :
    (numbered (before ++ line :: after)).flatMap read' =
      ((numbered (before ++ after)).flatMap read).map f := by
  have hplace : 1 + before.length = before.length + 1 := Nat.add_comm _ _
  unfold numbered at hread ⊢
  rw [numberFrom_append, hplace] at hread
  rw [numberFrom_insert, numberFrom_append, hplace]
  rw [List.flatMap_append, List.flatMap_cons, hline, List.nil_append, ← List.flatMap_append,
    ← List.map_append, List.flatMap_map, List.map_flatMap]
  exact List.flatMap_congr hread

end Reading

end Notation
end Wardley
