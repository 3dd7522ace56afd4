import Wardley.Text.Blank
import Wardley.Text.Split

/-!
# Texts and their lines

The lines of a text are its pieces between line feeds.  No piece holds the separating
character, and lines without line feeds are the lines of the text that line feeds join them to.

Main results:

- `lines_append`: the lines of two texts with a line feed between them.
- `splitOn_eq_pair_iff`: the two pieces of a text that holds the separating character once.
- `lines_intercalate`: joined lines are split again.
- `not_mem_of_mem_splitOn`: no piece holds the separating character.
-/

namespace Wardley
namespace Text

variable {separator : Char}

/-- No piece of a text holds the separating character. -/
theorem not_mem_of_mem_splitOn {text piece : List Char} (h : piece ∈ List.splitOn separator text) :
    separator ∉ piece := by
  induction text generalizing piece with
  | nil =>
      rw [List.splitOn_nil, List.mem_singleton] at h
      simp [h]
  | cons c rest ih =>
      rcases List.exists_cons_of_ne_nil (List.splitOn_ne_nil separator rest) with
        ⟨first, others, hrest⟩
      rw [List.splitOn_cons_eq_if_modifyHead, hrest] at h
      rw [hrest] at ih
      by_cases hc : c = separator
      · rw [if_pos (beq_iff_eq.2 hc), List.mem_cons] at h
        rcases h with rfl | h
        · simp
        · exact ih h
      · rw [if_neg (by simpa using hc), List.modifyHead_cons, List.mem_cons] at h
        rcases h with rfl | h
        · simp [Ne.symm hc, ih List.mem_cons_self]
        · exact ih (List.mem_cons_of_mem _ h)

/-- A text has two pieces when it holds the separating character once. -/
theorem splitOn_eq_pair_iff {text first second : List Char} :
    List.splitOn separator text = [first, second] ↔
      separator ∉ first ∧ separator ∉ second ∧ text = first ++ separator :: second := by
  constructor
  · intro h
    by_cases htext : separator ∈ text
    · rcases List.eq_append_cons_of_mem htext with ⟨start, rest, rfl, hstart⟩
      rw [List.splitOn_append_cons_self_of_not_mem hstart, List.cons.injEq] at h
      rcases h with ⟨rfl, hrest⟩
      by_cases hmore : separator ∈ rest
      · rcases List.eq_append_cons_of_mem hmore with ⟨middle, finish, rfl, hmiddle⟩
        rw [List.splitOn_append_cons_self_of_not_mem hmiddle, List.cons.injEq] at hrest
        exact absurd hrest.2 (List.splitOn_ne_nil separator finish)
      · rw [List.splitOn_eq_singleton hmore] at hrest
        cases hrest
        exact ⟨hstart, hmore, rfl⟩
    · rw [List.splitOn_eq_singleton htext] at h
      cases h
  · rintro ⟨hfirst, hsecond, rfl⟩
    rw [List.splitOn_append_cons_self_of_not_mem hfirst, List.splitOn_eq_singleton hsecond]

/-- Two texts on lines of their own have their lines one after the other. -/
theorem lines_append (first second : List Char) :
    lines (first ++ '\n' :: second) = lines first ++ lines second :=
  List.splitOn_append_cons_self first second

/-- Lines are the lines of their join. -/
theorem lines_intercalate {pieces : List (List Char)} (hne : pieces ≠ [])
    (h : ∀ piece ∈ pieces, '\n' ∉ piece) : lines (List.intercalate ['\n'] pieces) = pieces :=
  List.splitOn_intercalate _ h hne

end Text
end Wardley
