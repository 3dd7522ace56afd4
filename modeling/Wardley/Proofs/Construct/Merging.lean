import Mathlib.Data.List.Pairwise
import Mathlib.Data.List.Perm.Basic
import Wardley.Proofs.Construct.Records

/-!
# Merged readings

Attitudes and accelerators are read keyword by keyword, and the outcomes are merged in
the order of the lines.  Since a line has at most one keyword, no line is read twice,
and merging gives what a single pass over the lines gives.

Main results:

- `declarations_perm`: the runs of the keywords make up one pass.
- `mergeByLine_eq_collect`: merged outcomes are the outcome of one pass.
-/

namespace Wardley
namespace Construct

open Notation

/-! ## Runs of keywords -/

/-- Keywords of which at most one introduces a line make one declaration of it at most. -/
theorem flatMap_declaration? {keywords : List String} (hnodup : keywords.Nodup)
    (hwords : ∀ keyword ∈ keywords, IsKeyword keyword) (line : Nat × List Char) :
    (keywords.flatMap fun keyword => (declaration? [keyword] line).toList) =
      (declaration? keywords line).toList := by
  induction keywords with
  | nil => rfl
  | cons keyword rest ih =>
      rcases List.nodup_cons.1 hnodup with ⟨hnot, hrest⟩
      have hlater := ih hrest fun other hother => hwords other (List.mem_cons_of_mem _ hother)
      rw [List.flatMap_cons, hlater]
      cases hbody : keywordBody? keyword.toList line.2 with
      | none => simp [declaration?, hbody]
      | some body =>
          -- no later keyword introduces the line as well
          have hnone : declaration? rest line = none := by
            rw [← Option.not_isSome_iff_eq_none]
            intro hsome
            rcases Option.isSome_iff_exists.1 hsome with ⟨declared, hdeclared⟩
            rcases declaration?_eq_some hdeclared with ⟨-, hmem, hother⟩
            have heq := eq_of_introduces (hwords keyword List.mem_cons_self)
              (hwords _ (List.mem_cons_of_mem _ hmem)) hbody hother
            exact hnot (heq ▸ hmem)
          rw [hnone]
          simp [declaration?, hbody]

/-- The declarations of the single keywords are those of all of them. -/
theorem declarations_perm {keywords : List String} (hnodup : keywords.Nodup)
    (hwords : ∀ keyword ∈ keywords, IsKeyword keyword) (lines : List (Nat × List Char)) :
    (keywords.flatMap fun keyword => declarations [keyword] lines).Perm
      (declarations keywords lines) := by
  induction lines with
  | nil => simp [declarations]
  | cons line rest ih =>
      have hcons (some' : List String) : declarations some' (line :: rest) =
          (declaration? some' line).toList ++ declarations some' rest := by
        cases hdeclared : declaration? some' line <;> simp [declarations, hdeclared]
      simp only [hcons]
      refine (List.flatMap_append_perm keywords _ _).symm.trans ?_
      rw [flatMap_declaration? hnodup hwords]
      exact ih.append_left _

/-! ## Sorting -/

variable {α : Type}

/-- Sorting by a key brings a list into the order in which its keys increase. -/
theorem mergeSort_eq_of_perm (key : α → Nat) {le : α → α → Bool} {found ordered : List α}
    (hle : ∀ a ∈ found, ∀ b ∈ found, le a b = decide (key a ≤ key b))
    (hperm : found.Perm ordered) (hkey : ordered.Pairwise fun a b => key a < key b) :
    found.mergeSort le = ordered := by
  have hsame : found.mergeSort le = found.mergeSort fun a b => key a ≤ key b := by
    simpa using List.map_mergeSort (f := id) hle
  have hsorted : (found.mergeSort fun a b => key a ≤ key b).Pairwise
      fun a b => decide (key a ≤ key b) := by
    apply List.pairwise_mergeSort
    · intro a b c hab hbc
      exact decide_eq_true (Nat.le_trans (of_decide_eq_true hab) (of_decide_eq_true hbc))
    · intro a b
      simpa using Nat.le_total (key a) (key b)
  have : Std.Symm fun a b : α => key a = key b → a = b := ⟨fun a b h heq => (h heq.symm).symm⟩
  have hdistinct : ordered.Pairwise fun a b => key a = key b → a = b :=
    hkey.imp fun hlt heq => absurd heq (Nat.ne_of_lt hlt)
  rw [hsame]
  refine List.Perm.eq_of_pairwise ?_ hsorted (hkey.imp ?_)
    ((List.mergeSort_perm _ _).trans hperm)
  · intro a b ha hb hab hba
    rw [List.mem_mergeSort, hperm.mem_iff] at ha
    exact hdistinct.forall_of_forall (fun _ _ _ => rfl) ha hb
      (Nat.le_antisymm (of_decide_eq_true hab) (of_decide_eq_true hba))
  · intro a b hlt
    exact decide_eq_true (Nat.le_of_lt hlt)

/-! ## One pass -/

/-- The line of a region is that of its declaration. -/
theorem line_of_readRegion {options : RegionOptions} {declared : Declaration} {region : Region}
    (h : readRegion options declared = .ok region) : region.line = declared.line :=
  (readRegion_eq_ok h).2

/-- The position that an integer stands for, and the origin for other numbers. -/
def position : Number → Nat
  | .int n => n.toNat
  | .float _ => 0

/-- Reading keyword by keyword gives what one pass over the lines gives. -/
theorem regions_eq_collect {keywords : List String} (hnodup : keywords.Nodup)
    (hwords : ∀ keyword ∈ keywords, IsKeyword keyword) (options : RegionOptions)
    {lines : List (Nat × List Char)} (hlines : (lines.map Prod.fst).Pairwise (· < ·)) :
    regions keywords options lines =
      collect (readRegion options) (declarations keywords lines) := by
  have hruns := declarations_perm hnodup hwords lines
  have hdeclared := pairwise_line_declarations keywords hlines
  have hrecords : (keywords.flatMap fun keyword => (regionsOf options lines keyword).records).Perm
      (collect (readRegion options) (declarations keywords lines)).records := by
    simp only [regionsOf, records_collect]
    rw [← List.filterMap_flatMap]
    exact hruns.filterMap _
  have herrors : (keywords.flatMap fun keyword => (regionsOf options lines keyword).errors).Perm
      (collect (readRegion options) (declarations keywords lines)).errors := by
    simp only [regionsOf, errors_collect]
    rw [← List.filterMap_flatMap]
    exact hruns.filterMap _
  unfold regions mergeByLine
  simp only [List.flatMap_map]
  congr 1
  · refine mergeSort_eq_of_perm Region.line (fun _ _ _ _ => rfl) hrecords ?_
    rw [← List.pairwise_map, map_line_records (f := id) fun _ _ _ h => line_of_readRegion h]
    exact hdeclared.sublist (List.filter_sublist.map _)
  · have hnumber : ∀ error ∈ keywords.flatMap fun keyword =>
        (regionsOf options lines keyword).errors, ∃ n : Nat, error.line = .int n := by
      intro error herror
      rcases mem_errors_collect.1 (herrors.subset herror) with ⟨d, -, fault, -, rfl⟩
      exact ⟨d.line, rfl⟩
    have hposition := congrArg (List.map position)
      (map_line_errors (readRegion options) (declarations keywords lines))
    refine mergeSort_eq_of_perm (fun error => position error.line) ?_ herrors ?_
    · intro a ha b hb
      rcases hnumber a ha with ⟨m, hm⟩
      rcases hnumber b hb with ⟨n, hn⟩
      simp only [hm, hn, Number.below, position, Int.toNat_natCast]
      by_cases hle : m ≤ n
      · simp [hle]
      · simp [hle, Nat.lt_of_not_le hle]
    · rw [List.map_map, List.map_map] at hposition
      rw [← List.pairwise_map]
      change ((List.map (position ∘ Diagnostic.line) _).Pairwise _)
      rw [hposition]
      exact hdeclared.sublist (List.filter_sublist.map _)

end Construct
end Wardley
