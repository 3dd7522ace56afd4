import Wardley.Notation.Comments
import Wardley.Proofs.Notation.Declarations
import Wardley.Proofs.Text.Patterns

/-!
# Lines without block comments

Where no block comment opens, a line loses at most its line comment, so that what is left
begins the line.  A declaration with a body therefore keeps its keyword.

Main results:

- `eraseLines_of_not_isInfix`: lines in which no block comment opens.
- `isSome_keywordBody?_of_prefix`: the beginning of a line tells its keyword.
-/

namespace Wardley
namespace Notation

open Text

/-! ## Comments -/

/-- A line without its line comment is the beginning of the line. -/
theorem cutLineComment_begins (line : List Char) : cutLineComment line <+: line := by
  unfold cutLineComment before
  split
  · exact List.prefix_refl line
  · split
    · rename_i parts hbreak
      exact prefix_of_breakAt hbreak
    · exact List.prefix_refl line

/-- A line on which no block comment opens is kept as it is. -/
theorem eraseBlocks_plain {line : List Char} (h : ¬ ['/', '*'] <:+: line) :
    eraseBlocks false line = (line, false) := by
  rw [eraseBlocks, Bool.eq_false_iff.2 (mt occurs_iff_isInfix.1 h)]
  rfl

/-- A line on which a block comment opens is left with the pieces outside of blocks. -/
theorem eraseBlocks_of_isInfix {line : List Char} (h : ['/', '*'] <:+: line) :
    eraseBlocks false line =
      (joinPieces (piecesOutside false line).1, (piecesOutside false line).2) := by
  rw [eraseBlocks, occurs_iff_isInfix.2 h]
  rfl

/-- Where no block comment opens, only line comments are cut. -/
theorem eraseLines_of_not_isInfix {lines : List (List Char)}
    (h : ∀ line ∈ lines, ¬ ['/', '*'] <:+: line) :
    eraseLines false lines = lines.map cutLineComment := by
  induction lines with
  | nil => rfl
  | cons line rest ih =>
      have hrest := ih fun other hother => h other (List.mem_cons_of_mem _ hother)
      have hnone : ¬ ['/', '*'] <:+: cutLineComment line := fun hin =>
        h line List.mem_cons_self (hin.trans (cutLineComment_begins line).isInfix)
      rw [eraseLines, eraseBlocks_plain hnone, List.map_cons, hrest]

/-! ## Keywords -/

/-- The first word of a line does not depend on the blanks behind it. -/
theorem takeWhile_isSolid_trim (line : List Char) :
    (trim line).takeWhile isSolid = (trimStart line).takeWhile isSolid := by
  let text := trimStart line
  have hblank : (text.rtakeWhile isBlank).takeWhile isSolid = [] := by
    cases hbehind : text.rtakeWhile isBlank with
    | nil => rfl
    | cons c behind =>
        have hc : isBlank c = true :=
          List.mem_rtakeWhile_imp (hbehind ▸ List.mem_cons_self : c ∈ text.rtakeWhile isBlank)
        rw [List.takeWhile_cons_of_neg (by simp [isSolid, hc])]
  have hsplit : text = trimEnd text ++ text.rtakeWhile isBlank := by
    rw [trimEnd_eq_rdropWhile, List.rdropWhile_append_rtakeWhile]
  change (trimEnd text).takeWhile isSolid = text.takeWhile isSolid
  conv_rhs => rw [hsplit, List.takeWhile_append, hblank, List.append_nil]
  split
  · rename_i hall
    exact (List.takeWhile_prefix isSolid).eq_of_length hall
  · rfl

/-- A line that begins with a declaration with a body is introduced by its keyword. -/
theorem isSome_keywordBody?_of_prefix {keyword core line body : List Char}
    (hsolid : ∀ c ∈ keyword, isSolid c) (hbegins : core <+: line)
    (hbody : keywordBody? keyword core = some body) (hne : body ≠ []) :
    (keywordBody? keyword line).isSome := by
  rcases (keywordBody?_eq_some_iff hsolid).1 hbody with ⟨hword, hrest⟩
  -- the word ends within the beginning of the line, since a body follows it
  have hends : ¬ ∀ c ∈ trimStart core, isSolid c := by
    intro hall
    have hnone : (trim core).dropWhile isSolid = [] := by
      rw [List.dropWhile_eq_nil_iff]
      intro c hc
      exact hall c (( trimEnd_prefix _).subset hc)
    rw [hnone, trim_nil] at hrest
    exact hne hrest.symm
  have hblank : ¬ ∀ c ∈ core, isBlank c := by
    intro hall
    rw [trimStart, List.dropWhile_eq_nil_iff.2 hall] at hends
    exact hends fun c hc => absurd hc List.not_mem_nil
  rcases hbegins with ⟨behind, rfl⟩
  have hwhole : (trim (core ++ behind)).takeWhile isSolid = keyword := by
    rw [takeWhile_isSolid_trim, trimStart_append hblank, List.takeWhile_append, if_neg,
      ← takeWhile_isSolid_trim, hword]
    intro hlength
    exact hends (List.takeWhile_eq_self_iff.1 ((List.takeWhile_prefix _).eq_of_length hlength))
  exact Option.isSome_iff_exists.2 ⟨_, (keywordBody?_eq_some_iff hsolid).2 ⟨hwhole, rfl⟩⟩

end Notation
end Wardley
