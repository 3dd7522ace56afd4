import Wardley.Notation.Element
import Wardley.Proofs.Success
import Wardley.Proofs.Text.Padding
import Wardley.Proofs.Text.Words

/-!
# Bodies of a name and a place

A body without parentheses holds no address and no decorators, so that all that these
readings do to it is to collapse it.  The element that a name and a place describe has
therefore the collapsed name.

Main results:

- `takeUrl_of_not_mem`, `takeDecorators_of_not_mem`: bodies without parentheses.
- `splitPosition_append`: a body of a name and a place.
- `readElement_centre`: the element of a name in the centre of the map.
-/

namespace Wardley
namespace Notation

open Text

/-! ## Bodies without parentheses -/

/-- A clause that matches nowhere in a text is not found there. -/
theorem findClause_eq_none {α : Type} {word : List Char}
    {clause : List Char → Option (α × List Char)} {text : List Char}
    (h : ∀ rest, rest <:+ text → clause rest = none) (continued : Bool) :
    findClause word clause continued text = none := by
  induction text generalizing continued with
  | nil => rfl
  | cons c tail ih =>
      have hlater :=
        ih (fun rest hrest => h rest (hrest.trans (List.suffix_cons c tail))) (isWord c)
      have hhere : (afterPrefix word (c :: tail)).bind clause = none := by
        rw [Option.bind_eq_none_iff]
        intro rest hrest
        exact h rest ⟨word, (afterPrefix_eq_some.1 hrest).symm⟩
      rw [findClause, hhere, ite_self, hlater]
      rfl

/-- Only an opening parenthesis starts a group. -/
theorem takeParentheses?_eq_none {text : List Char} (h : '(' ∉ text.head?) :
    takeParentheses? text = none := by
  unfold takeParentheses?
  split
  · simp at h
  · rfl

/-- Only an opening bracket starts a bracketed part. -/
theorem takeBrackets?_eq_none {text : List Char} (h : '[' ∉ text.head?) :
    takeBrackets? text = none := by
  unfold takeBrackets?
  split
  · simp at h
  · rfl

variable {body : List Char} (h : '(' ∉ body)
include h

/-- A body without an opening parenthesis starts with no group. -/
theorem takeParentheses?_of_not_mem : takeParentheses? body = none :=
  takeParentheses?_eq_none fun hmem => h (List.mem_of_mem_head? hmem)

/-- A body without parentheses refers to no address. -/
theorem takeUrl_of_not_mem : takeUrl body = (none, body) := by
  have hnone : findClause "url".toList (fun text => takeParentheses? (trimStart text)) false body =
      none := by
    refine findClause_eq_none (fun rest hrest => takeParentheses?_of_not_mem ?_) false
    intro hmem
    exact h (hrest.subset ((List.dropWhile_sublist _).subset hmem))
  rw [takeUrl, hnone]

/-- A body without an opening parenthesis has no groups. -/
theorem pieces_of_not_mem : pieces body = body.map Piece.char := by
  induction body with
  | nil => rw [pieces, List.map_nil]
  | cons c rest ih =>
      have hrest : '(' ∉ rest := fun hmem => h (List.mem_cons_of_mem c hmem)
      rw [pieces, List.map_cons, ← ih hrest]
      split
      · rename_i hgroup
        rw [takeParentheses?_of_not_mem h] at hgroup
        cases hgroup
      · rfl

/-- A body without parentheses has no decorators, but it is collapsed. -/
theorem takeDecorators_of_not_mem : takeDecorators body = ⟨none, false, collapse body⟩ := by
  have hmarks : (body.map Piece.char).flatMap Piece.marks = [] := by
    simp [Piece.marks]
  have hrest : (body.map Piece.char).flatMap Piece.remains = body := by
    simp [List.flatMap_map, Piece.remains, Piece.marks]
  rw [takeDecorators, pieces_of_not_mem h]
  simp only [hmarks, hrest]
  rfl

omit h

/-! ## A name and a place -/

/-- A trimmed text ends without blanks. -/
theorem trimEnd_trim (text : List Char) : trimEnd (trim text) = trim text := by
  rw [trim, trimEnd_eq_rdropWhile, trimEnd_eq_rdropWhile, List.rdropWhile_idempotent]

/-- A text runs over no bracket exactly when it holds neither of the two. -/
theorem forall_isNoBracket_iff {text : List Char} :
    (∀ c ∈ text, isNoBracket c = true) ↔ '[' ∉ text ∧ ']' ∉ text := by
  simp only [isNoBracket, Bool.and_eq_true, bne_iff_ne]
  constructor
  · exact fun h => ⟨fun hopen => (h _ hopen).1 rfl, fun hclose => (h _ hclose).2 rfl⟩
  · rintro ⟨hopen, hclose⟩ c hc
    exact ⟨fun heq => hopen (heq ▸ hc), fun heq => hclose (heq ▸ hc)⟩

/-- A text starts with a bracket group when it starts with brackets around none. -/
theorem takeBrackets?_eq_some_iff {text content after : List Char} :
    takeBrackets? text = some (content, after) ↔
      text = '[' :: (content ++ ']' :: after) ∧ ∀ c ∈ content, isNoBracket c = true := by
  constructor
  · intro h
    unfold takeBrackets? at h
    split at h
    · rename_i rest
      split at h
      · rename_i tail hdrop
        cases h
        rw [← hdrop, List.takeWhile_append_dropWhile]
        exact ⟨rfl, fun c hc => List.mem_takeWhile_imp hc⟩
      · cases h
    · cases h
  · rintro ⟨rfl, hcontent⟩
    have hclose : isNoBracket ']' = false := rfl
    rw [takeBrackets?, List.dropWhile_append_of_pos hcontent, List.takeWhile_append_of_pos hcontent]
    simp [hclose]

/-- A bracketed part is taken up to its closing bracket. -/
theorem takeBrackets?_group {content : List Char} (hcontent : ∀ c ∈ content, isNoBracket c = true)
    (after : List Char) :
    takeBrackets? ('[' :: (content ++ ']' :: after)) = some (content, after) :=
  takeBrackets?_eq_some_iff.2 ⟨rfl, hcontent⟩

section Place

variable {name content rest : List Char} (hname : ∀ c ∈ name, isNoBracket c = true)
  (htrim : trim name = name) (hcontent : ∀ c ∈ content, isNoBracket c = true)
  (hline : '\n' ∉ rest)
include hname htrim hcontent hline

/-- A name without brackets before a bracket group on one line. -/
theorem splitBrackets?_append :
    splitBrackets? (name ++ ' ' :: '[' :: (content ++ ']' :: rest)) =
      some (name, content, rest) := by
  have hspace : isNoBracket ' ' = true := rfl
  have hbracket : ¬ isNoBracket '[' = true := by decide
  have hend : trimEnd (name ++ [' ']) = name := by
    rw [trimEnd_append_blank (by simp [isBlank, blankRanges]), ← htrim, trimEnd_trim]
  have hrest : rest.dropLast.contains '\n' = false := by
    rw [Bool.eq_false_iff, Ne, List.contains_iff_mem]
    exact fun hmem => hline (List.dropLast_subset rest hmem)
  rw [splitBrackets?, List.dropWhile_append_of_pos hname, List.takeWhile_append_of_pos hname,
    List.dropWhile_cons_of_pos hspace, List.takeWhile_cons_of_pos hspace,
    List.dropWhile_cons_of_neg hbracket, List.takeWhile_cons_of_neg hbracket,
    takeBrackets?_group hcontent]
  simp only [hend, hrest]
  rfl

/-- A name without brackets and a pair of coordinates. -/
theorem splitPosition_append {position : Double × Double}
    (hposition : readPair "coordinate" content = .ok position) :
    splitPosition (name ++ ' ' :: '[' :: (content ++ ']' :: rest)) =
      .ok ⟨name, some position, trim rest⟩ := by
  have hbracket : (name ++ ' ' :: '[' :: (content ++ ']' :: rest)).all isNoBracket = false := by
    simp [isNoBracket]
  rw [splitPosition, hbracket, splitBrackets?_append hname htrim hcontent hline]
  simp only [hposition, htrim]
  rfl

end Place

/-- The coordinates of the centre of a map. -/
def halves : List Char := "0.5, 0.5".toList

/-- The place in the centre of a map. -/
def centre : List Char := '[' :: (halves ++ [']'])

/-- One half. -/
def half : Double := .ofDecimal ⟨false, 5, -1⟩

/-- The standard pair is read as two halves. -/
theorem readPair_halves : readPair "coordinate" halves = .ok (half, half) := by rfl

/-- The standard place is collapsed already. -/
theorem collapse_centre : collapse centre = centre := by decide

/-- The element of a name in the centre of a map has the collapsed name. -/
theorem readElement_centre {name : List Char} (hne : words name ≠ [])
    (hplain : ∀ c ∈ name, c ∉ ['(', '[', ']']) (keyword : String) (kind : ElementKind)
    (line : Number) :
    readElement keyword kind line (name ++ ' ' :: centre) =
      .ok {
        name := String.ofList (collapse name)
        kind := kind
        maturity := .float half
        visibility := .float half
        line := some line } := by
  have hparenthesis : '(' ∉ name ++ ' ' :: centre := by
    rw [List.mem_append]
    rintro (hmem | hmem)
    · simpa using hplain _ hmem
    · revert hmem
      decide
  have hcollapse : collapse (name ++ ' ' :: centre) = collapse name ++ ' ' :: centre := by
    rw [collapse_append_blank (by decide) hne (by decide), collapse_centre]
  have hbrackets : ∀ c ∈ collapse name, isNoBracket c = true := by
    intro c hc
    rcases mem_collapse hc with rfl | hmem
    · rfl
    · have hnot := hplain c hmem
      simp only [List.mem_cons, List.not_mem_nil, or_false, not_or] at hnot
      simp [isNoBracket, hnot.2.1, hnot.2.2]
  have hplacement : splitPosition (collapse name ++ ' ' :: centre) =
      .ok ⟨collapse name, some (half, half), []⟩ :=
    splitPosition_append hbrackets (trim_collapse name) (List.all_eq_true.1 (by decide))
      List.not_mem_nil readPair_halves
  have hnamed : (collapse name).isEmpty = false :=
    List.isEmpty_eq_false_iff.2 (collapse_ne_nil hne)
  have hlabel : takeLabel [] = .ok (none, []) := rfl
  rw [readElement, takeUrl_of_not_mem hparenthesis]
  simp only [takeDecorators_of_not_mem hparenthesis, hcollapse, hplacement, ok_bind, hlabel,
    hnamed]
  rfl

end Notation
end Wardley
