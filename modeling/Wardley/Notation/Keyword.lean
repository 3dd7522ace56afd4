import Wardley.Text.Blank
import Wardley.Text.Split

/-!
# Keywords

A line is introduced by its first word.  When that word is a keyword, the rest of
the line, trimmed, is the body of a declaration.

Main definitions:

- `keywordBody?`: the body of a line that a keyword introduces.
- `declarations`: the lines that one of several keywords introduces.
- `isReserved`: a reserved keyword introduces the line, so that it is no link.
-/

namespace Wardley
namespace Notation

open Text

/-- The trimmed text after a keyword that is the first word of the line. -/
def keywordBody? (keyword line : List Char) : Option (List Char) :=
  match afterPrefix keyword (trim line) with
  | none => none
  | some [] => some []
  | some (c :: rest) => if isBlank c then some (trim rest) else none

/-- The keywords that introduce declarations. -/
def reservedKeywords : List String :=
  ["title", "style", "size", "evolution", "note", "annotation", "annotations", "component",
   "market", "ecosystem", "anchor", "submap", "pipeline", "evolve", "url", "pioneers",
   "settlers", "townplanners", "accelerator", "deaccelerator", "build", "buy", "outsource"]

/-- A reserved keyword introduces the line. -/
def isReserved (line : List Char) : Bool :=
  reservedKeywords.any fun keyword => (keywordBody? keyword.toList line).isSome

/-! ## Numbered lines -/

/-- Items with their numbers, counted from a first one. -/
def numberFrom {α : Type} (first : Nat) (items : List α) : List (Nat × α) :=
  (items.zipIdx first).map Prod.swap

/-- Lines with their numbers, counted from one. -/
def numbered (lines : List (List Char)) : List (Nat × List Char) := numberFrom 1 lines

section Numbers

variable {α : Type} (first : Nat)

@[simp] theorem numberFrom_nil : numberFrom first ([] : List α) = [] := rfl

@[simp] theorem numberFrom_cons (item : α) (rest : List α) :
    numberFrom first (item :: rest) = (first, item) :: numberFrom (first + 1) rest := rfl

/-- Without their numbers, numbered items are the items. -/
@[simp] theorem map_snd_numberFrom (items : List α) :
    (numberFrom first items).map Prod.snd = items := by
  rw [numberFrom, List.map_map]
  exact List.zipIdx_map_fst first items

/-- The numbers of numbered items follow one another. -/
theorem map_fst_numberFrom (items : List α) :
    (numberFrom first items).map Prod.fst = List.range' first items.length := by
  rw [numberFrom, List.map_map]
  exact List.zipIdx_map_snd first items

/-- An item stands under its position, counted from the first number. -/
theorem mem_numberFrom {first : Nat} {items : List α} {entry : Nat × α} :
    entry ∈ numberFrom first items ↔ first ≤ entry.1 ∧ items[entry.1 - first]? = some entry.2 := by
  rw [numberFrom, ← List.mk_mem_zipIdx_iff_le_and_getElem?_sub, List.mem_map]
  constructor
  · rintro ⟨_, hentry, rfl⟩
    exact hentry
  · exact fun hentry => ⟨_, hentry, rfl⟩

/-- Items behind others are numbered behind them. -/
theorem numberFrom_append (before after : List α) :
    numberFrom first (before ++ after) =
      numberFrom first before ++ numberFrom (first + before.length) after := by
  rw [numberFrom, List.zipIdx_append, List.map_append, Nat.add_comm]
  rfl

/-- Changed items keep their numbers. -/
theorem numberFrom_map {β : Type} (f : α → β) (items : List α) :
    numberFrom first (items.map f) =
      (numberFrom first items).map fun entry => (entry.1, f entry.2) := by
  rw [numberFrom, List.zipIdx_map, List.map_map, numberFrom, List.map_map]
  rfl

/-- An item is found under its number. -/
theorem lookup_numberFrom (index : Nat) (items : List α) :
    (numberFrom first items).lookup (first + index) = items[index]? := by
  induction items generalizing first index with
  | nil => rfl
  | cons item rest ih =>
    cases index with
    | zero => simp
    | succ index =>
      have hne : (first + (index + 1) == first) = false := by simp
      have hrest := ih (first + 1) index
      rw [Nat.add_assoc, Nat.add_comm 1 index] at hrest
      rw [numberFrom_cons, List.lookup_cons, hne, hrest]
      rfl

end Numbers

/-! ## Declarations -/

/-- A line that a keyword introduces. -/
structure Declaration where
  /-- The number of the line, counted from one. -/
  line : Nat
  keyword : String
  /-- The trimmed text after the keyword. -/
  body : List Char
  deriving DecidableEq, Repr

/-- The declaration that the first fitting keyword makes of a line. -/
def declaration? (keywords : List String) (line : Nat × List Char) : Option Declaration :=
  keywords.findSome? fun keyword =>
    (keywordBody? keyword.toList line.2).map fun body => ⟨line.1, keyword, body⟩

/-- The lines that one of several keywords introduces, in order. -/
def declarations (keywords : List String) (lines : List (Nat × List Char)) : List Declaration :=
  lines.filterMap (declaration? keywords)

end Notation
end Wardley
