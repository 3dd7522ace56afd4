import Wardley.Resolution.Index

/-!
# Precedence of names

The table of a map is filled name by name.  Of several entries of a name, entering keeps
the first and replacing keeps the last, so that a name is placed by the last projection
drawn under it, else by the first element that carries it, else by the first child.

Main results:

- `Index.get?_foldl_enter`, `Index.get?_foldl_replace`: tables that are filled in one run.
- `Map.position?_eq`: the place of a name.
-/

namespace Wardley

namespace Index

variable {Name Value : Type} [BEq Name] [LawfulBEq Name]

/-- In a run of entering, the first entry of a name counts. -/
theorem get?_foldl_enter (entries : List (Name × Value)) (index : Index Name Value)
    (asked : Name) :
    get? (entries.foldl (fun index entry => index.enter entry.1 entry.2) index) asked =
      (get? index asked).or ((entries.find? fun entry => entry.1 == asked).map Prod.snd) := by
  induction entries generalizing index with
  | nil => simp
  | cons entry rest ih =>
      rw [List.foldl_cons, ih, get?_enter, Option.or_assoc]
      by_cases hname : entry.1 = asked
      · simp [hname]
      · simp [hname, Ne.symm hname]

/-- In a run of replacing, the last entry of a name counts. -/
theorem get?_foldl_replace (entries : List (Name × Value)) (index : Index Name Value)
    (asked : Name) :
    get? (entries.foldl (fun index entry => index.replace entry.1 entry.2) index) asked =
      ((entries.reverse.find? fun entry => entry.1 == asked).map Prod.snd).or
        (get? index asked) := by
  induction entries generalizing index with
  | nil => rfl
  | cons entry rest ih =>
      rw [List.foldl_cons, ih, get?_replace, List.reverse_cons, List.find?_append]
      cases rest.reverse.find? fun entry => entry.1 == asked with
      | some found => rfl
      | none =>
          by_cases hname : entry.1 = asked
          · simp [hname]
          · simp [hname, Ne.symm hname]

end Index

/-- An element as it is entered: its name with its place. -/
def Element.placed (element : Element) : String × Position :=
  (element.name, ⟨element.maturity, element.visibility, false⟩)

namespace Map

/-- The last projection of a name counts, else its first element, else its first child. -/
theorem position?_eq (map : Map) (name : String) :
    map.position? name =
      ((map.projections.reverse.find? fun entry => entry.1 == name).map Prod.snd).or
        (((map.elements.map Element.placed ++ map.placedChildren).find? fun entry =>
          entry.1 == name).map Prod.snd) := by
  have helements : map.indexElements =
      (map.elements.map Element.placed).foldl
        (fun index entry => Index.enter entry.1 entry.2 index) [] := by
    rw [List.foldl_map]
    rfl
  rw [position?, index, Index.get?_foldl_replace, helements, ← List.foldl_append,
    Index.get?_foldl_enter]
  rfl

end Map

end Wardley
