import Wardley.Proofs.Sheet.Typed
import Wardley.Sheet.Index

/-!
# Positions of names on sheets of maps

On the sheet of a map every name is a text and every place has numbers, so that the table of names
and the links with and without places are those of the map.

Main definitions:

- `Index.rename`: a table with other names and values.
- `Position.place`, `ResolvedLink.onSheet`: a position and a resolved link, on a sheet.

Main results:

- `Map.index_sheet`: the table of names of a sheet.
- `Map.resolvedLinks_sheet`, `Map.danglingLinks_sheet`: the links of a sheet.
-/

namespace Wardley

open Sheet

/-! ## Tables with other names -/

namespace Index

variable {Name Name' Value Value' : Type} [BEq Name] [BEq Name']

/-- A table with other names and values. -/
def rename (name : Name → Name') (value : Value → Value') (index : Index Name Value) :
    Index Name' Value' :=
  index.map fun entry => (name entry.1, value entry.2)

variable {name : Name → Name'} (hname : ∀ a b, (name a == name b) = (a == b))
  (value : Value → Value')

include hname

/-- Asking for a renamed name finds the renamed value of the name. -/
theorem get?_rename (index : Index Name Value) (asked : Name) :
    get? (rename name value index) (name asked) = (get? index asked).map value := by
  induction index with
  | nil => rfl
  | cons entry rest ih =>
    rw [rename] at ih
    simp only [rename, List.map_cons, get?, hname, ih]
    split <;> rfl

/-- A first entry commutes with renaming. -/
theorem enter_rename (index : Index Name Value) (entered : Name) (found : Value) :
    enter (name entered) (value found) (rename name value index) =
      rename name value (enter entered found index) := by
  induction index with
  | nil => rfl
  | cons entry rest ih =>
    rw [rename] at ih
    simp only [rename, List.map_cons, enter, hname, ih]
    split <;> rfl

/-- A replacement commutes with renaming. -/
theorem replace_rename (index : Index Name Value) (entered : Name) (found : Value) :
    replace (name entered) (value found) (rename name value index) =
      rename name value (replace entered found index) := by
  induction index with
  | nil => rfl
  | cons entry rest ih =>
    rw [rename] at ih
    simp only [rename, List.map_cons, replace, hname, ih]
    split <;> rfl

end Index

/-! ## Texts as names -/

namespace Sheet

/-- The name that a text is. -/
def Name.ofText (text : String) : Name := ⟨.text text⟩

/-- Texts are one name if they are equal. -/
theorem Name.ofText_beq (a b : String) : (Name.ofText a == Name.ofText b) = (a == b) := by
  show Scalar.same (.text a) (.text b) = (a == b)
  simp only [Scalar.same, Scalar.asNumber?]
  by_cases h : a = b <;> simp [h]

/-- A record is found under a text if its name is that text. -/
theorem equals_text (a b : String) : (Document.text a).equals (.text b) = (a == b) :=
  Name.ofText_beq a b

end Sheet

/-- A position on a sheet. -/
def Position.place (position : Position) : Place :=
  ⟨.number position.maturity, .number position.visibility, position.evolved⟩

namespace Index

/-- The table of a sheet that a table of a map is. -/
def places (index : Index String Position) : Places := index.rename Name.ofText Position.place

variable (index : Index String Position) (name : String) (position : Position)

/-- The place of a name on a sheet is the place of its position. -/
theorem get?_places : get? index.places (.ofText name) = (index.get? name).map Position.place :=
  get?_rename Name.ofText_beq _ _ _

/-- A first position, entered among the places of a sheet. -/
theorem enter_places :
    enter (.ofText name) position.place index.places = (index.enter name position).places :=
  enter_rename Name.ofText_beq _ _ _ _

/-- A replaced position, replaced among the places of a sheet. -/
theorem replace_places :
    replace (.ofText name) position.place index.places = (index.replace name position).places :=
  replace_rename Name.ofText_beq _ _ _ _

end Index

/-! ## The table of names -/

namespace Map

variable (map : Map)

/-- The elements of a sheet are those of its map. -/
theorem elements_sheet : map.sheet.elements = map.elements.map Element.record := by
  simp [Sheet.elements, elementCollections, sheet, records, elements]

/-- A text finds on a sheet what it finds on the map. -/
theorem element?_sheet (name : String) :
    map.sheet.element? (.text name) = (map.element? name).map Element.record := by
  rw [Sheet.element?, elements_sheet, find?, List.find?_map, element?]
  congr 2
  funext element
  exact equals_text element.name name

/-- An element is entered at its place. -/
theorem enterElement_record (index : Index String Position) (element : Element) :
    enterElement index.places element.record =
      .ok (index.enter element.name ⟨element.maturity, element.visibility, false⟩).places := by
  rw [← Index.enter_places]
  rfl

/-- The children of a pipeline are entered at its visibility. -/
theorem enterChildren_record (index : Index String Position) (pipeline : Pipeline) :
    enterChildren index.places pipeline.record =
      .ok (pipeline.children.foldl (fun index child =>
        index.enter child.name ⟨child.maturity, pipeline.visibility, false⟩) index).places := by
  refine foldlM_map_eq_pure (fun index child => ?_) _ _
  rw [← Index.enter_places]
  rfl

/-- The name of a projection on a sheet is its name on the map. -/
theorem displayName_record (evolved : Evolved) :
    displayName evolved.record = .text evolved.displayName := by
  rcases evolved with ⟨name, maturity, override, label, line, decorators⟩
  cases override with
  | none => rfl
  | some override =>
    show (if override.isEmpty then Document.text name else .text override) =
      .text (if override.isEmpty then name else override)
    split <;> rfl

/-- A projection is entered if its source is on the map. -/
theorem enterProjection_record (index : Index String Position) (evolved : Evolved) :
    map.sheet.enterProjection index.places evolved.record =
      .ok (((map.element? evolved.name).map fun source => index.replace evolved.displayName
        ⟨evolved.maturity, source.visibility, true⟩).getD index).places := by
  have hsource : map.sheet.element? (evolved.record.value "name") =
      (map.element? evolved.name).map Element.record := map.element?_sheet evolved.name
  rw [enterProjection, hsource, displayName_record]
  cases map.element? evolved.name with
  | none => rfl
  | some source =>
    rw [Option.map_some, Option.map_some, Option.getD_some, ← Index.replace_places]
    rfl

/-- The children of all pipelines are entered as the placed children of the map. -/
theorem foldlM_enterChildren (index : Index String Position) :
    (map.sheet.records .pipelines).foldlM enterChildren index.places =
      .ok (map.placedChildren.foldl (fun index entry => index.enter entry.1 entry.2)
        index).places := by
  rw [placedChildren, List.foldl_flatMap]
  simp only [List.foldl_map]
  exact foldlM_map_eq_pure enterChildren_record _ _

/-- The evolutions are entered as the projections of the map. -/
theorem foldlM_enterProjection (index : Index String Position) :
    (map.sheet.records .evolved).foldlM map.sheet.enterProjection index.places =
      .ok (map.projections.foldl (fun index entry => index.replace entry.1 entry.2)
        index).places := by
  rw [projections, List.foldl_filterMap]
  refine foldlM_map_eq_pure (fun index evolved => ?_) _ _
  rw [enterProjection_record]
  cases map.element? evolved.name <;> rfl

/-- The table of names of a sheet is that of its map. -/
theorem index_sheet : map.sheet.index = .ok map.index.places := by
  have helements : (map.elements.map Element.record).foldlM enterElement [] =
      .ok map.indexElements.places := foldlM_map_eq_pure enterElement_record map.elements []
  rw [Sheet.index, elements_sheet, helements, ok_bind, foldlM_enterChildren, ok_bind,
    foldlM_enterProjection]
  rfl

end Map

/-! ## Links -/

/-- A resolved link on a sheet. -/
def ResolvedLink.onSheet (resolved : ResolvedLink) : Sheet.ResolvedLink :=
  ⟨resolved.link.record, resolved.start.place, resolved.finish.place⟩

section Links

variable (index : Index String Position) (link : Link)

/-- The start of a link is read as a name. -/
theorem Link.asName_start : asName (link.record.value "start") = .ok (.ofText link.start) := rfl

/-- The end of a link is read as a name. -/
theorem Link.asName_finish : asName (link.record.value "end") = .ok (.ofText link.finish) := rfl

/-- A link is resolved on a sheet as on the map. -/
theorem Link.resolve?_record :
    Sheet.resolve? index.places link.record =
      .ok ((link.resolve? index).map ResolvedLink.onSheet) := by
  rw [Sheet.resolve?, asName_start, asName_finish, ok_bind, ok_bind, Index.get?_places,
    Index.get?_places, Link.resolve?]
  cases index.get? link.start <;> cases index.get? link.finish <;> rfl

/-- A link dangles on a sheet if it does on the map. -/
theorem Link.isDangling_record :
    isDangling index.places link.record =
      .ok ((index.get? link.start).isNone || (index.get? link.finish).isNone) := by
  rw [Sheet.isDangling, asName_start, asName_finish, ok_bind, ok_bind, Index.get?_places,
    Index.get?_places]
  cases index.get? link.start <;> simp

end Links

namespace Map

variable (map : Map)

/-- The resolved links of a sheet are those of its map. -/
theorem resolvedLinks_sheet :
    map.sheet.resolvedLinks = .ok (map.resolvedLinks.map ResolvedLink.onSheet) := by
  rw [Sheet.resolvedLinks, index_sheet, ok_bind, resolvedLinks, List.map_filterMap]
  exact filterMapM_map_eq_ok (Link.resolve?_record map.index) map.links

/-- The dangling links of a sheet are those of its map. -/
theorem danglingLinks_sheet :
    map.sheet.danglingLinks map.index.places = .ok (map.danglingLinks.map Link.record) :=
  filterM_map_eq_ok (Link.isDangling_record map.index) map.links

end Map

end Wardley
