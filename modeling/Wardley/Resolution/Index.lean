import Wardley.Model.Map

/-!
# Positions of names

Links are drawn between names.  A name is found among the projections of evolutions,
then among the positioned elements, then among the children of pipelines; of several
projections of one name the last counts, of all others the first.

Main definitions:

- `Index`: tables of names.
- `Position`, `Map.index`: the table of all names of a map.
- `Map.position?`: the place of a name.
- `Map.resolvedLinks`, `Map.danglingLinks`: links with and without places.

Main results:

- `Index.get?_enter`, `Index.get?_replace`: what the two ways of entering a name do to a table.
-/

namespace Wardley

/-- Where a name is drawn. -/
structure Position where
  maturity : Number
  visibility : Number
  /-- The place is a projection. -/
  evolved : Bool := false
  deriving DecidableEq, Repr, Inhabited

/-- A table from names to values; every name occurs once. -/
abbrev Index (Name Value : Type) := List (Name × Value)

namespace Index

variable {Name Value : Type} [BEq Name]

/-- The value of a name. -/
def get? : Index Name Value → Name → Option Value
  | [], _ => none
  | entry :: rest, name => if name == entry.1 then some entry.2 else get? rest name

/-- Enters a name unless the table has it. -/
def enter (name : Name) (value : Value) : Index Name Value → Index Name Value
  | [] => [(name, value)]
  | entry :: rest => if name == entry.1 then entry :: rest else entry :: enter name value rest

/-- Enters a name in place of an earlier entry. -/
def replace (name : Name) (value : Value) : Index Name Value → Index Name Value
  | [] => [(name, value)]
  | entry :: rest =>
    if name == entry.1 then (entry.1, value) :: rest else entry :: replace name value rest

/-- Entering a name gives it the value unless it had one. -/
theorem get?_enter [LawfulBEq Name] (name : Name) (value : Value) (index : Index Name Value)
    (asked : Name) :
    get? (enter name value index) asked =
      (get? index asked).or (if asked == name then some value else none) := by
  induction index with
  | nil => simp [get?, enter]
  | cons entry rest ih => by_cases he : name = entry.1 <;> grind [get?, enter]

/-- Replacing a name gives it the value wherever it was before. -/
theorem get?_replace [LawfulBEq Name] (name : Name) (value : Value) (index : Index Name Value)
    (asked : Name) :
    get? (replace name value index) asked =
      if asked == name then some value else get? index asked := by
  induction index with
  | nil => simp [get?, replace]
  | cons entry rest ih => by_cases he : name = entry.1 <;> grind [get?, replace]

end Index

namespace Map

/-- Enters the elements of a map. -/
def indexElements (map : Map) : Index String Position :=
  map.elements.foldl
    (fun index element =>
      index.enter element.name ⟨element.maturity, element.visibility, false⟩) []

/-- The children of all pipelines, each at the visibility of its pipeline. -/
def placedChildren (map : Map) : List (String × Position) :=
  map.pipelines.flatMap fun pipeline =>
    pipeline.children.map fun child => (child.name, ⟨child.maturity, pipeline.visibility, false⟩)

/-- The projections of all evolutions whose source is on the map. -/
def projections (map : Map) : List (String × Position) :=
  map.evolved.filterMap fun evolved =>
    (map.element? evolved.name).map fun source =>
      (evolved.displayName, ⟨evolved.maturity, source.visibility, true⟩)

/-- The table of all names of a map. -/
def index (map : Map) : Index String Position :=
  let named := map.placedChildren.foldl
    (fun index entry => index.enter entry.1 entry.2) map.indexElements
  map.projections.foldl (fun index entry => index.replace entry.1 entry.2) named

/-- The place of a name on a map. -/
def position? (map : Map) (name : String) : Option Position := map.index.get? name

end Map

/-! ## Links -/

/-- A link with the places of both of its ends. -/
structure ResolvedLink where
  link : Link
  start : Position
  finish : Position
  deriving DecidableEq, Repr

/-- A link with the places of its ends, if a table has both. -/
def Link.resolve? (link : Link) (index : Index String Position) : Option ResolvedLink :=
  match index.get? link.start, index.get? link.finish with
  | some start, some finish => some ⟨link, start, finish⟩
  | _, _ => none

namespace Map

/-- The links of a map of which both ends have a place. -/
def resolvedLinks (map : Map) : List ResolvedLink :=
  let index := map.index
  map.links.filterMap fun link => link.resolve? index

/-- The links of a map of which an end has no place. -/
def danglingLinks (map : Map) : List Link :=
  let index := map.index
  map.links.filter fun link =>
    (index.get? link.start).isNone || (index.get? link.finish).isNone

end Map

end Wardley
