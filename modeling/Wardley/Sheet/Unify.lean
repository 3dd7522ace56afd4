import Wardley.Model.Relation
import Wardley.Sheet.Index
import Wardley.Sheet.Reading

/-!
# Sheets of drafts

The sheet of a draft becomes the sheet of a map as a draft becomes a map: its elements stand
as components, and are sorted into the collections of their classes.

Main definitions:

- `Record.classify`: the class of an element.
- `Record.extent`: the range of a pipeline.
- `Sheet.unify`: the sheet of a map.
-/

namespace Wardley
namespace Sheet

/-! ## Elements -/

/-- The kind of an element. -/
def Record.kind (element : Record) : ElementKind :=
  match element.get "kind" with
  | .cell (.kind found) => found
  | _ => .component

/-- The parts of the decorators of a record; none if it has no decorators. -/
def Record.decorators (record : Record) : List (String × Document) :=
  match record.get "decorators" with
  | .cell (.group parts) => parts
  | _ => []

/-- A decorator is set: its part counts as something. -/
def isSet (parts : List (String × Document)) (decorator : Decorator) : Bool :=
  match parts.lookup decorator.word with
  | some found => !found.isEmpty
  | none => false

/-- The class of an element: its decorators decide before its kind. -/
def Record.classify (element : Record) : ElementKind :=
  if isSet element.decorators .ecosystem then .ecosystem
  else if isSet element.decorators .market then .market
  else element.kind

/-- Decorators with one of them set. -/
def markPart (decorator : Decorator) (parts : List (String × Document)) :
    List (String × Document) :=
  parts.map fun part => if part.1 = decorator.word then (part.1, .bool true) else part

/-- Decorators with the one that a declaring keyword implies. -/
def markKeyword (kind : ElementKind) (parts : List (String × Document)) :
    List (String × Document) :=
  match kind with
  | .market => markPart .market parts
  | .ecosystem => markPart .ecosystem parts
  | _ => parts

/-- A record with decorators, none of them set unless it had some. -/
def Record.withDecorators (record : Record) : Record :=
  match record.get "decorators" with
  | .cell (.group _) => record
  | _ => record.put "decorators" (.cell unsetDecorators)

/-- An element with its decorators and its class. -/
def Record.classified (element : Record) : Record :=
  let decorated := element.withDecorators
  let parts := markKeyword element.kind decorated.decorators
  let marked := decorated.put "decorators" (.cell (.group parts))
  marked.put "kind" (.cell (.kind marked.classify))

/-- An element with its class and what evolutions and pipelines say of it. -/
def unifyElement (targets : Index Name Document) (pipelines : List Name) (element : Record) :
    Except Fault Record := do
  let name ← element.name
  let classified := element.classified
  let evolving :=
    match targets.get? name with
    | some maturity =>
      (classified.put "evolving" (.cell (.datum (.bool true)))).put "evolve_maturity"
        (.cell (.datum maturity))
    | none => classified
  pure (evolving.put "pipeline" (.cell (.datum (.bool (pipelines.contains name)))))

/-! ## Pipelines -/

/-- The least or the greatest of documents, by a choice between two of them. -/
def choose (choice : Document → Document → Option Document) (first : Document)
    (others : List Document) : Except Fault Document :=
  match others.foldlM choice first with
  | some found => .ok found
  | none => .error .otherType

/-- The range of maturity of a pipeline: that of its children, else the declared one. -/
def Record.extent (pipeline : Record) : Except Fault (Document × Document) := do
  let children ← (pipeline.get "components").rows?
  match children.map fun child => child.value "maturity" with
  | first :: others =>
    let lowest ← choose Document.lower? first others
    let highest ← choose Document.upper? first others
    pure (lowest, highest)
  | [] =>
    let lowest := pipeline.value "maturity1"
    let highest := pipeline.value "maturity2"
    if lowest.isNull || highest.isNull then
      pure (.number standardExtent.1, .number standardExtent.2)
    else pure (lowest, highest)

/-- A pipeline with its extent. -/
def unifyPipeline (pipeline : Record) : Except Fault Record := do
  let (lowest, highest) ← pipeline.extent
  pure ((pipeline.put "maturity1" (.cell (.datum lowest))).put "maturity2"
    (.cell (.datum highest)))

/-! ## Sheets -/

/-- Enters the maturity of an evolution unless its name has one. -/
def enterTarget (targets : Index Name Document) (evolved : Record) :
    Except Fault (Index Name Document) := do
  pure (targets.enter (← evolved.name) (evolved.value "maturity"))

/-- The maturities of the first evolutions of all names. -/
def evolveTargets (sheet : Sheet) : Except Fault (Index Name Document) :=
  (sheet.records .evolved).foldlM enterTarget []

/-- The collection of the elements of a class. -/
def collectionOf : ElementKind → Collection
  | .component => .components
  | .anchor => .anchors
  | .submap => .submaps
  | .market => .markets
  | .ecosystem => .ecosystems

/-- The sheet of a map that the sheet of a draft becomes. -/
def unify (draft : Sheet) : Except Fault Sheet := do
  let targets ← draft.evolveTargets
  let names ← (draft.records .pipelines).mapM Record.name
  let elements ← draft.elements.mapM (unifyElement targets names)
  let pipelines ← (draft.records .pipelines).mapM unifyPipeline
  let evolved := (draft.records .evolved).map Record.withDecorators
  let axis := draft.records .evolution
  let settled := ((draft.put .pipelines pipelines).put .evolved evolved).put .evolution
    (if axis.length = 4 then axis else standardAxis)
  pure (ElementKind.all.foldl (fun sheet kind =>
    sheet.put (collectionOf kind) (elements.filter fun element => element.kind == kind)) settled)

end Sheet
end Wardley
