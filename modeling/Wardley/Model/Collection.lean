/-!
# Collections of a map

The entries of a map stand in collections, which have names in documents.

Main definitions:

- `Collection`: the collections, in the order of documents.
- `Collection.name`, `Collection.ofName?`: their names.
-/

namespace Wardley

/-- The collections of a map. -/
inductive Collection where
  | evolution
  | components
  | anchors
  | submaps
  | markets
  | ecosystems
  | evolved
  | pipelines
  | links
  | annotations
  | notes
  | methods
  | urls
  | attitudes
  | accelerators
  | errors
  deriving DecidableEq, Repr

namespace Collection

/-- All collections. -/
def all : List Collection :=
  [evolution, components, anchors, submaps, markets, ecosystems, evolved, pipelines, links,
   annotations, notes, methods, urls, attitudes, accelerators, errors]

/-- The name of a collection. -/
def name : Collection → String
  | evolution => "evolution"
  | components => "components"
  | anchors => "anchors"
  | submaps => "submaps"
  | markets => "markets"
  | ecosystems => "ecosystems"
  | evolved => "evolved"
  | pipelines => "pipelines"
  | links => "links"
  | annotations => "annotations"
  | notes => "notes"
  | methods => "methods"
  | urls => "urls"
  | attitudes => "attitudes"
  | accelerators => "accelerators"
  | errors => "errors"

/-- The collection of a name. -/
def ofName? (name : String) : Option Collection :=
  all.find? fun collection => collection.name == name

/-- The name of a collection is read as the collection. -/
@[simp] theorem ofName?_name (collection : Collection) :
    ofName? collection.name = some collection := by
  cases collection <;> decide

end Collection

end Wardley
