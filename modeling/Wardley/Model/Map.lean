import Wardley.Model.Marking
import Wardley.Model.Relation

/-!
# Maps

A map lists its positioned elements in five collections by kind, beside relations,
markings and settings.  A `Draft` is what a map text says before its elements are
classified: declarations stand in the collection of their keyword.

Main definitions:

- `Map`, `Draft`.
- `Map.elements`: all positioned elements, in the order of the collections.
- `Map.element?`, `Map.pipeline?`, `Map.url?`: the first of a name.
-/

namespace Wardley

/-- The title of a map that has none. -/
def standardTitle : String := "Untitled Map"

/-- A map with its elements classified. -/
structure Map where
  title : String := standardTitle
  presentation : Presentation := {}
  evolution : List AxisLabel := AxisLabel.standard
  components : List Element := []
  anchors : List Element := []
  submaps : List Element := []
  markets : List Element := []
  ecosystems : List Element := []
  evolved : List Evolved := []
  pipelines : List Pipeline := []
  links : List Link := []
  annotations : List Annotation := []
  notes : List Note := []
  methods : List Method := []
  urls : List Url := []
  attitudes : List Attitude := []
  accelerators : List Accelerator := []
  errors : List Diagnostic := []
  deriving DecidableEq, Repr, Inhabited

namespace Map

/-- All positioned elements, in the order of the collections. -/
def elements (map : Map) : List Element :=
  map.components ++ map.anchors ++ map.submaps ++ map.markets ++ map.ecosystems

/-- The collection of a kind. -/
def collection (map : Map) : ElementKind → List Element
  | .component => map.components
  | .anchor => map.anchors
  | .submap => map.submaps
  | .market => map.markets
  | .ecosystem => map.ecosystems

/-- The elements of a map are those of its kinds, one kind after the other. -/
theorem elements_eq_flatMap (map : Map) :
    map.elements = ElementKind.all.flatMap map.collection := by
  simp [elements, ElementKind.all, collection]

/-- The first positioned element of a name. -/
def element? (map : Map) (name : String) : Option Element :=
  map.elements.find? fun element => element.name == name

/-- The first pipeline of a name. -/
def pipeline? (map : Map) (name : String) : Option Pipeline :=
  map.pipelines.find? fun pipeline => pipeline.name == name

/-- The first address of a name. -/
def url? (map : Map) (name : String) : Option Url :=
  map.urls.find? fun url => url.name == name

end Map

/-- The content of a map text before its elements are classified. -/
structure Draft where
  title : String := standardTitle
  /-- Labels of the evolution axis; none when none were written. -/
  evolution : List AxisLabel := []
  presentation : Presentation := {}
  notes : List Note := []
  annotations : List Annotation := []
  /-- Components, markets and ecosystems by their keyword. -/
  elements : List Element := []
  /-- Pipelines with the range they declare. -/
  pipelines : List Pipeline := []
  evolved : List Evolved := []
  anchors : List Element := []
  links : List Link := []
  submaps : List Element := []
  urls : List Url := []
  attitudes : List Attitude := []
  accelerators : List Accelerator := []
  methods : List Method := []
  errors : List Diagnostic := []
  deriving DecidableEq, Repr, Inhabited

/-- All declared elements, in the order of the collections. -/
def Draft.declared (draft : Draft) : List Element :=
  draft.elements ++ draft.anchors ++ draft.submaps

end Wardley
