import Wardley.Model.Map

/-!
# From drafts to maps

A draft becomes a map by sorting its elements into the five collections by class.  The
class of an element is given by its decorators before its keyword: an ecosystem
flag makes it an ecosystem, else a market flag makes it a market.  Elements learn
whether they evolve and whether they head a pipeline, pipelines learn their extent,
and evolutions and elements without decorators get none set.

Main definitions:

- `Element.classify`: the class of an element.
- `Draft.unify`: the map of a draft.

Main results:

- `Draft.mem_collection_unify`: an element is in a collection exactly when it is the
  unified form of a declared element of that class.
-/

namespace Wardley

/-- The class of an element: its decorators decide before its keyword. -/
def Element.classify (element : Element) : ElementKind :=
  match element.decorators with
  | some flags =>
    if flags.ecosystem then .ecosystem
    else if flags.market then .market
    else element.kind
  | none => element.kind

namespace Draft

/-- The flag that a declaring keyword implies. -/
def withKeywordFlag (kind : ElementKind) (flags : Decorators) : Decorators :=
  match kind with
  | .market => flags.mark .market
  | .ecosystem => flags.mark .ecosystem
  | _ => flags

/-- The maturity of the first evolution of a name. -/
def evolveTarget? (draft : Draft) (name : String) : Option Number :=
  (draft.evolved.find? fun evolved => evolved.name == name).map Evolved.maturity

/-- A pipeline has the name. -/
def headsPipeline (draft : Draft) (name : String) : Bool :=
  draft.pipelines.any fun pipeline => pipeline.name == name

/-- An element with its decorators, its class and what evolutions and pipelines say of it. -/
def unifyElement (draft : Draft) (element : Element) : Element :=
  let decorated := { element with
    decorators := some (withKeywordFlag element.kind (element.decorators.getD .unset)) }
  let target := draft.evolveTarget? element.name
  { decorated with
    kind := decorated.classify
    evolving := element.evolving || target.isSome
    evolveMaturity := target.or element.evolveMaturity
    pipeline := draft.headsPipeline element.name }

/-- An evolution with its decorators. -/
def unifyEvolved (evolved : Evolved) : Evolved :=
  { evolved with decorators := some (evolved.decorators.getD .unset) }

/-- A pipeline with its extent. -/
def unifyPipeline (pipeline : Pipeline) : Pipeline :=
  { pipeline with
    maturity1 := some pipeline.extent.1
    maturity2 := some pipeline.extent.2 }

/-- The unified elements of a class, in the order of their declarations. -/
def ofClass (draft : Draft) (kind : ElementKind) : List Element :=
  (draft.declared.map draft.unifyElement).filter fun element => element.kind == kind

/-- The map of a draft. -/
def unify (draft : Draft) : Map where
  title := draft.title
  presentation := draft.presentation
  evolution := if draft.evolution.length = 4 then draft.evolution else AxisLabel.standard
  components := draft.ofClass .component
  anchors := draft.ofClass .anchor
  submaps := draft.ofClass .submap
  markets := draft.ofClass .market
  ecosystems := draft.ofClass .ecosystem
  evolved := draft.evolved.map unifyEvolved
  pipelines := draft.pipelines.map unifyPipeline
  links := draft.links
  annotations := draft.annotations
  notes := draft.notes
  methods := draft.methods
  urls := draft.urls
  attitudes := draft.attitudes
  accelerators := draft.accelerators
  errors := draft.errors

/-- The elements of a kind in a unified map are the elements of that class. -/
@[simp] theorem collection_unify (draft : Draft) (kind : ElementKind) :
    draft.unify.collection kind = draft.ofClass kind := by
  cases kind <;> rfl

/-- A collection holds the unified forms of the declared elements of its class. -/
theorem mem_collection_unify {draft : Draft} {kind : ElementKind} {element : Element} :
    element ∈ draft.unify.collection kind ↔
      element.kind = kind ∧ ∃ declared ∈ draft.declared, draft.unifyElement declared = element := by
  simp [ofClass, and_comm]

end Draft

end Wardley
