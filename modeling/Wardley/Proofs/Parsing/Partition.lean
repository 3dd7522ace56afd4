import Wardley.Proofs.Parsing.Consistency
import Wardley.Proofs.Parsing.Coverage

/-!
# Unifying shares out the declared elements

Unifying puts every declared element of a draft into the collection of its class, in the
order of the declarations, and changes little else.  This holds of every draft, not only
of one that was read from a text: its lists may hold elements of any kind, with or
without decorators, which already evolve or head a pipeline.

Main definitions:

- `Element.carries`: an element has a decorator, or its keyword means it.
- `Element.declaredClass`: the class that an element is declared with.
- `Draft.Unifies`: how an element may differ from its declaration.
- `Draft.Partition`: a map shares out the declared elements of a draft.

Main results:

- `Draft.unifies_unifyElement`: the fields of an element that unifying changes.
- `Draft.unify_partition`: the map of a draft shares out its declared elements.
-/

namespace Wardley

/-! ## Classes of declarations -/

/-- The decorator that a declaring keyword means. -/
def ElementKind.decorator? : ElementKind → Option Decorator
  | .market => some .market
  | .ecosystem => some .ecosystem
  | .component | .anchor | .submap => none

/-- A decorator is written on an element, or the keyword of the element means it. -/
def Element.carries (element : Element) (decorator : Decorator) : Bool :=
  element.hasDecorator decorator || element.kind.decorator? == some decorator

/-- The class of a declared element: an ecosystem, else a market, else what its keyword says. -/
def Element.declaredClass (element : Element) : ElementKind :=
  if element.carries .ecosystem then .ecosystem
  else if element.carries .market then .market
  else element.kind

namespace Draft

theorem has_withKeywordFlag (kind : ElementKind) (flags : Decorators) (decorator : Decorator) :
    (withKeywordFlag kind flags).has decorator =
      (flags.has decorator || kind.decorator? == some decorator) := by
  cases kind with
  | component | anchor | submap => exact (Bool.or_false _).symm
  | market | ecosystem =>
      rw [withKeywordFlag, Decorators.has_mark, Bool.or_comm]
      rfl

/-- Decorators that are not written count as unset. -/
theorem has_getD_decorators (element : Element) (decorator : Decorator) :
    (element.decorators.getD .unset).has decorator = element.hasDecorator decorator := by
  unfold Element.hasDecorator
  cases element.decorators with
  | none => exact Decorators.has_unset decorator
  | some flags => rfl

/-- The flags of a unified element are the decorators that its declaration carries. -/
theorem has_flags (declared : Element) (decorator : Decorator) :
    (withKeywordFlag declared.kind (declared.decorators.getD .unset)).has decorator =
      declared.carries decorator := by
  rw [has_withKeywordFlag, has_getD_decorators]
  rfl

theorem kind_unifyElement_eq (draft : Draft) (declared : Element) :
    (draft.unifyElement declared).kind = declared.declaredClass := by
  have hecosystem := has_flags declared .ecosystem
  have hmarket := has_flags declared .market
  simp only [Decorators.has] at hecosystem hmarket
  simp only [unifyElement, Element.classify, Element.declaredClass, hecosystem, hmarket]

/-! ## Single records -/

/--
How an element may differ from its declaration: in its decorators, in its kind, and in
what the evolutions and pipelines of the draft say about its name.
-/
structure Unifies (draft : Draft) (declared unified : Element) : Prop where
  /-- All other fields are those of the declaration. -/
  frame : unified = { declared with
    kind := unified.kind
    decorators := unified.decorators
    evolving := unified.evolving
    evolveMaturity := unified.evolveMaturity
    pipeline := unified.pipeline }
  decorators : ∃ flags, unified.decorators = some flags ∧
    ∀ decorator, flags.has decorator = declared.carries decorator
  kind_eq : unified.kind = declared.declaredClass
  pipeline_iff : unified.pipeline = true ↔
    ∃ pipeline ∈ draft.pipelines, pipeline.name = declared.name
  /-- The first evolution that names the element tells where it moves. -/
  evolves : ∀ evolved,
    (draft.evolved.find? fun evolved => evolved.name == declared.name) = some evolved →
      unified.evolving = true ∧ unified.evolveMaturity = some evolved.maturity
  /-- An element that no evolution names keeps what it says about evolving. -/
  stays : (∀ evolved ∈ draft.evolved, evolved.name ≠ declared.name) →
    unified.evolving = declared.evolving ∧ unified.evolveMaturity = declared.evolveMaturity

/-- Unifying changes an element in these ways only. -/
theorem unifies_unifyElement (draft : Draft) (declared : Element) :
    draft.Unifies declared (draft.unifyElement declared) where
  frame := rfl
  decorators := ⟨_, rfl, has_flags declared⟩
  kind_eq := kind_unifyElement_eq draft declared
  pipeline_iff := by simp [unifyElement, headsPipeline]
  evolves := by
    intro evolved hfind
    have htarget : draft.evolveTarget? declared.name = some evolved.maturity := by
      rw [evolveTarget?, hfind]
      rfl
    simp [unifyElement, htarget]
  stays := by
    intro hnone
    have htarget : draft.evolveTarget? declared.name = none := by
      simpa [evolveTarget?] using hnone
    simp [unifyElement, htarget]

/-- An evolution differs from the one written in that it has decorators. -/
def UnifiesEvolved (written unified : Evolved) : Prop :=
  unified = { written with decorators := some (written.decorators.getD .unset) }

/-- A pipeline differs from the declared one in its range only, which is known. -/
structure UnifiesPipeline (declared unified : Pipeline) : Prop where
  frame : unified = { declared with
    maturity1 := unified.maturity1
    maturity2 := unified.maturity2 }
  range : unified.maturity1.isSome ∧ unified.maturity2.isSome

/-! ## Maps -/

/-- A map shares out the declared elements of a draft by class and keeps all other records. -/
structure Partition (draft : Draft) (map : Map) : Prop where
  /-- A collection has the declared elements of its class, in the order of the draft. -/
  collection : ∀ kind, List.Forall₂ draft.Unifies
    (draft.declared.filter fun element => element.declaredClass == kind) (map.collection kind)
  /-- Together the collections have every declared element once. -/
  elements : ∃ unified, List.Forall₂ draft.Unifies draft.declared unified ∧
    map.elements.Perm unified
  length_elements : map.elements.length = draft.declared.length
  evolved : List.Forall₂ UnifiesEvolved draft.evolved map.evolved
  pipelines : List.Forall₂ UnifiesPipeline draft.pipelines map.pipelines
  title : map.title = draft.title
  presentation : map.presentation = draft.presentation
  links : map.links = draft.links
  annotations : map.annotations = draft.annotations
  notes : map.notes = draft.notes
  methods : map.methods = draft.methods
  urls : map.urls = draft.urls
  attitudes : map.attitudes = draft.attitudes
  accelerators : map.accelerators = draft.accelerators
  errors : map.errors = draft.errors

/-- A list and its image are related item by item. -/
theorem forall₂_map_of_forall {α β : Type} {R : α → β → Prop} {f : α → β} (h : ∀ a, R a (f a))
    (items : List α) : List.Forall₂ R items (items.map f) :=
  List.forall₂_map_right_iff.2 (List.forall₂_same.2 fun a _ => h a)

/-- A collection holds the unified declarations of its class. -/
theorem ofClass_eq_map_filter (draft : Draft) (kind : ElementKind) :
    draft.ofClass kind =
      (draft.declared.filter fun element => element.declaredClass == kind).map
        draft.unifyElement := by
  rw [ofClass, List.filter_map]
  congr 2
  funext declared
  rw [Function.comp, kind_unifyElement_eq]

/-- The map of every draft shares out the declared elements of the draft. -/
theorem unify_partition (draft : Draft) : draft.Partition draft.unify where
  collection := by
    intro kind
    rw [collection_unify, ofClass_eq_map_filter]
    exact forall₂_map_of_forall draft.unifies_unifyElement _
  elements :=
    ⟨_, forall₂_map_of_forall draft.unifies_unifyElement _, draft.elements_unify_perm⟩
  length_elements := by
    rw [draft.elements_unify_perm.length_eq, List.length_map]
  evolved := forall₂_map_of_forall (R := UnifiesEvolved) (fun _ => rfl) _
  pipelines := forall₂_map_of_forall (fun _ => ⟨rfl, rfl, rfl⟩) _
  title := rfl
  presentation := rfl
  links := rfl
  annotations := rfl
  notes := rfl
  methods := rfl
  urls := rfl
  attitudes := rfl
  accelerators := rfl
  errors := rfl

/-- A market with the decorator of an ecosystem is an ecosystem, in whichever list it stands. -/
example : ({ anchors := [{
    name := "A"
    kind := .market
    maturity := 0
    visibility := 0
    decorators := some (Decorators.unset.mark .ecosystem) }] } : Draft).unify.ecosystems.map
      (fun element => (element.name, element.hasDecorator .market)) = [("A", true)] := by
  decide

end Draft

end Wardley
