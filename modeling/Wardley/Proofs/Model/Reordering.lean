import Mathlib.Data.List.Nodup
import Mathlib.Data.List.Perm.Basic
import Wardley.Proofs.Model.Lines

/-!
# Records in another order

Names tell records apart only where no two records share one.  There, the first record of
a name is the only one, so that looking up a name does not depend on the order of the
records, and drafts with the same records have maps with the same records.

Main definitions:

- `noLine`: forgets the number of a line.
- `Draft.Reorders`, `Map.Reorders`: the same settings, and the same records in any order.

Main results:

- `find?_key_perm`: looking up a key in another order.
- `Draft.Reorders.unify`: the map of a draft in another order.
-/

namespace Wardley

/-! ## Keys -/

section Keys

variable {α : Type} {key : α → String} {records others : List α}

/-- Among records with distinct keys, the first of a key is the only one. -/
theorem find?_key_eq_some_iff (hkeys : (records.map key).Nodup) {name : String} {record : α} :
    (records.find? fun other => key other == name) = some record ↔
      record ∈ records ∧ key record = name := by
  constructor
  · intro h
    exact ⟨List.mem_of_find?_eq_some h, by simpa using List.find?_some h⟩
  · rintro ⟨hmem, rfl⟩
    cases hfind : records.find? fun other => key other == key record with
    | none => exact absurd (List.find?_eq_none.1 hfind record hmem) (by simp)
    | some first =>
        have hkey : key first = key record := by simpa using List.find?_some hfind
        rw [List.inj_on_of_nodup_map hkeys (List.mem_of_find?_eq_some hfind) hmem hkey]

/-- Records with distinct keys are found in any order. -/
theorem find?_key_perm (h : records.Perm others) (hkeys : (records.map key).Nodup)
    (name : String) :
    (records.find? fun record => key record == name) =
      others.find? fun record => key record == name := by
  have hother : (others.map key).Nodup := (h.map key).nodup_iff.1 hkeys
  refine Option.ext fun record => ?_
  rw [find?_key_eq_some_iff hkeys, find?_key_eq_some_iff hother, h.mem_iff]

/-- A key is found in any order, even if several records share it. -/
theorem isSome_find?_perm (h : records.Perm others) (name : String) :
    (records.find? fun record => key record == name).isSome =
      (others.find? fun record => key record == name).isSome := by
  rw [Bool.eq_iff_iff, List.find?_isSome, List.find?_isSome]
  simp only [h.mem_iff]

end Keys

/-! ## Drafts and maps -/

/-- The same number for every line, so that renaming forgets where records stood. -/
def noLine (_ : Nat) : Nat := 0

/-- Two drafts say the same in different orders. -/
structure Draft.Reorders (draft other : Draft) : Prop where
  title : draft.title = other.title
  evolution : draft.evolution = other.evolution
  presentation : draft.presentation = other.presentation
  notes : draft.notes.Perm other.notes
  annotations : draft.annotations.Perm other.annotations
  elements : draft.elements.Perm other.elements
  pipelines : draft.pipelines.Perm other.pipelines
  evolved : draft.evolved.Perm other.evolved
  anchors : draft.anchors.Perm other.anchors
  links : draft.links.Perm other.links
  submaps : draft.submaps.Perm other.submaps
  urls : draft.urls.Perm other.urls
  attitudes : draft.attitudes.Perm other.attitudes
  accelerators : draft.accelerators.Perm other.accelerators
  methods : draft.methods.Perm other.methods
  errors : draft.errors.Perm other.errors

/-- Two maps have the same settings, and the same records in different orders. -/
structure Map.Reorders (map other : Map) : Prop where
  title : map.title = other.title
  presentation : map.presentation = other.presentation
  evolution : map.evolution = other.evolution
  collection : ∀ kind, (map.collection kind).Perm (other.collection kind)
  evolved : map.evolved.Perm other.evolved
  pipelines : map.pipelines.Perm other.pipelines
  links : map.links.Perm other.links
  annotations : map.annotations.Perm other.annotations
  notes : map.notes.Perm other.notes
  methods : map.methods.Perm other.methods
  urls : map.urls.Perm other.urls
  attitudes : map.attitudes.Perm other.attitudes
  accelerators : map.accelerators.Perm other.accelerators
  errors : map.errors.Perm other.errors

theorem Map.Reorders.elements {map other : Map} (h : map.Reorders other) :
    map.elements.Perm other.elements := by
  rw [elements_eq_flatMap, elements_eq_flatMap]
  exact List.Perm.flatMap_left _ fun kind _ => h.collection kind

namespace Draft.Reorders

variable {draft other : Draft} (h : draft.Reorders other)
include h

theorem declared : draft.declared.Perm other.declared :=
  (h.elements.append h.anchors).append h.submaps

/-- Pipelines head the same elements in any order. -/
theorem headsPipeline : draft.headsPipeline = other.headsPipeline := by
  funext name
  rw [Bool.eq_iff_iff, Draft.headsPipeline, Draft.headsPipeline, List.any_eq_true,
    List.any_eq_true]
  simp only [h.pipelines.mem_iff]

variable (hnames : (draft.evolved.map Evolved.name).Nodup)
include hnames

/-- Evolutions of different elements tell the same targets in any order. -/
theorem evolveTarget? : draft.evolveTarget? = other.evolveTarget? := by
  funext name
  exact congrArg (Option.map Evolved.maturity) (find?_key_perm h.evolved hnames name)

/-- The map of a draft in another order has the same records in another order. -/
theorem unify : draft.unify.Reorders other.unify := by
  have hunify : draft.unifyElement = other.unifyElement := by
    funext element
    rw [unifyElement, unifyElement, h.headsPipeline, h.evolveTarget? hnames]
  have hevolution : draft.unify.evolution = other.unify.evolution := by
    rw [Draft.unify, Draft.unify, h.evolution]
  have hcollection (kind : ElementKind) :
      (draft.unify.collection kind).Perm (other.unify.collection kind) := by
    rw [collection_unify, collection_unify, ofClass, ofClass, hunify]
    exact (h.declared.map _).filter _
  exact {
    title := h.title
    presentation := h.presentation
    evolution := hevolution
    collection := hcollection
    evolved := h.evolved.map _
    pipelines := h.pipelines.map _
    links := h.links
    annotations := h.annotations
    notes := h.notes
    methods := h.methods
    urls := h.urls
    attitudes := h.attitudes
    accelerators := h.accelerators
    errors := h.errors }

end Draft.Reorders

end Wardley
