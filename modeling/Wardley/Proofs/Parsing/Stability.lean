import Wardley.Proofs.Parsing.Partition

/-!
# Unifying is stable

A map can be taken for a draft again: its markets and ecosystems are declarations like its
components.  Unifying that draft gives the map back, because every change that unifying
makes leaves a value that unifying reads in the same way: a class that agrees with the
flags, a target that the same evolution tells, a range that counts as declared, and
four labels.

Main definitions:

- `Map.toDraft`: the draft with the records of a map.

Main results:

- `Draft.unifyElement_unified`, `Draft.unifyEvolved_unifyEvolved`,
  `Draft.unifyPipeline_unifyPipeline`: unified records stay as they are.
- `Draft.unify_toDraft_unify`: the map of a draft is the map of its own draft.
-/

namespace Wardley

/-- The draft with the records of a map, its markets and ecosystems among the elements. -/
def Map.toDraft (map : Map) : Draft where
  title := map.title
  evolution := map.evolution
  presentation := map.presentation
  notes := map.notes
  annotations := map.annotations
  elements := map.components ++ map.markets ++ map.ecosystems
  pipelines := map.pipelines
  evolved := map.evolved
  anchors := map.anchors
  links := map.links
  submaps := map.submaps
  urls := map.urls
  attitudes := map.attitudes
  accelerators := map.accelerators
  methods := map.methods
  errors := map.errors

namespace Draft

variable (draft : Draft)

/-! ## Elements -/

/-- The evolutions of the map tell the same targets. -/
theorem evolveTarget?_toDraft_unify :
    draft.unify.toDraft.evolveTarget? = draft.evolveTarget? := by
  funext name
  exact (draft.evolveTarget?_eq name).symm

/-- The pipelines of the map have the same names. -/
theorem headsPipeline_toDraft_unify :
    draft.unify.toDraft.headsPipeline = draft.headsPipeline := by
  funext name
  simp only [headsPipeline, Map.toDraft, unify, List.any_map]
  rfl

/-- What the class of a unified element means is written on the element. -/
theorem carries_unifyElement (declared : Element) (decorator : Decorator) :
    (draft.unifyElement declared).carries decorator =
      (draft.unifyElement declared).hasDecorator decorator := by
  rcases kind_unifyElement draft declared with ⟨hecosystem, hmarket⟩
  have hmeant : (draft.unifyElement declared).kind.decorator? = some decorator →
      (draft.unifyElement declared).hasDecorator decorator = true := by
    cases hkind : (draft.unifyElement declared).kind with
    | component | anchor | submap => nofun
    | market =>
        rintro ⟨⟩
        exact (hmarket.1 hkind).1
    | ecosystem =>
        rintro ⟨⟩
        exact hecosystem.1 hkind
  rw [Bool.eq_iff_iff, Element.carries, Bool.or_eq_true, beq_iff_eq]
  exact or_iff_left_of_imp hmeant

/-- A unified element is declared with the class that it has. -/
theorem declaredClass_unifyElement (declared : Element) :
    (draft.unifyElement declared).declaredClass = (draft.unifyElement declared).kind := by
  rcases kind_unifyElement draft declared with ⟨hecosystem, hmarket⟩
  unfold Element.declaredClass
  rw [carries_unifyElement, carries_unifyElement]
  by_cases he : (draft.unifyElement declared).hasDecorator .ecosystem = true
  · rw [if_pos he]
    exact (hecosystem.2 he).symm
  · rw [if_neg he]
    by_cases hm : (draft.unifyElement declared).hasDecorator .market = true
    · rw [if_pos hm]
      exact (hmarket.2 ⟨hm, he⟩).symm
    · rw [if_neg hm]

/-- A unified element stays as it is. -/
theorem unifyElement_unified (declared : Element) :
    draft.unify.toDraft.unifyElement (draft.unifyElement declared) =
      draft.unifyElement declared := by
  let once := draft.unifyElement declared
  let twice := draft.unify.toDraft.unifyElement once
  have hkind : twice.kind = once.kind :=
    (kind_unifyElement_eq _ once).trans (draft.declaredClass_unifyElement declared)
  have hdecorators : twice.decorators = once.decorators := by
    refine congrArg some (Decorators.ext_has fun decorator => ?_)
    rw [has_flags]
    exact draft.carries_unifyElement declared decorator
  have hevolving : twice.evolving = once.evolving := by
    simp only [twice, once, unifyElement, evolveTarget?_toDraft_unify, Bool.or_assoc, Bool.or_self]
  have hmaturity : twice.evolveMaturity = once.evolveMaturity := by
    simp only [twice, once, unifyElement, evolveTarget?_toDraft_unify]
    cases draft.evolveTarget? declared.name <;> rfl
  have hpipeline : twice.pipeline = once.pipeline := by
    simp only [twice, once, unifyElement, headsPipeline_toDraft_unify]
  calc
    twice = { once with
        kind := twice.kind
        decorators := twice.decorators
        evolving := twice.evolving
        evolveMaturity := twice.evolveMaturity
        pipeline := twice.pipeline } := (unifies_unifyElement _ once).frame
    _ = once := by rw [hkind, hdecorators, hevolving, hmaturity, hpipeline]

/-! ## Evolutions and pipelines -/

theorem unifyEvolved_unifyEvolved (evolved : Evolved) :
    unifyEvolved (unifyEvolved evolved) = unifyEvolved evolved :=
  rfl

/-- A known range counts as declared, unless children decide it again. -/
theorem extent_unifyPipeline (pipeline : Pipeline) :
    (unifyPipeline pipeline).extent = pipeline.extent := by
  unfold unifyPipeline
  cases hchildren : pipeline.children with
  | nil => simp only [Pipeline.extent, hchildren]
  | cons child others => simp only [Pipeline.extent, hchildren]

theorem unifyPipeline_unifyPipeline (pipeline : Pipeline) :
    unifyPipeline (unifyPipeline pipeline) = unifyPipeline pipeline := by
  rw [unifyPipeline, extent_unifyPipeline]
  rfl

/-! ## Collections -/

/-- The declarations of a map are unified already. -/
theorem map_unifyElement_toDraft :
    draft.unify.toDraft.declared.map draft.unify.toDraft.unifyElement =
      draft.unify.toDraft.declared := by
  refine (List.map_congr_left fun element helement => ?_).trans (List.map_id _)
  have hmem : element ∈ draft.unify.elements := by
    simp only [declared, Map.toDraft, List.mem_append] at helement
    simp only [Map.elements, List.mem_append]
    tauto
  rcases mem_elements_unify.1 hmem with ⟨declared, -, rfl⟩
  exact draft.unifyElement_unified declared

/-- A collection has no elements of another class. -/
theorem filter_ofClass (kind wanted : ElementKind) :
    (draft.ofClass kind).filter (fun element => element.kind == wanted) =
      if kind = wanted then draft.ofClass wanted else [] := by
  by_cases hkind : kind = wanted
  · subst hkind
    rw [if_pos rfl, ofClass, List.filter_filter]
    simp only [Bool.and_self]
  · rw [if_neg hkind, List.filter_eq_nil_iff]
    intro element helement hwanted
    have hclass : element.kind = kind := by simpa using (List.mem_filter.1 helement).2
    exact hkind (hclass.symm.trans (by simpa using hwanted))

theorem ofClass_toDraft_unify (kind : ElementKind) :
    draft.unify.toDraft.ofClass kind = draft.ofClass kind := by
  rw [ofClass, map_unifyElement_toDraft]
  simp only [declared, Map.toDraft, unify, List.filter_append, filter_ofClass]
  cases kind <;> simp

/-- The map of a draft is the map of its own draft. -/
theorem unify_toDraft_unify : draft.unify.toDraft.unify = draft.unify := by
  have hevolved : draft.unify.toDraft.evolved.map unifyEvolved = draft.unify.evolved := by
    refine List.map_map.trans (List.map_congr_left fun evolved _ => ?_)
    exact unifyEvolved_unifyEvolved evolved
  have hpipelines : draft.unify.toDraft.pipelines.map unifyPipeline = draft.unify.pipelines := by
    refine List.map_map.trans (List.map_congr_left fun pipeline _ => ?_)
    exact unifyPipeline_unifyPipeline pipeline
  have hlabels : (if draft.unify.toDraft.evolution.length = 4 then draft.unify.toDraft.evolution
      else AxisLabel.standard) = draft.unify.evolution :=
    if_pos draft.length_evolution_unify
  rw [unify, hevolved, hpipelines, hlabels]
  simp only [ofClass_toDraft_unify]
  rfl

end Draft

end Wardley
