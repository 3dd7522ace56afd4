import Mathlib.Data.List.Basic
import Wardley.Proofs.Model.Reordering
import Wardley.Proofs.Resolution.Precedence
import Wardley.Resolution.Report

/-!
# Names in another order

Where names are placed and what a report lists depends neither on the lines of the records
nor, as long as names are unambiguous, on the order of the records.

Main definitions:

- `Map.SameContent`: two maps differ in the lines and the order of their records only.

Main results:

- `sortedNames_congr`: sorted names only depend on which names there are.
- `Map.position?_mapLines`: lines say nothing about the places of names.
- `Map.Reorders.position?`: the places of names in another order.
- `Map.Reorders.missingEvolveTargets`, `Map.Reorders.pipelinesWithoutElement`,
  `Map.Reorders.unknownUrlReferences`, `Map.Reorders.duplicateNames`: the names that a
  report lists, in another order.
- `Map.sameContent_of_reorders`: both together.
-/

namespace Wardley

/-! ## Other lines -/

namespace Map

variable (f : Nat → Nat) (map : Map)

/-- The elements of a renumbered map are renumbered. -/
@[simp] theorem elements_mapLines :
    (map.mapLines f).elements = map.elements.map (Element.mapLine f) := by
  simp only [elements, mapLines, List.map_append]

/-- The element of a name in a renumbered map is renumbered. -/
@[simp] theorem element?_mapLines (name : String) :
    (map.mapLines f).element? name = (map.element? name).map (Element.mapLine f) := by
  rw [element?, elements_mapLines, List.find?_map]
  rfl

/-- Renumbering does not change projections. -/
@[simp] theorem projections_mapLines : (map.mapLines f).projections = map.projections := by
  simp only [projections, element?_mapLines, Option.map_map]
  rw [mapLines, List.filterMap_map]
  rfl

/-- Renumbering does not change placed children. -/
@[simp] theorem placedChildren_mapLines : (map.mapLines f).placedChildren = map.placedChildren := by
  simp only [placedChildren, mapLines, List.flatMap_map, Pipeline.mapLine, List.map_map]
  rfl

/-- Lines say nothing about the places of names. -/
@[simp] theorem position?_mapLines (name : String) :
    (map.mapLines f).position? name = map.position? name := by
  have hplaced : (map.mapLines f).elements.map Element.placed =
      map.elements.map Element.placed := by
    rw [elements_mapLines, List.map_map]
    rfl
  rw [position?_eq, position?_eq, projections_mapLines, placedChildren_mapLines, hplaced]

/-- Renumbering does not change what is declared. -/
@[simp] theorem isDeclared_mapLines (name : String) :
    (map.mapLines f).isDeclared name = map.isDeclared name := by
  rw [isDeclared_eq, element?_mapLines, Option.isSome_map, isDeclared_eq]

/-- Lines say nothing about the names that evolve without an element. -/
@[simp] theorem missingEvolveTargets_mapLines :
    (map.mapLines f).missingEvolveTargets = map.missingEvolveTargets := by
  simp only [missingEvolveTargets, isDeclared_mapLines]
  rw [mapLines, List.map_map]
  rfl

/-- Lines say nothing about the pipelines without an element. -/
@[simp] theorem pipelinesWithoutElement_mapLines :
    (map.mapLines f).pipelinesWithoutElement = map.pipelinesWithoutElement := by
  simp only [pipelinesWithoutElement, isDeclared_mapLines]
  rw [mapLines, List.map_map]
  rfl

/-- Lines say nothing about the addresses that are unknown. -/
@[simp] theorem unknownUrlReferences_mapLines :
    (map.mapLines f).unknownUrlReferences = map.unknownUrlReferences := by
  have hurl (name : String) : (map.mapLines f).hasUrl name = map.hasUrl name := by
    rw [hasUrl, mapLines, List.map_map]
    rfl
  simp only [unknownUrlReferences, elements_mapLines, hurl, List.filterMap_map]
  rfl

/-- Lines say nothing about the names that are carried twice. -/
@[simp] theorem duplicateNames_mapLines : (map.mapLines f).duplicateNames = map.duplicateNames := by
  rw [duplicateNames, elements_mapLines, List.map_map, duplicateNames]
  rfl

end Map

/-! ## Sorted names -/

/-- Erasing duplicates leaves none. -/
theorem nodup_eraseDups (names : List String) : names.eraseDups.Nodup := by
  match names with
  | [] => exact List.nodup_nil
  | name :: rest =>
      rw [List.eraseDups_cons, List.nodup_cons]
      refine ⟨?_, nodup_eraseDups _⟩
      rw [List.mem_eraseDups, List.mem_filter]
      simp
termination_by names.length
decreasing_by
  exact Nat.lt_succ_of_le (List.length_filter_le _ _)

/-- Sorted names only depend on which names there are. -/
theorem sortedNames_congr {names others : List String}
    (h : ∀ name, name ∈ names ↔ name ∈ others) : sortedNames names = sortedNames others := by
  have hperm : names.eraseDups.Perm others.eraseDups := by
    rw [List.perm_ext_iff_of_nodup (nodup_eraseDups _) (nodup_eraseDups _)]
    intro name
    rw [List.mem_eraseDups, List.mem_eraseDups, h]
  have hle (a b : String) : (!decide (b < a)) = true ↔ a ≤ b := by
    rw [Bool.not_eq_true', decide_eq_false_iff_not]
    exact Iff.rfl
  have hsorted (found : List String) :
      (found.mergeSort fun a b => !decide (b < a)).Pairwise (· ≤ ·) := by
    refine (List.pairwise_mergeSort ?_ ?_ found).imp fun {a b} hab => (hle a b).1 hab
    · intro a b c hab hbc
      exact (hle a c).2 (String.le_trans ((hle a b).1 hab) ((hle b c).1 hbc))
    · intro a b
      rw [Bool.or_eq_true, hle, hle]
      exact String.le_total a b
  refine List.Perm.eq_of_pairwise (fun a b _ _ => String.le_antisymm) (hsorted _) (hsorted _) ?_
  exact (List.mergeSort_perm _ _).trans (hperm.trans (List.mergeSort_perm _ _).symm)

/-- The repeated names are those seen before and those that stand in the list twice. -/
theorem mem_repeatedNames {seen names : List String} {name : String} :
    name ∈ repeatedNames seen names ↔ name ∈ names ∧ (name ∈ seen ∨ 2 ≤ names.count name) := by
  induction names generalizing seen with
  | nil => simp [repeatedNames]
  | cons first rest ih =>
      by_cases hfirst : first = name
      · subst hfirst
        by_cases hseen : first ∈ seen <;> simp [repeatedNames, hseen, ih]
      · have hsame : (first :: rest).count name = rest.count name :=
          List.count_cons_of_ne hfirst
        by_cases hseen : first ∈ seen <;>
          simp [repeatedNames, hseen, ih, hsame, Ne.symm hfirst]

/-! ## Another order -/

namespace Map.Reorders

variable {map other : Map} (h : map.Reorders other)
include h

/-- Maps of the same content declare the same names. -/
theorem isDeclared : map.isDeclared = other.isDeclared := by
  funext name
  rw [isDeclared_eq, isDeclared_eq]
  exact isSome_find?_perm h.elements name

/-- The names that evolve without an element, in any order. -/
theorem missingEvolveTargets : map.missingEvolveTargets = other.missingEvolveTargets := by
  rw [Map.missingEvolveTargets, Map.missingEvolveTargets, h.isDeclared]
  exact sortedNames_congr fun name => ((h.evolved.map _).filter _).mem_iff

/-- The pipelines without an element, in any order. -/
theorem pipelinesWithoutElement :
    map.pipelinesWithoutElement = other.pipelinesWithoutElement := by
  rw [Map.pipelinesWithoutElement, Map.pipelinesWithoutElement, h.isDeclared]
  exact sortedNames_congr fun name => ((h.pipelines.map _).filter _).mem_iff

/-- The unknown addresses, in any order. -/
theorem unknownUrlReferences : map.unknownUrlReferences = other.unknownUrlReferences := by
  have hurl (name : String) : map.hasUrl name = other.hasUrl name := by
    rw [hasUrl_eq, hasUrl_eq]
    exact isSome_find?_perm h.urls name
  rw [Map.unknownUrlReferences, Map.unknownUrlReferences, funext hurl]
  exact sortedNames_congr fun name => ((h.elements.filterMap _).filter _).mem_iff

/-- The names that are carried twice, in any order. -/
theorem duplicateNames : map.duplicateNames = other.duplicateNames := by
  have hnames := h.elements.map Element.name
  refine sortedNames_congr fun name => ?_
  rw [mem_repeatedNames, mem_repeatedNames, hnames.mem_iff, hnames.count_eq]

variable (hnames : (map.elements.map Element.name).Nodup)
include hnames

/-- Projections stand where they stood, since their sources are found again. -/
theorem projections : map.projections.Perm other.projections := by
  have hsource : map.element? = other.element? := funext (find?_key_perm h.elements hnames)
  rw [Map.projections, Map.projections, hsource]
  exact h.evolved.filterMap _

/-- The places of names in a map without children do not depend on the order. -/
theorem position? (hdisplay : (map.evolved.map Evolved.displayName).Nodup)
    (hchildren : ∀ pipeline ∈ map.pipelines, pipeline.children = []) (name : String) :
    map.position? name = other.position? name := by
  have hprojected : (map.projections.reverse.map Prod.fst).Nodup := by
    rw [List.map_reverse, List.nodup_reverse, List.nodup_iff_pairwise_ne, List.pairwise_map,
      Map.projections, List.pairwise_filterMap]
    refine (List.pairwise_map.1 hdisplay).imp ?_
    intro first second hne entry hentry entry' hentry'
    rcases Option.map_eq_some_iff.1 hentry with ⟨-, -, rfl⟩
    rcases Option.map_eq_some_iff.1 hentry' with ⟨-, -, rfl⟩
    exact hne
  have hreverse : map.projections.reverse.Perm other.projections.reverse :=
    (List.reverse_perm _).trans ((h.projections hnames).trans (List.reverse_perm _).symm)
  have hplaced : ((map.elements.map Element.placed).map Prod.fst).Nodup := by
    rw [List.map_map]
    exact hnames
  have hnone (some' : Map) (hsome : ∀ pipeline ∈ some'.pipelines, pipeline.children = []) :
      some'.placedChildren = [] := by
    rw [placedChildren, List.flatMap_eq_nil_iff]
    intro pipeline hpipeline
    rw [hsome pipeline hpipeline]
    rfl
  rw [position?_eq, position?_eq, find?_key_perm hreverse hprojected, hnone map hchildren,
    hnone other fun pipeline hpipeline => hchildren pipeline (h.pipelines.mem_iff.2 hpipeline),
    List.append_nil, List.append_nil,
    find?_key_perm (h.elements.map Element.placed) hplaced]

end Map.Reorders

/-! ## Other lines in another order -/

/-- Two maps differ in the lines and the order of their records only. -/
structure Map.SameContent (map other : Map) : Prop where
  records : (map.mapLines noLine).Reorders (other.mapLines noLine)
  position : ∀ name, map.position? name = other.position? name
  missingEvolveTargets : map.report.missingEvolveTargets = other.report.missingEvolveTargets
  pipelinesWithoutElement :
    map.report.pipelinesWithoutElement = other.report.pipelinesWithoutElement
  unknownUrlReferences : map.report.unknownUrlReferences = other.report.unknownUrlReferences
  duplicateNames : map.report.duplicateNames = other.report.duplicateNames

/-- Maps with the same records say the same about names, as long as these are unambiguous. -/
theorem Map.sameContent_of_reorders {map other : Map}
    (h : (map.mapLines noLine).Reorders (other.mapLines noLine))
    (hnames : (map.elements.map Element.name).Nodup)
    (hdisplay : (map.evolved.map Evolved.displayName).Nodup)
    (hchildren : ∀ pipeline ∈ map.pipelines, pipeline.children = []) :
    map.SameContent other where
  records := h
  position := by
    have hnames' : ((map.mapLines noLine).elements.map Element.name).Nodup := by
      rw [elements_mapLines, List.map_map]
      exact hnames
    have hdisplay' : ((map.mapLines noLine).evolved.map Evolved.displayName).Nodup := by
      rw [mapLines, List.map_map]
      exact hdisplay
    have hchildren' : ∀ pipeline ∈ (map.mapLines noLine).pipelines, pipeline.children = [] := by
      intro pipeline hpipeline
      rcases List.mem_map.1 hpipeline with ⟨same, hsame, rfl⟩
      rw [Pipeline.mapLine, hchildren same hsame, List.map_nil]
    intro name
    simpa using h.position? hnames' hdisplay' hchildren' name
  missingEvolveTargets := by simpa [report] using h.missingEvolveTargets
  pipelinesWithoutElement := by simpa [report] using h.pipelinesWithoutElement
  unknownUrlReferences := by simpa [report] using h.unknownUrlReferences
  duplicateNames := by simpa [report] using h.duplicateNames

end Wardley
