import Wardley.Proofs.Construct.Sources
import Wardley.Proofs.Parsing.Draft

/-!
# Maps of texts are consistent

Whatever a text says, its map is well formed: the evolution axis has four labels, the
collections agree with the kinds and decorators of their elements, cross references
between elements, evolutions and pipelines are marked on both sides, names are not
empty and trimmed, and every record and diagnostic stands on a line of the text.

Main results:

- `Map.Consistent`: the invariant.
- `consistent_unify`: unifying a sound draft gives a consistent map.
- `parseSource_consistent`: the map of every source is consistent.
-/

namespace Wardley

open Construct Notation Text

/-! ## What a map shows -/

namespace Map

/-- The names that stand in a map: of its records, at both ends of links and of notes. -/
def names (map : Map) : List String :=
  map.elements.map Element.name ++ map.evolved.map Evolved.name ++
    map.pipelines.map Pipeline.name ++
    (map.pipelines.flatMap Pipeline.children).map PipelineChild.name ++
    map.urls.map Url.name ++ map.accelerators.map Accelerator.name ++
    map.methods.map Method.name ++ map.links.map Link.start ++ map.links.map Link.finish ++
    map.notes.map Note.text

/-- The lines of all records of a map. -/
def recordLines (map : Map) : List (Option Number) :=
  map.elements.map Element.line ++ map.evolved.map Evolved.line ++
    map.pipelines.map Pipeline.line ++
    (map.pipelines.flatMap Pipeline.children).map PipelineChild.line ++
    map.links.map Link.line ++ map.annotations.map Annotation.line ++
    map.notes.map Note.line ++ map.methods.map Method.line ++ map.urls.map Url.line ++
    map.attitudes.map Attitude.line ++ map.accelerators.map Accelerator.line

end Map

/-- The element has the decorator. -/
def Element.hasDecorator (element : Element) (decorator : Decorator) : Bool :=
  element.decorators.any fun flags => flags.has decorator

/-- The well-formedness of a map whose text has a number of lines. -/
structure Map.Consistent (lineCount : Nat) (map : Map) : Prop where
  axis : map.evolution.length = 4
  decorated : ∀ element ∈ map.elements, element.decorators.isSome
  kind_eq : ∀ kind, ∀ element ∈ map.collection kind, element.kind = kind
  mem_ecosystems : ∀ element ∈ map.elements,
    element ∈ map.ecosystems ↔ element.hasDecorator .ecosystem
  mem_markets : ∀ element ∈ map.elements,
    element ∈ map.markets ↔
      element.hasDecorator .market ∧ ¬ element.hasDecorator .ecosystem
  pipeline_iff : ∀ element ∈ map.elements,
    element.pipeline ↔ ∃ pipeline ∈ map.pipelines, pipeline.name = element.name
  evolving_iff : ∀ element ∈ map.elements,
    element.evolving ↔ ∃ evolved ∈ map.evolved, evolved.name = element.name
  /-- The maturity is that of the first evolution of the name, if there is one. -/
  evolveMaturity_eq : ∀ element ∈ map.elements,
    element.evolveMaturity =
      (map.evolved.find? fun evolved => evolved.name == element.name).map Evolved.maturity
  evolved_decorated : ∀ evolved ∈ map.evolved, evolved.decorators.isSome
  occurrences_ne_nil : ∀ marked ∈ map.annotations, marked.occurrences ≠ []
  child_visibility : ∀ pipeline ∈ map.pipelines, ∀ child ∈ pipeline.children,
    child.visibility = pipeline.visibility
  isName : ∀ name ∈ map.names, IsName name
  recordLine : ∀ line ∈ map.recordLines,
    ∃ n : Nat, line = some (.int n) ∧ 1 ≤ n ∧ n ≤ lineCount
  errorLine : ∀ error ∈ map.errors,
    ∃ n : Nat, error.line = .int n ∧ 1 ≤ n ∧ n ≤ lineCount

/-! ## Unifying -/

/-- The class of an element whose keyword has set its flag is decided by the flags. -/
theorem Element.classify_of_flags {element : Element} {flags : Decorators}
    (hflags : element.decorators = some flags)
    (heco : element.kind = .ecosystem → flags.ecosystem = true)
    (hmarket : element.kind = .market → flags.market = true) :
    (element.classify = .ecosystem ↔ flags.ecosystem = true) ∧
      (element.classify = .market ↔ flags.market = true ∧ ¬ flags.ecosystem = true) := by
  unfold Element.classify
  rw [hflags]
  by_cases he : flags.ecosystem = true <;> by_cases hm : flags.market = true <;> simp_all

namespace Draft

/-- The unified elements are the declared ones, each of them unified. -/
theorem mem_elements_unify {draft : Draft} {element : Element} :
    element ∈ draft.unify.elements ↔
      ∃ declared ∈ draft.declared, draft.unifyElement declared = element := by
  rw [Map.elements_eq_flatMap, List.mem_flatMap]
  constructor
  · rintro ⟨kind, -, hmem⟩
    exact (mem_collection_unify.1 hmem).2
  · intro h
    refine ⟨element.kind, ?_, mem_collection_unify.2 ⟨rfl, h⟩⟩
    cases element.kind <;> decide

/-- An element stands in the collection of its kind and in no other. -/
theorem mem_collection_unify_iff {draft : Draft} {element : Element} {kind : ElementKind}
    (h : element ∈ draft.unify.elements) :
    element ∈ draft.unify.collection kind ↔ element.kind = kind := by
  rw [mem_collection_unify]
  exact and_iff_left (mem_elements_unify.1 h)

/-- The kind of a unified element agrees with its decorators. -/
theorem kind_unifyElement (draft : Draft) (declared : Element) :
    ((draft.unifyElement declared).kind = .ecosystem ↔
      (draft.unifyElement declared).hasDecorator .ecosystem = true) ∧
    ((draft.unifyElement declared).kind = .market ↔
      (draft.unifyElement declared).hasDecorator .market = true ∧
        ¬ (draft.unifyElement declared).hasDecorator .ecosystem = true) := by
  let flags := withKeywordFlag declared.kind (declared.decorators.getD .unset)
  let decorated : Element := { declared with decorators := some flags }
  have hflags : decorated.decorators = some flags := rfl
  refine Element.classify_of_flags hflags ?_ ?_
  all_goals
    intro hkind
    have hdeclared : declared.kind = _ := hkind
    simp [flags, hdeclared, withKeywordFlag, Decorators.mark]

/-- A name heads a pipeline exactly when a pipeline has it. -/
theorem headsPipeline_iff (draft : Draft) (name : String) :
    draft.headsPipeline name = true ↔
      ∃ pipeline ∈ draft.unify.pipelines, pipeline.name = name := by
  simp [headsPipeline, unify, unifyPipeline]

/-- The evolutions of a map tell the same target as those of its draft. -/
theorem evolveTarget?_eq (draft : Draft) (name : String) :
    draft.evolveTarget? name =
      (draft.unify.evolved.find? fun evolved => evolved.name == name).map Evolved.maturity := by
  simp only [evolveTarget?, unify, List.find?_map, Option.map_map]
  rfl

/-- A name evolves to a maturity exactly when an evolution names it. -/
theorem isSome_evolveTarget?_iff (draft : Draft) (name : String) :
    (draft.evolveTarget? name).isSome = true ↔
      ∃ evolved ∈ draft.unify.evolved, evolved.name = name := by
  rw [evolveTarget?_eq, Option.isSome_map, List.find?_isSome]
  simp

/-- A unified axis has four labels. -/
theorem length_evolution_unify (draft : Draft) : draft.unify.evolution.length = 4 := by
  unfold unify
  split
  · assumption
  · rfl

end Draft

/-! ## Readings of a text -/

section Readings

variable {switches : Switches} {lines : List (Nat × List Char)}

/-- The declared elements of a draft are declared on its lines. -/
theorem isDeclared_draftOf {element : Element} (h : element ∈ (draftOf switches lines).declared) :
    ∃ kind line, OnLine lines line ∧ IsDeclared kind line element := by
  simp only [Draft.declared, List.mem_append] at h
  rcases h with (h | h) | h <;> exact mem_elementsOf h

/-- Evolutions have a name and know their line. -/
theorem mem_evolutions {evolved : Evolved} (h : evolved ∈ (evolutions lines).records) :
    IsName evolved.name ∧ ∃ line, OnLine lines line ∧ evolved.line = some line := by
  rcases mem_records_collect.1 h with ⟨d, hd, hread⟩
  rcases readEvolution_eq_ok hread with ⟨hname, hline⟩
  exact ⟨hname, _, onLine_of_mem_declarations hd, hline⟩

/-- Addresses have a name and know their line. -/
theorem mem_urls {url : Url} (h : url ∈ (urls lines).records) :
    IsName url.name ∧ ∃ line, OnLine lines line ∧ url.line = some line := by
  rcases mem_records_collect.1 h with ⟨d, hd, hread⟩
  rcases readUrl_eq_ok (trim_body_of_mem_declarations hd) hread with ⟨hname, hline⟩
  exact ⟨hname, _, onLine_of_mem_declarations hd, hline⟩

/-- Methods have a name and know their line. -/
theorem mem_methods {method : Method} (h : method ∈ (methods lines).records) :
    IsName method.name ∧ ∃ line, OnLine lines line ∧ method.line = some line := by
  rcases mem_records_collect.1 h with ⟨d, hd, hread⟩
  rcases readMethod_eq_ok (trim_body_of_mem_declarations hd) hread with ⟨hname, hline⟩
  exact ⟨hname, _, onLine_of_mem_declarations hd, hline⟩

/-- Notes have a text and know their line. -/
theorem mem_notes {note : Note} (h : note ∈ (notes lines).records) :
    IsName note.text ∧ ∃ line, OnLine lines line ∧ note.line = some line := by
  rcases mem_records_collect.1 h with ⟨d, hd, hread⟩
  rcases readNote_eq_ok hread with ⟨htext, hline⟩
  exact ⟨htext, _, onLine_of_mem_declarations hd, hline⟩

/-- Annotations have an occurrence and know their line. -/
theorem mem_annotations {marked : Annotation} (h : marked ∈ (annotations lines).records) :
    marked.occurrences ≠ [] ∧ ∃ line, OnLine lines line ∧ marked.line = some line := by
  rcases mem_records_collect.1 h with ⟨d, hd, hread⟩
  rcases readAnnotation_eq_ok hread with ⟨hplaces, hline⟩
  exact ⟨hplaces, _, onLine_of_mem_declarations hd, hline⟩

/-- Attitudes know their line. -/
theorem mem_attitudes {attitude : Attitude} (h : attitude ∈ (attitudes lines).records) :
    ∃ line, OnLine lines line ∧ attitude.line = some line := by
  rcases List.mem_map.1 h with ⟨region, hregion, rfl⟩
  rcases mem_regions hregion with ⟨d, hd, hread⟩
  refine ⟨_, hd, ?_⟩
  simp [Region.attitude, (readRegion_eq_ok hread).2]

/-- Accelerators have a name and know their line. -/
theorem mem_accelerators {enabled : Bool} {accelerator : Accelerator}
    (h : accelerator ∈ (accelerators enabled lines).records) :
    IsName accelerator.name ∧ ∃ line, OnLine lines line ∧ accelerator.line = some line := by
  unfold accelerators at h
  split at h
  · rcases List.mem_map.1 h with ⟨region, hregion, rfl⟩
    rcases mem_regions hregion with ⟨d, hd, hread⟩
    rcases readRegion_eq_ok hread with ⟨hname, hline⟩
    refine ⟨hname rfl, _, hd, ?_⟩
    simp [Region.accelerator, hline]
  · simp [Outcome.empty] at h

/-- A kind yields diagnostics of given lines only. -/
theorem onLine_errors_contents {kind : Kind} {error : Diagnostic}
    (h : error ∈ (kind.contents switches lines).2) : OnLine lines error.line := by
  have collected {α : Type} (read : Declaration → Except Fault α) (keywords : List String)
      (herror : error ∈ (collect read (declarations keywords lines)).errors) :
      OnLine lines error.line :=
    onLine_errors_collect (fun _ hd => onLine_of_mem_declarations hd) herror
  cases kind with
  | evolution | links => simp [Kind.contents] at h
  | elements | anchors | submaps => exact onLine_errors_elementsOf h
  | pipelines => exact onLine_errors_pipelines h
  | attitudes => exact onLine_errors_regions h
  | accelerators =>
      simp only [Kind.contents, fromOutcome, accelerators] at h
      split at h
      · exact onLine_errors_regions h
      · simp [Outcome.empty] at h
  | title | presentation | notes | annotations | evolved | urls | methods =>
      exact collected _ _ h

/-- The names of a map are those of its readings. -/
theorem isName_of_mem_names {name : String}
    (h : name ∈ (draftOf switches lines).unify.names) : IsName name := by
  simp only [Map.names, List.mem_append, List.mem_map] at h
  rcases h with ((((((((h | h) | h) | h) | h) | h) | h) | h) | h) | h
  all_goals obtain ⟨record, hrecord, rfl⟩ := h
  · rcases Draft.mem_elements_unify.1 hrecord with ⟨declared, hdeclared, rfl⟩
    rcases isDeclared_draftOf hdeclared with ⟨kind, line, -, hread⟩
    exact hread.name
  · rcases List.mem_map.1 hrecord with ⟨evolved, hevolved, rfl⟩
    exact (mem_evolutions hevolved).1
  · rcases List.mem_map.1 hrecord with ⟨pipeline, hpipeline, rfl⟩
    exact (mem_pipelines hpipeline).name
  · rcases List.mem_flatMap.1 hrecord with ⟨unified, hunified, hchild⟩
    rcases List.mem_map.1 hunified with ⟨pipeline, hpipeline, rfl⟩
    exact (mem_pipelines hpipeline).childName record hchild
  · exact (mem_urls hrecord).1
  · exact (mem_accelerators hrecord).1
  · exact (mem_methods hrecord).1
  · exact (mem_links hrecord).1
  · exact (mem_links hrecord).2.1
  · exact (mem_notes hrecord).1

/-- Every record of a map stands on one of the lines. -/
theorem onLine_of_mem_recordLines {line : Option Number}
    (h : line ∈ (draftOf switches lines).unify.recordLines) :
    ∃ number, OnLine lines number ∧ line = some number := by
  simp only [Map.recordLines, List.mem_append, List.mem_map] at h
  rcases h with (((((((((h | h) | h) | h) | h) | h) | h) | h) | h) | h) | h
  all_goals obtain ⟨record, hrecord, rfl⟩ := h
  · rcases Draft.mem_elements_unify.1 hrecord with ⟨declared, hdeclared, rfl⟩
    rcases isDeclared_draftOf hdeclared with ⟨kind, line, hline, hread⟩
    exact ⟨line, hline, hread.line_eq⟩
  · rcases List.mem_map.1 hrecord with ⟨evolved, hevolved, rfl⟩
    exact (mem_evolutions hevolved).2
  · rcases List.mem_map.1 hrecord with ⟨pipeline, hpipeline, rfl⟩
    exact (mem_pipelines hpipeline).line
  · rcases List.mem_flatMap.1 hrecord with ⟨unified, hunified, hchild⟩
    rcases List.mem_map.1 hunified with ⟨pipeline, hpipeline, rfl⟩
    exact (mem_pipelines hpipeline).childLine record hchild
  · exact (mem_links hrecord).2.2
  · exact (mem_annotations hrecord).2
  · exact (mem_notes hrecord).2
  · exact (mem_methods hrecord).2
  · exact (mem_urls hrecord).2
  · exact mem_attitudes hrecord
  · exact (mem_accelerators hrecord).2

end Readings

/-! ## Consistency -/

/-- The map of numbered lines is consistent. -/
theorem consistent_unify (switches : Switches) (lines : List (List Char)) :
    (draftOf switches (numbered lines)).unify.Consistent lines.length where
  axis := Draft.length_evolution_unify _
  decorated := by
    intro element helement
    rcases Draft.mem_elements_unify.1 helement with ⟨declared, -, rfl⟩
    rfl
  kind_eq := by
    intro kind element helement
    exact (Draft.mem_collection_unify.1 helement).1
  mem_ecosystems := by
    intro element helement
    have hmem : element ∈ (draftOf switches (numbered lines)).unify.collection .ecosystem ↔
        element.kind = .ecosystem := Draft.mem_collection_unify_iff helement
    rcases Draft.mem_elements_unify.1 helement with ⟨declared, -, rfl⟩
    exact hmem.trans (Draft.kind_unifyElement _ declared).1
  mem_markets := by
    intro element helement
    have hmem : element ∈ (draftOf switches (numbered lines)).unify.collection .market ↔
        element.kind = .market := Draft.mem_collection_unify_iff helement
    rcases Draft.mem_elements_unify.1 helement with ⟨declared, -, rfl⟩
    exact hmem.trans (Draft.kind_unifyElement _ declared).2
  pipeline_iff := by
    intro element helement
    rcases Draft.mem_elements_unify.1 helement with ⟨declared, -, rfl⟩
    exact Draft.headsPipeline_iff _ _
  evolving_iff := by
    intro element helement
    rcases Draft.mem_elements_unify.1 helement with ⟨declared, hdeclared, rfl⟩
    rcases isDeclared_draftOf hdeclared with ⟨kind, line, -, hread⟩
    rw [← Draft.isSome_evolveTarget?_iff]
    simp [Draft.unifyElement, hread.evolving_eq]
  evolveMaturity_eq := by
    intro element helement
    rcases Draft.mem_elements_unify.1 helement with ⟨declared, hdeclared, rfl⟩
    rcases isDeclared_draftOf hdeclared with ⟨kind, line, -, hread⟩
    rw [← Draft.evolveTarget?_eq]
    simp [Draft.unifyElement, hread.evolveMaturity_eq]
  evolved_decorated := by
    intro evolved hevolved
    rcases List.mem_map.1 hevolved with ⟨written, -, rfl⟩
    rfl
  occurrences_ne_nil := fun marked hmarked => (mem_annotations hmarked).1
  child_visibility := by
    intro pipeline hpipeline child hchild
    rcases List.mem_map.1 hpipeline with ⟨written, hwritten, rfl⟩
    exact (mem_pipelines hwritten).childVisibility child hchild
  isName := fun name hname => isName_of_mem_names hname
  recordLine := by
    intro line hline
    rcases onLine_of_mem_recordLines hline with ⟨number, hnumber, rfl⟩
    rcases onLine_numbered hnumber with ⟨n, rfl, hn⟩
    exact ⟨n, rfl, hn⟩
  errorLine := by
    intro error herror
    rcases List.mem_flatMap.1 herror with ⟨kind, -, hkind⟩
    exact onLine_numbered (onLine_errors_contents hkind)

/-- The map of every source exists and is consistent, with workers or without. -/
theorem parseSource_consistent {workers : Option Int} (switches : Switches)
    (source : Option String) (h : ∀ count ∈ workers, 1 ≤ count) :
    ∃ map, parseSource workers switches source = .ok map ∧
      map.Consistent (Text.lines (source.getD "").toList).length := by
  refine ⟨parse switches (source.getD ""), parseWith_eq switches _ h, ?_⟩
  rw [parse_eq_unify]
  have hlength : (cleanLines (source.getD "").toList).length =
      (Text.lines (source.getD "").toList).length := length_eraseLines false _
  rw [← hlength]
  exact consistent_unify switches _

/-- Two workers read a market that evolves and heads a pipeline with a faulty child. -/
theorem parseSource_consistent_two_workers :
    (∀ count ∈ some (2 : Int), 1 ≤ count) ∧
      ∃ map, parseSource (some 2) .allOn (some
          "component A (market)\npipeline A \x7b component B [0.2] component [0.3]\nevolve A 0.9")
          = .ok map ∧ map.Consistent 3 :=
  ⟨by decide, parseSource_consistent .allOn _ (by decide)⟩

end Wardley
