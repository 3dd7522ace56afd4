import Mathlib.Data.List.Nodup
import Wardley.Proofs.Resolution.Reordering

/-!
# References are accounted for

A link is drawn if the table of names has both of its ends, and reported if it has not.
The names that a report lists are those without which something is not drawn: evolutions
that leave the table as it is, pipelines and addresses of no element and no declaration,
and names that stand for several elements.  Warnings are listed once each, in the order in
which they are first added.

Main definitions:

- `Map.hasEnds`: the table of names has both ends of a link.
- `Map.project`: what one evolution does to a table of names.
- `ListsOnce`: messages without repetition, in the order of their first addition.
- `Map.AccountsForReferences`: what is drawn and what is reported of a map.

Main results:

- `Map.link_resolvedLinks`, `Map.danglingLinks_eq`: the links that are drawn and the others.
- `Map.mem_missingEvolveTargets`: evolutions that are not drawn.
- `ListsOnce.warn`, `ListsOnce.foldl_warn`: one more warning, and any number of them.
- `Map.accounts_for_references`: a report and what is drawn are complements.
-/

namespace Wardley

/-! ## Names of a table -/

/-- A table has a value for the names that were entered. -/
theorem Index.isSome_get?_iff {Name Value : Type} [BEq Name] [LawfulBEq Name]
    {index : Index Name Value} {name : Name} :
    (index.get? name).isSome = true ↔ name ∈ index.map Prod.fst := by
  induction index with
  | nil => simp [get?]
  | cons entry rest ih =>
      rw [get?, List.map_cons, List.mem_cons, ← ih]
      by_cases hname : name = entry.1
      · simp [hname]
      · simp [hname]

namespace Map

variable (map : Map)

/-! ## Links -/

/-- The table of names has both ends of a link. -/
def hasEnds (link : Link) : Bool :=
  (map.index.map Prod.fst).contains link.start && (map.index.map Prod.fst).contains link.finish

theorem hasEnds_eq (link : Link) :
    map.hasEnds link =
      ((map.index.get? link.start).isSome && (map.index.get? link.finish).isSome) := by
  rw [Bool.eq_iff_iff, hasEnds, Bool.and_eq_true, Bool.and_eq_true, Index.isSome_get?_iff,
    Index.isSome_get?_iff, List.contains_iff_mem, List.contains_iff_mem]

/-- The links that are drawn are those of which the table has both ends. -/
theorem link_resolvedLinks :
    map.resolvedLinks.map ResolvedLink.link = map.links.filter map.hasEnds := by
  have hresolve (link : Link) :
      (link.resolve? map.index).map ResolvedLink.link = Option.guard map.hasEnds link := by
    rw [Option.guard, hasEnds_eq, Link.resolve?]
    cases map.index.get? link.start <;> cases map.index.get? link.finish <;> rfl
  rw [resolvedLinks, List.map_filterMap]
  simp only [hresolve]
  rw [← List.filterMap_eq_filter]

/-- A link is drawn between the places of its ends. -/
theorem places_of_mem_resolvedLinks {drawn : ResolvedLink} (h : drawn ∈ map.resolvedLinks) :
    map.index.get? drawn.link.start = some drawn.start ∧
      map.index.get? drawn.link.finish = some drawn.finish := by
  rcases List.mem_filterMap.1 h with ⟨link, -, hresolve⟩
  unfold Link.resolve? at hresolve
  split at hresolve
  · rename_i start finish hstart hfinish
    cases hresolve
    exact ⟨hstart, hfinish⟩
  · cases hresolve

/-- The other links are reported. -/
theorem danglingLinks_eq : map.danglingLinks = map.links.filter fun link => !map.hasEnds link := by
  refine List.filter_congr fun link _ => ?_
  rw [hasEnds_eq, Bool.not_and, Option.not_isSome, Option.not_isSome]

/-! ## Evolutions -/

/-- What one evolution does to a table of names. -/
def project (index : Index String Position) (evolved : Evolved) : Index String Position :=
  match map.element? evolved.name with
  | none => index
  | some source =>
    index.replace evolved.displayName ⟨evolved.maturity, source.visibility, true⟩

/-- The table of names before the evolutions. -/
def namedIndex : Index String Position :=
  map.placedChildren.foldl (fun index entry => index.enter entry.1 entry.2) map.indexElements

/-- Evolutions enter their projections one by one. -/
theorem index_eq_foldl_project : map.index = map.evolved.foldl map.project map.namedIndex := by
  rw [index, projections, List.foldl_filterMap, namedIndex]
  congr 1
  funext index evolved
  rw [project]
  cases map.element? evolved.name <;> rfl

/-- An evolution leaves tables as they are if its source is not on the map. -/
theorem project_eq_self_iff (evolved : Evolved) :
    (∀ index, map.project index evolved = index) ↔ map.element? evolved.name = none := by
  constructor
  · intro hkeeps
    cases hsource : map.element? evolved.name with
    | none => rfl
    | some source =>
        have hempty := hkeeps []
        rw [project, hsource] at hempty
        exact absurd hempty (List.cons_ne_nil _ _)
  · intro hnone index
    rw [project, hnone]

/-! ## Names of a report -/

theorem not_isDeclared_iff (name : String) :
    (!map.isDeclared name) = true ↔ map.element? name = none := by
  rw [isDeclared_eq, Option.not_isSome, Option.isNone_iff_eq_none]

end Map

theorem mem_sortedNames {names : List String} {name : String} :
    name ∈ sortedNames names ↔ name ∈ names := by
  rw [sortedNames, List.mem_mergeSort, List.mem_eraseDups]

/-- A report lists a name once. -/
theorem nodup_sortedNames (names : List String) : (sortedNames names).Nodup :=
  (List.mergeSort_perm _ _).nodup_iff.2 (nodup_eraseDups names)

namespace Map

variable (map : Map) {name : String}

/-- The missing targets are the sources of evolutions that are not drawn. -/
theorem mem_missingEvolveTargets :
    name ∈ map.missingEvolveTargets ↔
      ∃ evolved ∈ map.evolved, evolved.name = name ∧
        ∀ index, map.project index evolved = index := by
  simp only [missingEvolveTargets, mem_sortedNames, List.mem_filter, List.mem_map,
    not_isDeclared_iff, project_eq_self_iff]
  constructor
  · rintro ⟨⟨evolved, hevolved, rfl⟩, hnone⟩
    exact ⟨evolved, hevolved, rfl, hnone⟩
  · rintro ⟨evolved, hevolved, rfl, hnone⟩
    exact ⟨⟨evolved, hevolved, rfl⟩, hnone⟩

/-- The repeated names are those that several elements carry. -/
theorem mem_duplicateNames :
    name ∈ map.duplicateNames ↔
      2 ≤ (map.elements.filter fun element => element.name == name).length := by
  rw [duplicateNames, mem_sortedNames, mem_repeatedNames, List.count, List.countP_map,
    ← List.countP_eq_length_filter]
  have hmem (h : 2 ≤ map.elements.countP ((· == name) ∘ Element.name)) :
      name ∈ map.elements.map Element.name := by
    rcases List.countP_pos_iff.1 (Nat.lt_of_lt_of_le Nat.zero_lt_two h) with
      ⟨element, helement, hname⟩
    exact List.mem_map.2 ⟨element, helement, eq_of_beq hname⟩
  constructor
  · rintro ⟨-, hseen | htwice⟩
    · cases hseen
    · exact htwice
  · exact fun htwice => ⟨hmem htwice, .inr htwice⟩

/-- The pipelines without an element are those of which no element carries the name. -/
theorem mem_pipelinesWithoutElement :
    name ∈ map.pipelinesWithoutElement ↔
      (∃ pipeline ∈ map.pipelines, pipeline.name = name) ∧
        ∀ element ∈ map.elements, element.name ≠ name := by
  simp only [pipelinesWithoutElement, mem_sortedNames, List.mem_filter, List.mem_map,
    not_isDeclared_iff, element?, List.find?_eq_none, beq_iff_eq, ne_eq]

/-- The unknown addresses are those that an element refers to and that are not found. -/
theorem mem_unknownUrlReferences :
    name ∈ map.unknownUrlReferences ↔
      (∃ element ∈ map.elements, element.url = some name) ∧ map.url? name = none := by
  simp only [unknownUrlReferences, mem_sortedNames, List.mem_filter, List.mem_filterMap,
    hasUrl_eq, Option.not_isSome, Option.isNone_iff_eq_none]

end Map

/-! ## Warnings -/

theorem warningOf_eq_nil_iff {heading : String} {texts : List String} :
    warningOf heading texts = [] ↔ texts = [] := by
  rw [warningOf]
  split <;> simp_all

/-- A warning begins like its heading. -/
theorem head_warningOf_sublist {heading : String} {c : Char} (h : heading.toList.head? = some c)
    (texts : List String) :
    ((warningOf heading texts).map fun message => message.toList.head?).Sublist [some c] := by
  rw [warningOf]
  split
  · exact List.nil_sublist _
  · rw [List.map_singleton, String.toList_append, String.toList_append, List.append_assoc,
      List.head?_append, h]
    exact List.Sublist.refl _

/-- No two kinds of findings give the same warning. -/
theorem nodup_warningsOf (links targets pipelines references names : List String) :
    (warningsOf links targets pipelines references names).Nodup := by
  have hheads : ((warningsOf links targets pipelines references names).map
      fun message => message.toList.head?).Sublist
        ([some 'L'] ++ [some 'E'] ++ [some 'P'] ++ [some 'U'] ++ [some 'N']) := by
    simp only [warningsOf, List.map_append]
    exact ((((head_warningOf_sublist rfl links).append
      (head_warningOf_sublist rfl targets)).append
      (head_warningOf_sublist rfl pipelines)).append
      (head_warningOf_sublist rfl references)).append (head_warningOf_sublist rfl names)
  exact List.Nodup.of_map _ (hheads.nodup (by decide))

namespace Map

variable (map : Map)

/-- A map gives no warning if its report lists nothing. -/
theorem warnings_eq_nil_iff :
    map.report.warnings = [] ↔
      map.report.danglingLinks = [] ∧ map.report.missingEvolveTargets = [] ∧
        map.report.pipelinesWithoutElement = [] ∧ map.report.unknownUrlReferences = [] ∧
          map.report.duplicateNames = [] := by
  simp only [report, warningsOf, List.append_eq_nil_iff, warningOf_eq_nil_iff, List.map_eq_nil_iff,
    and_assoc]

end Map

/-- A list of messages names each of those added once, in the order of their first addition. -/
structure ListsOnce (added listed : List String) : Prop where
  mem_iff : ∀ message, message ∈ listed ↔ message ∈ added
  nodup : listed.Nodup
  ordered : listed.Pairwise fun first second => added.idxOf first < added.idxOf second

namespace ListsOnce

/-- Messages of which none is added twice. -/
theorem of_nodup {added : List String} (h : added.Nodup) : ListsOnce added added where
  mem_iff := fun _ => Iff.rfl
  nodup := h
  ordered := by
    rw [List.pairwise_iff_getElem]
    intro i j hi hj hlt
    rwa [h.idxOf_getElem i hi, h.idxOf_getElem j hj]

variable {Title Link : Type} {report : Report Title Link} {added : List String}

/-- One more warning is listed behind the others, unless it is there. -/
theorem warn (h : ListsOnce added report.warnings) (message : String) :
    ListsOnce (added ++ [message]) (report.warn message).warnings := by
  -- the first addition of a listed message stays where it is
  have hordered : report.warnings.Pairwise fun first second =>
      (added ++ [message]).idxOf first < (added ++ [message]).idxOf second := by
    refine List.Pairwise.imp_of_mem ?_ h.ordered
    intro first second hfirst hsecond hlt
    rwa [List.idxOf_append_of_mem ((h.mem_iff _).1 hfirst),
      List.idxOf_append_of_mem ((h.mem_iff _).1 hsecond)]
  unfold Report.warn
  by_cases hmem : message ∈ report.warnings
  · rw [if_pos (List.contains_iff_mem.2 hmem)]
    refine ⟨fun other => ?_, h.nodup, hordered⟩
    rw [List.mem_append, List.mem_singleton, h.mem_iff other]
    constructor
    · exact .inl
    · rintro (hother | rfl)
      · exact hother
      · exact (h.mem_iff other).1 hmem
  · have hnew : message ∉ added := mt (h.mem_iff message).2 hmem
    rw [if_neg (mt List.contains_iff_mem.1 hmem)]
    refine ⟨fun other => ?_, ?_, ?_⟩
    · rw [List.mem_append, List.mem_append, h.mem_iff other]
    · rw [List.nodup_append]
      refine ⟨h.nodup, List.nodup_singleton _, ?_⟩
      rintro other hother last hlast rfl
      exact hmem (List.mem_singleton.1 hlast ▸ hother)
    · rw [List.pairwise_append]
      refine ⟨hordered, List.pairwise_singleton _ _, ?_⟩
      intro first hfirst second hsecond
      obtain rfl := List.mem_singleton.1 hsecond
      have hfirst := (h.mem_iff first).1 hfirst
      rw [List.idxOf_append_of_mem hfirst, List.idxOf_append_of_notMem hnew]
      have := List.idxOf_lt_length_of_mem hfirst
      omega

/-- Any number of warnings. -/
theorem foldl_warn (h : ListsOnce added report.warnings) (messages : List String) :
    ListsOnce (added ++ messages) (messages.foldl Report.warn report).warnings := by
  induction messages generalizing report added with
  | nil => simpa using h
  | cons message rest ih =>
      rw [List.foldl_cons, List.append_cons]
      exact ih (h.warn message)

end ListsOnce

/-- Warnings change nothing else in a report. -/
theorem foldl_warn_eq {Title Link : Type} (report : Report Title Link) (messages : List String) :
    messages.foldl Report.warn report =
      { report with warnings := (messages.foldl Report.warn report).warnings } := by
  induction messages generalizing report with
  | nil => rfl
  | cons message rest ih =>
      have hstep : report.warn message =
          { report with warnings := (report.warn message).warnings } := by
        unfold Report.warn
        split <;> rfl
      rw [List.foldl_cons, ih, hstep]

/-! ## References -/

/-- What is drawn of the references of a map, and what its report lists of them. -/
structure Map.AccountsForReferences (map : Map) : Prop where
  /-- The links that are drawn are those of which the table has both ends. -/
  drawn_eq :
    map.resolvedLinks.map ResolvedLink.link =
      map.links.filter fun link =>
        link.start ∈ map.index.map Prod.fst ∧ link.finish ∈ map.index.map Prod.fst
  drawn_between : ∀ drawn ∈ map.resolvedLinks,
    map.index.get? drawn.link.start = some drawn.start ∧
      map.index.get? drawn.link.finish = some drawn.finish
  /-- The others are reported. -/
  dangling_eq :
    map.report.danglingLinks =
      map.links.filter fun link =>
        ¬ (link.start ∈ map.index.map Prod.fst ∧ link.finish ∈ map.index.map Prod.fst)
  length_add : map.resolvedLinks.length + map.report.danglingLinks.length = map.report.totalLinks
  total_eq : map.report.totalLinks = map.links.length
  /-- Evolutions are entered one by one, and those that enter nothing are reported. -/
  index_eq : map.index = map.evolved.foldl map.project map.namedIndex
  missing_iff : ∀ name, name ∈ map.report.missingEvolveTargets ↔
    ∃ evolved ∈ map.evolved, evolved.name = name ∧ ∀ index, map.project index evolved = index
  duplicate_iff : ∀ name, name ∈ map.report.duplicateNames ↔
    2 ≤ (map.elements.filter fun element => element.name == name).length
  pipeline_iff : ∀ name, name ∈ map.report.pipelinesWithoutElement ↔
    (∃ pipeline ∈ map.pipelines, pipeline.name = name) ∧
      ∀ element ∈ map.elements, element.name ≠ name
  url_iff : ∀ name, name ∈ map.report.unknownUrlReferences ↔
    (∃ element ∈ map.elements, element.url = some name) ∧ map.url? name = none
  /-- Every name is listed once. -/
  nodup : map.report.missingEvolveTargets.Nodup ∧ map.report.duplicateNames.Nodup ∧
    map.report.pipelinesWithoutElement.Nodup ∧ map.report.unknownUrlReferences.Nodup
  warnings_iff : map.report.warnings = [] ↔
    map.report.danglingLinks = [] ∧ map.report.missingEvolveTargets = [] ∧
      map.report.pipelinesWithoutElement = [] ∧ map.report.unknownUrlReferences = [] ∧
        map.report.duplicateNames = []
  /-- Further warnings are listed behind those of the report, each of them once. -/
  warned : ∀ messages : List String, ∃ listed,
    messages.foldl Report.warn map.report = { map.report with warnings := listed } ∧
      ListsOnce (map.report.warnings ++ messages) listed

/-- What is drawn of a map and what its report lists are complements. -/
theorem Map.accounts_for_references (map : Map) : map.AccountsForReferences := by
  have hends : map.hasEnds = fun link =>
      decide (link.start ∈ map.index.map Prod.fst ∧ link.finish ∈ map.index.map Prod.fst) := by
    funext link
    rw [Bool.eq_iff_iff, hasEnds, Bool.and_eq_true, decide_eq_true_eq, List.contains_iff_mem,
      List.contains_iff_mem]
  have hdrawn := map.link_resolvedLinks
  have hdangling : map.report.danglingLinks = _ := map.danglingLinks_eq
  have hlength : map.resolvedLinks.length + map.report.danglingLinks.length = map.links.length := by
    rw [← List.length_map ResolvedLink.link, hdrawn, hdangling]
    exact (List.length_eq_length_filter_add _).symm
  rw [hends] at hdrawn hdangling
  exact {
    drawn_eq := hdrawn
    drawn_between := fun drawn hmem => map.places_of_mem_resolvedLinks hmem
    dangling_eq := by simpa only [decide_not] using hdangling
    length_add := hlength
    total_eq := rfl
    index_eq := map.index_eq_foldl_project
    missing_iff := fun name => map.mem_missingEvolveTargets
    duplicate_iff := fun name => map.mem_duplicateNames
    pipeline_iff := fun name => map.mem_pipelinesWithoutElement
    url_iff := fun name => map.mem_unknownUrlReferences
    nodup := ⟨nodup_sortedNames _, nodup_sortedNames _, nodup_sortedNames _, nodup_sortedNames _⟩
    warnings_iff := map.warnings_eq_nil_iff
    warned := fun messages => ⟨_, foldl_warn_eq map.report messages,
      (ListsOnce.of_nodup (nodup_warningsOf _ _ _ _ _)).foldl_warn messages⟩ }

/-- A link to a projection under another name is drawn, one to a projection without a source is
not. -/
example :
    let tea : Element := { name := "Tea", maturity := .int 0, visibility := .int 1 }
    let map : Map := {
      components := [tea]
      evolved := [{ name := "Tea", override := "Cup", maturity := .int 1 },
        { name := "Mug", maturity := .int 1 }]
      links := [{ start := "Tea", finish := "Cup" }, { start := "Tea", finish := "Mug" }] }
    map.resolvedLinks.map (fun drawn => drawn.link.finish) = ["Cup"] ∧
      map.report.danglingLinks.map Link.finish = ["Mug"] ∧
      map.report.missingEvolveTargets = ["Mug"] := by
  decide +kernel

end Wardley
