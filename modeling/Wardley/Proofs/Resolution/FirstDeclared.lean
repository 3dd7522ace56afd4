import Wardley.Proofs.Construct.Headers
import Wardley.Proofs.Parsing.Ranks
import Wardley.Proofs.Resolution.Precedence

/-!
# Names that are declared more than once

Several elements of a text may have the same name.  A pipeline of that name takes the
visibility of the one that is declared first.  The table of positions is filled in the
order of the collections of the map, so that there the class of an element counts before
its line, and among elements of one class the keyword does.

Main definitions:

- `drawn?`: the declared element at which a name is drawn.
- `IsFirst`: the declared element of a name with the smallest line.

Main results:

- `find?_elements_unify`: the first element of a name on a map is the drawn one.
- `IsFirst.drawn?_eq_some_iff`: when the first declaration of a name is the drawn one.
- `parse_places`: the places of a name that elements declare.
-/

namespace Wardley

open Construct Notation

/-! ## Drawn elements -/

/-- The element at which a name is drawn: of the least rank, and the first one of that. -/
def drawn? (declared : List Element) (name : String) : Option Element :=
  (declared.filter fun element => element.name == name).argmin Element.rank

/-- The first element of a name on a map is the one at which the name is drawn. -/
theorem find?_elements_unify (switches : Switches) (lines : List (Nat × List Char))
    (name : String) :
    ((draftOf switches lines).unify.elements.find? fun element => element.name == name) =
      (drawn? (declaredElements lines) name).map (draftOf switches lines).unifyElement := by
  rw [elements_unify_eq, List.find?_map]
  congr 1
  exact find?_flatMap_filter (by decide) fun element _ _ => element.rank_mem_ranks

/-- The line of an element, and zero if it has none. -/
def Element.number (element : Element) : Nat := (element.line.map position).getD 0

/-- Declared elements stand in the order of their lines. -/
theorem pairwise_number_declaredElements (lines : List (List Char)) :
    ((declaredElements (numbered lines)).map Element.number).Pairwise (· < ·) := by
  rw [declaredElements, elementsOf, map_line_records (f := id)]
  · have hordered := pairwise_line_declarations elementWords (pairwise_linesOutsideBlocks lines)
    exact hordered.sublist (List.filter_sublist.map _)
  · intro d _ element hread
    rw [Element.number, (readElement_eq_ok hread).line_eq]
    rfl

/-- An element is the declared one of a name that has the smallest line. -/
structure IsFirst (declared : List Element) (name : String) (first : Element) : Prop where
  mem : first ∈ declared
  name_eq : first.name = name
  least : ∀ other ∈ declared, other.name = name → first.number ≤ other.number

instance (declared : List Element) (name : String) (first : Element) :
    Decidable (IsFirst declared name first) :=
  decidable_of_iff (first ∈ declared ∧ first.name = name ∧
      ∀ other ∈ declared, other.name = name → first.number ≤ other.number)
    ⟨fun h => ⟨h.1, h.2.1, h.2.2⟩, fun h => ⟨h.mem, h.name_eq, h.least⟩⟩

namespace IsFirst

variable {declared : List Element} {name : String} {first : Element}
  (h : IsFirst declared name first)
  (hordered : (declared.map Element.number).Pairwise (· < ·))
include h hordered

/-- No element of the name stands before the first one. -/
theorem exists_append : ∃ before behind, declared = before ++ first :: behind ∧
    ∀ other ∈ before, other.name ≠ name := by
  rcases List.append_of_mem h.mem with ⟨before, behind, rfl⟩
  refine ⟨before, behind, rfl, ?_⟩
  intro other hother hname
  rw [List.map_append, List.map_cons, List.pairwise_append] at hordered
  have hlt : other.number < first.number :=
    hordered.2.2 _ (List.mem_map_of_mem hother) _ List.mem_cons_self
  exact absurd (h.least other (by simp [hother]) hname) (Nat.not_le.2 hlt)

/-- The first element of a name is found first. -/
theorem find?_eq : (declared.find? fun element => element.name == name) = some first := by
  rcases h.exists_append hordered with ⟨before, behind, rfl, hbefore⟩
  rw [List.find?_append, List.find?_eq_none.2 (by simpa using hbefore), Option.none_or,
    List.find?_cons_of_pos (by simpa using h.name_eq)]

/-- A name is drawn at its first element if and only if no other one has a lower rank. -/
theorem drawn?_eq_some_iff : drawn? declared name = some first ↔
    ∀ other ∈ declared, other.name = name → first.rank ≤ other.rank := by
  constructor
  · intro hdrawn other hother hname
    have hmem : other ∈ declared.filter fun element => element.name == name :=
      List.mem_filter.2 ⟨hother, by simpa using hname⟩
    exact List.le_of_mem_argmin hmem hdrawn
  · intro hleast
    rcases h.exists_append hordered with ⟨before, behind, rfl, hbefore⟩
    have hnone : (before.filter fun element => element.name == name) = [] :=
      List.filter_eq_nil_iff.2 (by simpa using hbefore)
    rw [drawn?, List.filter_append, hnone, List.filter_cons_of_pos (by simpa using h.name_eq)]
    refine argmin_append_cons (by simp) fun other hother => ?_
    rcases List.mem_filter.1 hother with ⟨hother, hname⟩
    exact hleast other (by simp [hother]) (beq_iff_eq.1 hname)

end IsFirst

/-! ## Places of names -/

section Places

variable {switches : Switches} {lines : List (List Char)} {name : String} {first : Element}
  (hfirst : IsFirst (declaredElements (numbered lines)) name first)
include hfirst

/-- A pipeline has the visibility of the first element of its name. -/
theorem visibility_of_isFirst {pipeline : Pipeline}
    (h : pipeline ∈ (draftOf switches (numbered lines)).unify.pipelines)
    (hname : pipeline.name = name) : pipeline.visibility = first.visibility := by
  rcases List.mem_map.1 h with ⟨declared, hdeclared, rfl⟩
  have hvisibility := visibility_of_mem_pipelines _ _ hdeclared
  rw [firstVisibility?, show declared.name = name from hname,
    hfirst.find?_eq (pairwise_number_declaredElements lines)] at hvisibility
  exact hvisibility

/-- A name that is no projection is drawn at the element of the least rank. -/
theorem position?_of_isFirst
    (hsource : ∀ evolved ∈ (draftOf switches (numbered lines)).unify.evolved,
      evolved.displayName = name →
        (draftOf switches (numbered lines)).unify.element? evolved.name = none) :
    ∃ drawn, drawn? (declaredElements (numbered lines)) name = some drawn ∧
      (draftOf switches (numbered lines)).unify.position? name =
        some ⟨drawn.maturity, drawn.visibility, false⟩ := by
  let map := (draftOf switches (numbered lines)).unify
  have hprojections :
      (map.projections.reverse.find? fun entry => entry.1 == name) = none := by
    refine List.find?_eq_none.2 fun entry hentry => ?_
    rcases List.mem_filterMap.1 (List.mem_reverse.1 hentry) with ⟨evolved, hevolved, hentry⟩
    rcases Option.map_eq_some_iff.1 hentry with ⟨source, helement, rfl⟩
    intro hname
    rw [hsource evolved hevolved (beq_iff_eq.1 hname)] at helement
    cases helement
  cases hdrawn : drawn? (declaredElements (numbered lines)) name with
  | none =>
      rw [drawn?, List.argmin_eq_none, List.filter_eq_nil_iff] at hdrawn
      exact absurd (beq_iff_eq.2 hfirst.name_eq) (hdrawn first hfirst.mem)
  | some drawn =>
      have helement : (map.elements.find? fun element => element.name == name) =
          some ((draftOf switches (numbered lines)).unifyElement drawn) := by
        rw [find?_elements_unify, hdrawn]
        rfl
      have hplaced : ((map.elements.map Element.placed).find? fun entry => entry.1 == name) =
          some ((draftOf switches (numbered lines)).unifyElement drawn).placed := by
        rw [List.find?_map]
        exact congrArg (Option.map Element.placed) helement
      refine ⟨drawn, rfl, ?_⟩
      rw [Map.position?_eq, hprojections, List.find?_append, hplaced]
      rfl

end Places

/--
Pipelines take the visibility of the first element of their name.  A name that is not
the projection of an element is drawn at the element of the least rank, which is the first
one exactly if no later element of the name has a lower rank.
-/
theorem parse_places (switches : Switches) (text : String) {name : String} {first : Element}
    (hfirst : IsFirst (declaredElements (numbered (cleanLines text.toList))) name first)
    (hsource : ∀ evolved ∈ (parse switches text).evolved, evolved.displayName = name →
      (parse switches text).element? evolved.name = none) :
    let declared := declaredElements (numbered (cleanLines text.toList))
    (∀ pipeline ∈ (parse switches text).pipelines, pipeline.name = name →
      pipeline.visibility = first.visibility) ∧
    ∃ drawn, drawn? declared name = some drawn ∧
      (parse switches text).position? name = some ⟨drawn.maturity, drawn.visibility, false⟩ ∧
      (drawn = first ↔ ∀ other ∈ declared, other.name = name → first.rank ≤ other.rank) := by
  intro declared
  rw [parse_eq_unify] at hsource ⊢
  refine ⟨fun pipeline => visibility_of_isFirst hfirst, ?_⟩
  rcases position?_of_isFirst hfirst hsource with ⟨drawn, hdrawn, hposition⟩
  refine ⟨drawn, hdrawn, hposition, ?_⟩
  have hordered := pairwise_number_declaredElements (cleanLines text.toList)
  rw [← hfirst.drawn?_eq_some_iff hordered, hdrawn, Option.some.injEq]

/-- Of an anchor that is a market and a later ecosystem of the same name the anchor is drawn. -/
theorem parse_places_anchor :
    let text := "anchor Tea (market) [0.6, 0.8]\nevolve Milk->Tea 0.9\n" ++
      "ecosystem Tea [0.1, 0.2]\npipeline Tea"
    let map := parse .allOn text
    let declared := declaredElements (numbered (cleanLines text.toList))
    IsFirst declared "Tea" declared.headI ∧
      (∀ evolved ∈ map.evolved, evolved.displayName = "Tea" →
        map.element? evolved.name = none) ∧
      (∀ pipeline ∈ map.pipelines, pipeline.name = "Tea" →
        pipeline.visibility = declared.headI.visibility) ∧
      ∃ drawn, drawn? declared "Tea" = some drawn ∧
        map.position? "Tea" = some ⟨drawn.maturity, drawn.visibility, false⟩ ∧
        (drawn = declared.headI ↔
          ∀ other ∈ declared, other.name = "Tea" → declared.headI.rank ≤ other.rank) := by
  intro text map declared
  have hfirst : IsFirst declared "Tea" declared.headI := by decide +kernel
  have hsource : ∀ evolved ∈ map.evolved, evolved.displayName = "Tea" →
      map.element? evolved.name = none := by decide +kernel
  exact ⟨hfirst, hsource, parse_places .allOn text hfirst hsource⟩

/-- Of a market and a later component of the same name the component is drawn. -/
theorem later_component_drawn :
    let text := "market Tea [0.6, 0.8]\ncomponent Tea [0.1, 0.2]\npipeline Tea"
    let map := parse .allOn text
    let declared := declaredElements (numbered (cleanLines text.toList))
    IsFirst declared "Tea" declared.headI ∧ map.evolved = [] ∧
      declared.headI.visibility = .float (.ofDecimal ⟨false, 6, -1⟩) ∧
      map.pipelines.map Pipeline.visibility = [.float (.ofDecimal ⟨false, 6, -1⟩)] ∧
      map.position? "Tea" = some
        ⟨.float (.ofDecimal ⟨false, 2, -1⟩), .float (.ofDecimal ⟨false, 1, -1⟩), false⟩ := by
  decide +kernel

end Wardley
