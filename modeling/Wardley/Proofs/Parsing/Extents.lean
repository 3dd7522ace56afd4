import Wardley.Proofs.Construct.Headers
import Wardley.Proofs.Numeric.Order
import Wardley.Proofs.Parsing.Draft

/-!
# Extents of pipelines

The extent of a pipeline with children reaches from the smallest to the largest of their
maturities, whatever range its header declares.  This presupposes that no maturity is
missing, since nothing is below or above a missing number; and no maturity of a child that is
read from a text is missing, since every numeral denotes a double, be it an infinity or a
zero of either sign.

Main definitions:

- `Number.Spans`: a range from the smallest to the largest of some numbers.
- `Map.SpansChildren`: the pipelines of a map reach as far as their children.

Main results:

- `spans_rangeOf`: the range of numbers none of which is missing.
- `Number.Spans.value?_eq`: the values at both ends depend on the numbers alone.
- `Pipeline.extent_perm`: the extent of a pipeline whose children change places.
- `value?_of_mem_pipelines`: no child that is read has a missing maturity.
- `extents_spanChildren`: the extents of all maps, and of all orders of children.
-/

namespace Wardley

open Construct Notation

/-! ## Ranges of numbers -/

/-- The range reaches from one of the smallest of the numbers to one of the largest. -/
structure Number.Spans (range : Number × Number) (numbers : List Number) : Prop where
  lower_mem : range.1 ∈ numbers
  upper_mem : range.2 ∈ numbers
  lower_atMost : ∀ number ∈ numbers, range.1.AtMost number
  atMost_upper : ∀ number ∈ numbers, number.AtMost range.2

/-- The range of numbers none of which is missing. -/
theorem spans_rangeOf {first : Number} {others : List Number}
    (h : ∀ number ∈ first :: others, number.value? ≠ none) :
    Number.Spans (rangeOf first others) (first :: others) := by
  have hlower := Number.foldl_extreme (fun a b => a.AtMost b) Number.lower_eq
    Number.lower_atMost Number.AtMost.refl Number.AtMost.trans others first h
  have hupper := Number.foldl_extreme (fun a b => b.AtMost a) Number.upper_eq
    Number.atMost_upper Number.AtMost.refl (fun hab hbc => hbc.trans hab) others first h
  exact ⟨hlower.1, hupper.1, hlower.2, hupper.2⟩

/-- Ranges of the same numbers have the same values at their ends. -/
theorem Number.Spans.value?_eq {range other : Number × Number} {numbers others : List Number}
    (h : Number.Spans range numbers) (hother : Number.Spans other others)
    (hsame : ∀ number, number ∈ numbers ↔ number ∈ others) :
    range.1.value? = other.1.value? ∧ range.2.value? = other.2.value? where
  left := (h.lower_atMost _ ((hsame _).2 hother.lower_mem)).antisymm
    (hother.lower_atMost _ ((hsame _).1 h.lower_mem))
  right := (hother.atMost_upper _ ((hsame _).1 h.upper_mem)).antisymm
    (h.atMost_upper _ ((hsame _).2 hother.upper_mem))

/-! ## Extents -/

namespace Pipeline

variable {pipeline : Pipeline}

/-- The extent of a pipeline with children spans their maturities, whatever was declared. -/
theorem spans_extent (hchildren : pipeline.children ≠ [])
    (hnumbers : ∀ child ∈ pipeline.children, child.maturity.value? ≠ none) :
    Number.Spans pipeline.extent (pipeline.children.map PipelineChild.maturity) := by
  cases hlist : pipeline.children with
  | nil => exact absurd hlist hchildren
  | cons child others =>
      rw [extent, hlist]
      refine spans_rangeOf fun number hnumber => ?_
      rw [← List.map_cons, ← hlist] at hnumber
      rcases List.mem_map.1 hnumber with ⟨child, hchild, rfl⟩
      exact hnumbers child hchild

/-- Children that change places leave the values at the ends of the extent as they are. -/
theorem extent_perm {others : List PipelineChild} (hperm : pipeline.children.Perm others)
    (hnumbers : ∀ child ∈ pipeline.children, child.maturity.value? ≠ none) :
    pipeline.extent.1.value? = { pipeline with children := others }.extent.1.value? ∧
      pipeline.extent.2.value? = { pipeline with children := others }.extent.2.value? := by
  by_cases hchildren : pipeline.children = []
  · have hothers : others = pipeline.children := by
      rw [hchildren] at hperm ⊢
      exact hperm.nil_eq.symm
    rw [hothers]
    exact ⟨rfl, rfl⟩
  · have hothers : others ≠ [] := fun hnil => hchildren (hnil ▸ hperm).eq_nil
    have hspans := spans_extent hchildren hnumbers
    have hspans' : Number.Spans { pipeline with children := others }.extent
        (others.map PipelineChild.maturity) :=
      spans_extent hothers fun child hchild => hnumbers child (hperm.mem_iff.2 hchild)
    exact hspans.value?_eq hspans' fun number => (hperm.map _).mem_iff

/-- Ends with the same values are equal as numbers when the children have maturities. -/
theorem same_extent_perm {others : List PipelineChild} (hperm : pipeline.children.Perm others)
    (hchildren : pipeline.children ≠ [])
    (hnumbers : ∀ child ∈ pipeline.children, child.maturity.value? ≠ none) :
    pipeline.extent.1.same { pipeline with children := others }.extent.1 = true ∧
      pipeline.extent.2.same { pipeline with children := others }.extent.2 = true := by
  rcases extent_perm hperm hnumbers with ⟨hlower, hupper⟩
  have hspans := spans_extent hchildren hnumbers
  rcases hspans.lower_atMost _ hspans.lower_mem with ⟨x, -, hx, -⟩
  rcases hspans.atMost_upper _ hspans.upper_mem with ⟨y, -, hy, -⟩
  exact ⟨(Number.same_iff hx (hlower ▸ hx)).2 rfl, (Number.same_iff hy (hupper ▸ hy)).2 rfl⟩

end Pipeline

/-! ## Children that are read -/

theorem value?_of_readNumber {what : String} {token : List Char} {value : Double}
    (h : readNumber what token = .ok value) : (Number.float value).value? ≠ none := by
  unfold readNumber numeral? at h
  split at h
  · rename_i found hfound
    rcases Option.map_eq_some_iff.1 hfound with ⟨decimal, -, rfl⟩
    cases h
    rw [ne_eq, Number.value?_eq_none_iff]
    rintro ⟨payload, hnan⟩
    exact Double.ofDecimal_ne_nan decimal payload (Number.float.inj hnan)
  · contradiction

theorem value?_of_readChild {visibility : Number} {declared : Declaration} {child : PipelineChild}
    (h : readChild visibility declared = .ok child) : child.maturity.value? ≠ none := by
  unfold readChild at h
  split at h
  · cases h
  · simp only [bind_eq_ok, guard_eq_ok, pure_eq_ok] at h
    rcases h with ⟨-, maturity, hmaturity, -, -, rfl⟩
    unfold readSingle at hmaturity
    split at hmaturity
    · exact value?_of_readNumber hmaturity
    · contradiction

/-- No child that is read has a missing maturity. -/
theorem value?_of_mem_pipelines {readBlocks : Bool} {lines : List (Nat × List Char)}
    {pipeline : Pipeline} (h : pipeline ∈ (pipelines readBlocks lines).records) :
    ∀ child ∈ pipeline.children, child.maturity.value? ≠ none := by
  intro child hchild
  have hmem := List.mem_flatMap.2 ⟨pipeline, h, hchild⟩
  rcases (mem_children_pipelines readBlocks lines).1 hmem with ⟨declared, -, hread⟩
  exact value?_of_readChild hread

/-! ## Extents of maps -/

/-- The pipelines of a map reach exactly as far as their children do. -/
structure Map.SpansChildren (map : Map) : Prop where
  /-- No maturity of a child is missing. -/
  present : ∀ pipeline ∈ map.pipelines, ∀ child ∈ pipeline.children, ∀ payload,
    child.maturity ≠ .float (.nan payload)
  /-- The range of a pipeline with children is that of their maturities. -/
  spans : ∀ pipeline ∈ map.pipelines, pipeline.children ≠ [] → ∃ lower upper,
    pipeline.maturity1 = some lower ∧ pipeline.maturity2 = some upper ∧
      Number.Spans (lower, upper) (pipeline.children.map PipelineChild.maturity)

theorem spansChildren_unify {draft : Draft}
    (h : ∀ pipeline ∈ draft.pipelines, ∀ child ∈ pipeline.children,
      child.maturity.value? ≠ none) : draft.unify.SpansChildren where
  present := by
    intro pipeline hpipeline child hchild payload hnan
    rcases List.mem_map.1 hpipeline with ⟨declared, hdeclared, rfl⟩
    exact h declared hdeclared child hchild (Number.value?_eq_none_iff.2 ⟨payload, hnan⟩)
  spans := by
    intro pipeline hpipeline hchildren
    rcases List.mem_map.1 hpipeline with ⟨declared, hdeclared, rfl⟩
    exact ⟨_, _, rfl, rfl, Pipeline.spans_extent hchildren (h declared hdeclared)⟩

/--
The pipelines of the map of every text reach exactly as far as their children, whatever range
is declared for them.  The extent of any pipeline keeps its values when its children change
places and none of them misses a maturity; with children the ends are equal as numbers.
-/
theorem extents_spanChildren :
    (∀ switches text, (parse switches text).SpansChildren) ∧
      ∀ (pipeline : Pipeline) (others : List PipelineChild), pipeline.children.Perm others →
        (∀ child ∈ pipeline.children, ∀ payload, child.maturity ≠ .float (.nan payload)) →
          pipeline.extent.1.value? = { pipeline with children := others }.extent.1.value? ∧
          pipeline.extent.2.value? = { pipeline with children := others }.extent.2.value? ∧
          (pipeline.children ≠ [] →
            pipeline.extent.1.same { pipeline with children := others }.extent.1 = true ∧
            pipeline.extent.2.same { pipeline with children := others }.extent.2 = true) := by
  constructor
  · intro switches text
    rw [parse_eq_unify]
    exact spansChildren_unify fun pipeline hpipeline => value?_of_mem_pipelines hpipeline
  · intro pipeline others hperm hpresent
    have hnumbers : ∀ child ∈ pipeline.children, child.maturity.value? ≠ none := by
      intro child hchild hnone
      rcases Number.value?_eq_none_iff.1 hnone with ⟨payload, hnan⟩
      exact hpresent child hchild payload hnan
    rcases Pipeline.extent_perm hperm hnumbers with ⟨hlower, hupper⟩
    exact ⟨hlower, hupper, fun hchildren =>
      Pipeline.same_extent_perm hperm hchildren hnumbers⟩

/--
Of two zeros the first one written is both ends of the extent, so that the ends are other
doubles when the zeros change places, but equal ones.
-/
theorem extents_spanChildren_zeros :
    let map := parse .allOn
      "pipeline Zeros [0.9, 0.1]\n\x7b\ncomponent Right [0]\ncomponent Left [-0]\n\x7d"
    let zeros := map.pipelines.headI
    let mirrored := { zeros with children := zeros.children.reverse }
    map.SpansChildren ∧ zeros ∈ map.pipelines ∧ zeros.children ≠ [] ∧
      zeros.extent ≠ mirrored.extent ∧ zeros.extent.1.same mirrored.extent.1 = true ∧
      zeros.extent.2.same mirrored.extent.2 = true := by
  intro map zeros mirrored
  have hspans : map.SpansChildren := extents_spanChildren.1 .allOn _
  have hmem : zeros ∈ map.pipelines := by decide +kernel
  have hchildren : zeros.children ≠ [] := by decide +kernel
  have hother : zeros.extent ≠ mirrored.extent := by decide +kernel
  have hperm := (List.reverse_perm zeros.children).symm
  have hsame := extents_spanChildren.2 zeros _ hperm (hspans.present zeros hmem)
  exact ⟨hspans, hmem, hchildren, hother, hsame.2.2 hchildren⟩

end Wardley
