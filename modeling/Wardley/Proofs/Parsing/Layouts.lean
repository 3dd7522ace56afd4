import Wardley.Proofs.Construct.BlockLayout
import Wardley.Proofs.Parsing.Locality

/-!
# Blocks laid out in a text

A block may be laid out in a text in many ways.  Between the same lines, all of them are read
as the same pipeline with the same children and the same diagnostics, but for the lines on
which these stand.

Main definitions:

- `LaidOut`: lines in which a block is laid out between others.

Main results:

- `LaidOut.pipelines_eq`: the pipelines around a block, and what the block gives.
- `LaidOut.read_eq`: the layout of a block does not matter.
-/

namespace Wardley

open Construct Notation Text

/-- Lines in which a block is laid out between others.  Its closing brace may be left out only
if no line follows. -/
inductive LaidOut (header : List Char) (bodies before after : List (List Char)) :
    List (List Char) → Prop where
  /-- The lines of the block stand between those before and those after it. -/
  | intro {closed : Bool} {lines : List (List Char)} (hlayout : Layout header bodies closed lines)
    (hclosed : closed = false → after = []) :
    LaidOut header bodies before after (before ++ (lines ++ after))

/-! ## Forgetting lines -/

section Forgetting

variable (f : Nat → Nat)

theorem forget_pipelines (outcome : Outcome Pipeline) :
    (outcome.mapLines (Pipeline.mapLine f) f).mapLines (Pipeline.mapLine noLine) noLine =
      outcome.mapLines (Pipeline.mapLine noLine) noLine := by
  simp only [Outcome.mapLines, List.map_map, Function.comp_def, Pipeline.mapLine_mapLine,
    Diagnostic.mapLine_mapLine]
  rfl

theorem forget_elements (elements : List Element) :
    (elements.map (Element.mapLine f)).map (Element.mapLine noLine) =
      elements.map (Element.mapLine noLine) := by
  simp only [List.map_map, Function.comp_def, Element.mapLine_mapLine]
  rfl

end Forgetting

/-! ## Lines behind a block -/

section Behind

variable {header : List Char} {bodies lines after : List (List Char)} {closed : Bool}
  (h : Layout header bodies closed lines) (hclosed : closed = false → after = [])
  (hbrace : '{' ∉ header) (hbodies : ∀ body ∈ bodies, IsChildBody body)
include h hclosed hbrace hbodies

/-- A block declares nothing among the elements behind it. -/
theorem declaredElements_layout_append :
    (declaredElements (numbered (lines ++ after))).map (Element.mapLine noLine) =
      (declaredElements (numbered after)).map (Element.mapLine noLine) := by
  unfold declaredElements
  cases closed with
  | false =>
      rw [hclosed rfl, List.append_nil, h.elementsOf_eq hbrace hbodies]
      rfl
  | true =>
      have hseam := (h.closesBlocks hbrace hbodies rfl).apart after
      rw [elementsOf_append hseam, h.elementsOf_eq hbrace hbodies]
      exact forget_elements _ _

/-- Behind a block, pipelines are read as they are without it. -/
theorem pipelinesAmong_layout_append (declared : List Element) :
    (pipelinesAmong declared (lines ++ after)).mapLines (Pipeline.mapLine noLine) noLine =
      readLaidOut declared header bodies ++
        (pipelinesAmong declared after).mapLines (Pipeline.mapLine noLine) noLine := by
  rw [← h.pipelinesAmong_eq hbrace hbodies declared]
  cases closed with
  | false =>
      rw [hclosed rfl, List.append_nil]
      exact (congrArg₂ Outcome.mk (List.append_nil _) (List.append_nil _)).symm
  | true =>
      have hseam := (h.closesBlocks hbrace hbodies rfl).apart after
      rw [pipelinesAmong_append hseam, mapLines_append, forget_pipelines]

end Behind

/-! ## Texts with a block -/

namespace LaidOut

variable {header : List Char} {bodies before after lines : List (List Char)}
  (h : LaidOut header bodies before after lines) (hbrace : '{' ∉ header)
  (hbodies : ∀ body ∈ bodies, IsChildBody body)
  (hbefore : ∀ block ∈ blocks before, block.closing < before.length)
include h hbrace hbodies hbefore

/-- Around a block, pipelines are those of the lines before and after it. -/
theorem pipelines_eq :
    let declared := declaredElements (numbered before) ++ declaredElements (numbered after)
    (pipelines true (numbered lines)).mapLines (Pipeline.mapLine noLine) noLine =
      (pipelinesAmong declared before).mapLines (Pipeline.mapLine noLine) noLine ++
        (readLaidOut declared header bodies ++
          (pipelinesAmong declared after).mapLines (Pipeline.mapLine noLine) noLine) := by
  intro declared
  rcases h with @⟨closed, lines, hlayout, hclosed⟩
  have hseam : BlocksApart before (lines ++ after) := by
    rcases hlayout.exists_header with ⟨line, rest, rfl, hheader⟩
    exact apart_of_isHeader hbefore hheader
  have hdeclared : (declaredElements (numbered (before ++ (lines ++ after)))).map
      (Element.mapLine noLine) = declared.map (Element.mapLine noLine) := by
    have hsplit : declaredElements (numbered (before ++ (lines ++ after))) =
        declaredElements (numbered before) ++
          (declaredElements (numbered (lines ++ after))).map
            (Element.mapLine (· + before.length)) :=
      congrArg Outcome.records (elementsOf_append hseam _)
    rw [hsplit, List.map_append, List.map_append, forget_elements,
      declaredElements_layout_append hlayout hclosed hbrace hbodies]
  have hvisibility : firstVisibility? (declaredElements (numbered (before ++ (lines ++ after)))) =
      firstVisibility? declared := by
    rw [← firstVisibility?_mapLine noLine, hdeclared, firstVisibility?_mapLine]
  rw [pipelines_eq_pipelinesAmong, pipelinesAmong_congr hvisibility, pipelinesAmong_append hseam,
    mapLines_append, forget_pipelines,
    pipelinesAmong_layout_append hlayout hclosed hbrace hbodies]

/-- The layout of a block does not matter: but for line numbers, all layouts between the same
lines give the same pipelines, and the same diagnostics in the same order. -/
theorem read_eq {switches : Switches} (hswitch : switches.newPipelines = true)
    {others : List (List Char)} (hother : LaidOut header bodies before after others) :
    (Kind.pipelines.read switches lines).mapLines noLine =
      (Kind.pipelines.read switches others).mapLines noLine := by
  have hsame : (pipelines true (numbered lines)).mapLines (Pipeline.mapLine noLine) noLine =
      (pipelines true (numbered others)).mapLines (Pipeline.mapLine noLine) noLine :=
    (h.pipelines_eq hbrace hbodies hbefore).trans
      (hother.pipelines_eq hbrace hbodies hbefore).symm
  simp only [Kind.read, Kind.contents, hswitch]
  exact congrArg (fun found : Outcome Pipeline =>
    (⟨Kind.pipelines.key, .pipelines found.records, found.errors⟩ : Finding)) hsame

end LaidOut

/-- A block on one line, and the same block on several lines without its closing brace: one child
without a maturity, behind a pipeline that has no block. -/
theorem LaidOut.read_eq_tea :
    let header := "Tea".toList
    let bodies := ["Green [0.3]".toList, "Black".toList]
    let before := ["pipeline Milk".toList]
    let short := before ++
      ["pipeline Tea \x7b component Green [0.3] component Black \x7d".toList]
    let long := before ++ ["pipeline Tea".toList, [],
      "\x7bcomponent Green [0.3]".toList, " component Black".toList]
    LaidOut header bodies before [] short ∧ LaidOut header bodies before [] long ∧
      (∀ body ∈ bodies, IsChildBody body) ∧
      (∀ block ∈ blocks before, block.closing < before.length) ∧
      (Kind.pipelines.read .allOn short).mapLines noLine =
        (Kind.pipelines.read .allOn long).mapLines noLine ∧
      (Kind.pipelines.read .allOn short).errors.map Diagnostic.line = [.int 2] ∧
      (Kind.pipelines.read .allOn long).errors.map Diagnostic.line = [.int 5] := by
  intro header bodies before short long
  have hbodies : ∀ body ∈ bodies, IsChildBody body :=
    List.forall_mem_cons.2 ⟨⟨by decide, by decide⟩,
      List.forall_mem_cons.2 ⟨⟨by decide, by decide⟩, by simp⟩⟩
  have hbefore : ∀ block ∈ blocks before, block.closing < before.length := by decide +kernel
  have hnone : ∀ c ∈ [], isBlank c = true := by simp
  have hspace : ∀ c ∈ [' '], isBlank c = true := List.all_eq_true.1 (by decide)
  have hbehind (rest : List Char) : ∀ c ∈ (' ' :: rest).head?, isBlank c = true := by
    simpa using hspace
  have hshort : LaidOut header bodies before [] short := by
    have hblack : ShowsChildren ["Black".toList] " component Black ".toList :=
      .cons hspace hspace (hbehind _) (hbehind []) (.nil hspace)
    have hboth : ShowsChildren bodies " component Green [0.3] component Black ".toList :=
      .cons hspace hspace (hbehind _) (hbehind _) hblack
    have hheader : WritesHeader header
        ('{' :: (" component Green [0.3] component Black ".toList ++ ['}'])) _ :=
      .intro hnone hspace hspace (hbehind _)
    have hlayout := Layout.intro (.here hheader) (.closing hboth [])
    exact LaidOut.intro hlayout (by decide)
  have hlong : LaidOut header bodies before [] long := by
    have hgreen : ShowsChildren ["Green [0.3]".toList] "component Green [0.3]".toList :=
      .cons hnone hspace (hbehind _) (by simp) (.nil hnone)
    have hblack : ShowsChildren ["Black".toList] " component Black".toList :=
      .cons hspace hspace (hbehind _) (by simp) (.nil hnone)
    have hheader : WritesHeader header [] _ := .intro hnone hspace hnone (hbehind _)
    have hblanks : ∀ line ∈ [[]], isAllBlank line = true := by decide
    have hopens (text : List Char) := @OpensBlock.below header _ [] text _ hheader hblanks hnone
    exact .intro (.intro (hopens _) (.line hgreen (.line hblack .leftOut))) (by decide)
  exact ⟨hshort, hlong, hbodies, hbefore,
    hshort.read_eq (by decide) hbodies hbefore rfl hlong, by decide +kernel, by decide +kernel⟩

end Wardley
