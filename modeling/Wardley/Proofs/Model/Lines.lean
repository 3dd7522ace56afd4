import Wardley.Parsing.Unify

/-!
# Maps with other line numbers

Records and diagnostics carry the number of the line that they were read from.  Nothing
else in a map depends on it, so that the map of a draft with other line numbers is
the map of the draft with these numbers.

Main definitions:

- `Draft.mapLines`, `Map.mapLines`: all line numbers renamed, those of children too.

Main results:

- `Draft.unify_mapLines`: unifying commutes with renaming the lines.
-/

namespace Wardley

/-! ## Records -/

section Records

variable (f : Nat → Nat)

/-- A line number renamed. -/
def Number.mapLine : Number → Number
  | .int n => .int (f n.toNat)
  | .float x => .float x

/-- An element with its line renamed. -/
def Element.mapLine (element : Element) : Element :=
  { element with line := element.line.map (Number.mapLine f) }

/-- An evolution with its line renamed. -/
def Evolved.mapLine (evolved : Evolved) : Evolved :=
  { evolved with line := evolved.line.map (Number.mapLine f) }

/-- A child with its line renamed. -/
def PipelineChild.mapLine (child : PipelineChild) : PipelineChild :=
  { child with line := child.line.map (Number.mapLine f) }

/-- A pipeline with its line and those of its children renamed. -/
def Pipeline.mapLine (pipeline : Pipeline) : Pipeline :=
  { pipeline with
    children := pipeline.children.map (PipelineChild.mapLine f)
    line := pipeline.line.map (Number.mapLine f) }

/-- A link with its line renamed. -/
def Link.mapLine (link : Link) : Link := { link with line := link.line.map (Number.mapLine f) }

/-- An annotation with its line renamed. -/
def Annotation.mapLine (marked : Annotation) : Annotation :=
  { marked with line := marked.line.map (Number.mapLine f) }

/-- A note with its line renamed. -/
def Note.mapLine (note : Note) : Note := { note with line := note.line.map (Number.mapLine f) }

/-- An address with its line renamed. -/
def Url.mapLine (url : Url) : Url := { url with line := url.line.map (Number.mapLine f) }

/-- An attitude with its line renamed. -/
def Attitude.mapLine (attitude : Attitude) : Attitude :=
  { attitude with line := attitude.line.map (Number.mapLine f) }

/-- An accelerator with its line renamed. -/
def Accelerator.mapLine (accelerator : Accelerator) : Accelerator :=
  { accelerator with line := accelerator.line.map (Number.mapLine f) }

/-- A method with its line renamed. -/
def Method.mapLine (method : Method) : Method :=
  { method with line := method.line.map (Number.mapLine f) }

/-- A diagnostic with its line renamed. -/
def Diagnostic.mapLine (error : Diagnostic) : Diagnostic :=
  { error with line := error.line.mapLine f }

/-- A draft with all lines renamed. -/
def Draft.mapLines (draft : Draft) : Draft :=
  { draft with
    notes := draft.notes.map (Note.mapLine f)
    annotations := draft.annotations.map fun marked => marked.mapLine f
    elements := draft.elements.map (Element.mapLine f)
    pipelines := draft.pipelines.map (Pipeline.mapLine f)
    evolved := draft.evolved.map (Evolved.mapLine f)
    anchors := draft.anchors.map (Element.mapLine f)
    links := draft.links.map (Link.mapLine f)
    submaps := draft.submaps.map (Element.mapLine f)
    urls := draft.urls.map (Url.mapLine f)
    attitudes := draft.attitudes.map (Attitude.mapLine f)
    accelerators := draft.accelerators.map (Accelerator.mapLine f)
    methods := draft.methods.map (Method.mapLine f)
    errors := draft.errors.map (Diagnostic.mapLine f) }

/-- A map with all lines renamed. -/
def Map.mapLines (map : Map) : Map :=
  { map with
    components := map.components.map (Element.mapLine f)
    anchors := map.anchors.map (Element.mapLine f)
    submaps := map.submaps.map (Element.mapLine f)
    markets := map.markets.map (Element.mapLine f)
    ecosystems := map.ecosystems.map (Element.mapLine f)
    evolved := map.evolved.map (Evolved.mapLine f)
    pipelines := map.pipelines.map (Pipeline.mapLine f)
    links := map.links.map (Link.mapLine f)
    annotations := map.annotations.map fun marked => marked.mapLine f
    notes := map.notes.map (Note.mapLine f)
    methods := map.methods.map (Method.mapLine f)
    urls := map.urls.map (Url.mapLine f)
    attitudes := map.attitudes.map (Attitude.mapLine f)
    accelerators := map.accelerators.map (Accelerator.mapLine f)
    errors := map.errors.map (Diagnostic.mapLine f) }

end Records

/-! ## Lines renamed twice -/

section Twice

variable (f g : Nat → Nat)

/-- Renaming a line number twice renames it once, by the composed renaming. -/
theorem Number.mapLine_mapLine (n : Number) : (n.mapLine f).mapLine g = n.mapLine (g ∘ f) := by
  cases n <;> rfl

/-- Renaming the line of an element twice renames it once. -/
theorem Element.mapLine_mapLine (element : Element) :
    (element.mapLine f).mapLine g = element.mapLine (g ∘ f) := by
  simp only [Element.mapLine, Option.map_map, Function.comp_def, Number.mapLine_mapLine]

/-- Renaming the line of a child twice renames it once. -/
theorem PipelineChild.mapLine_mapLine (child : PipelineChild) :
    (child.mapLine f).mapLine g = child.mapLine (g ∘ f) := by
  simp only [PipelineChild.mapLine, Option.map_map, Function.comp_def, Number.mapLine_mapLine]

/-- Renaming the lines of a pipeline twice renames them once, those of its children too. -/
theorem Pipeline.mapLine_mapLine (pipeline : Pipeline) :
    (pipeline.mapLine f).mapLine g = pipeline.mapLine (g ∘ f) := by
  simp only [Pipeline.mapLine, Option.map_map, List.map_map, Function.comp_def,
    Number.mapLine_mapLine, PipelineChild.mapLine_mapLine]

/-- Renaming the line of a diagnostic twice renames it once. -/
theorem Diagnostic.mapLine_mapLine (error : Diagnostic) :
    (error.mapLine f).mapLine g = error.mapLine (g ∘ f) := by
  simp only [Diagnostic.mapLine, Number.mapLine_mapLine]

end Twice

/-! ## Unifying -/

namespace Draft

variable (f : Nat → Nat) (draft : Draft)

/-- The maturity to which a name evolves does not depend on lines. -/
theorem evolveTarget?_mapLines : (draft.mapLines f).evolveTarget? = draft.evolveTarget? := by
  funext name
  simp only [evolveTarget?, mapLines, List.find?_map, Option.map_map]
  rfl

/-- Whether a name heads a pipeline does not depend on lines. -/
theorem headsPipeline_mapLines : (draft.mapLines f).headsPipeline = draft.headsPipeline := by
  funext name
  simp only [headsPipeline, mapLines, List.any_map]
  rfl

/-- An element with another line is unified as before, and keeps that line. -/
theorem unifyElement_mapLines (element : Element) :
    (draft.mapLines f).unifyElement (element.mapLine f) =
      (draft.unifyElement element).mapLine f := by
  simp only [unifyElement, evolveTarget?_mapLines, headsPipeline_mapLines]
  rfl

/-- The extent of a pipeline does not depend on its line or on those of its children. -/
theorem unifyPipeline_mapLine (pipeline : Pipeline) :
    unifyPipeline (pipeline.mapLine f) = (unifyPipeline pipeline).mapLine f := by
  have hextent : (pipeline.mapLine f).extent = pipeline.extent := by
    unfold Pipeline.extent Pipeline.mapLine
    cases pipeline.children with
    | nil => rfl
    | cons child others => simp only [List.map_cons, List.map_map]; rfl
  simp only [unifyPipeline, hextent]
  rfl

/-- The unified elements of a class are the same ones with their lines renamed. -/
theorem ofClass_mapLines (kind : ElementKind) :
    (draft.mapLines f).ofClass kind = (draft.ofClass kind).map (Element.mapLine f) := by
  have hdeclared : (draft.mapLines f).declared = draft.declared.map (Element.mapLine f) := by
    simp only [declared, mapLines, List.map_append]
  have hunify : ((draft.mapLines f).unifyElement ∘ Element.mapLine f) =
      Element.mapLine f ∘ draft.unifyElement := funext (unifyElement_mapLines f draft)
  rw [ofClass, ofClass, hdeclared, List.map_map, hunify, ← List.map_map, List.filter_map]
  rfl

/-- The map of a draft with renamed lines is its map with renamed lines. -/
theorem unify_mapLines : (draft.mapLines f).unify = draft.unify.mapLines f := by
  unfold unify Map.mapLines
  simp only [ofClass_mapLines]
  simp only [mapLines, List.map_map]
  congr 1
  exact List.map_congr_left fun pipeline _ => unifyPipeline_mapLine f pipeline

end Draft

end Wardley
