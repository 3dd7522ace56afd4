import Wardley.Document.Value
import Wardley.Model.Map

/-!
# Maps as documents

Every record of a map has a document with all of its fields; absent ones are null.

Main definitions:

- `Map.document`, and a `document` for each record of a map.
-/

namespace Wardley

/-- The document of a label. -/
def Label.document (label : Label) : Document :=
  .object [("x", .number label.x), ("y", .number label.y)]

/-- The document of decorators. -/
def Decorators.document (flags : Decorators) : Document :=
  .object [
    ("ecosystem", .bool flags.ecosystem),
    ("market", .bool flags.market),
    ("buy", .bool flags.buy),
    ("build", .bool flags.build),
    ("outsource", .bool flags.outsource)]

/-- The document of an element. -/
def Element.document (element : Element) : Document :=
  .object [
    ("name", .text element.name),
    ("kind", .text element.kind.word),
    ("maturity", .number element.maturity),
    ("visibility", .number element.visibility),
    ("label", element.label.document),
    ("line", .optional .number element.line),
    ("decorators", .optional Decorators.document element.decorators),
    ("inertia", .bool element.inertia),
    ("pseudo", .bool element.pseudo),
    ("url", .optional .text element.url),
    ("evolving", .bool element.evolving),
    ("evolve_maturity", .optional .number element.evolveMaturity),
    ("pipeline", .bool element.pipeline)]

/-- The document of a link. -/
def Link.document (link : Link) : Document :=
  .object [
    ("start", .text link.start),
    ("end", .text link.finish),
    ("flow", .bool link.flow),
    ("future", .bool link.future),
    ("past", .bool link.past),
    ("context", .optional .text link.context),
    ("flow_value", .optional .text link.flowValue),
    ("line", .optional .number link.line)]

/-- The document of an evolution. -/
def Evolved.document (evolved : Evolved) : Document :=
  .object [
    ("name", .text evolved.name),
    ("maturity", .number evolved.maturity),
    ("override", .optional .text evolved.override),
    ("label", evolved.label.document),
    ("line", .optional .number evolved.line),
    ("decorators", .optional Decorators.document evolved.decorators)]

/-- The document of a pipeline child. -/
def PipelineChild.document (child : PipelineChild) : Document :=
  .object [
    ("name", .text child.name),
    ("maturity", .number child.maturity),
    ("visibility", .number child.visibility),
    ("label", child.label.document),
    ("line", .optional .number child.line)]

/-- The document of a pipeline. -/
def Pipeline.document (pipeline : Pipeline) : Document :=
  .object [
    ("name", .text pipeline.name),
    ("visibility", .number pipeline.visibility),
    ("components", .list (pipeline.children.map PipelineChild.document)),
    ("maturity1", .optional .number pipeline.maturity1),
    ("maturity2", .optional .number pipeline.maturity2),
    ("hidden", .bool pipeline.hidden),
    ("inertia", .bool pipeline.inertia),
    ("line", .optional .number pipeline.line)]

/-- The document of a place that an annotation marks. -/
def Occurrence.document (occurrence : Occurrence) : Document :=
  .object [("visibility", .number occurrence.visibility), ("maturity", .number occurrence.maturity)]

/-- The document of an annotation. -/
def Annotation.document (marked : Annotation) : Document :=
  .object [
    ("number", .number marked.number),
    ("text", .text marked.text),
    ("occurrences", .list (marked.occurrences.map Occurrence.document)),
    ("line", .optional .number marked.line)]

/-- The document of a note. -/
def Note.document (note : Note) : Document :=
  .object [
    ("text", .text note.text),
    ("visibility", .number note.visibility),
    ("maturity", .number note.maturity),
    ("line", .optional .number note.line)]

/-- The document of a method. -/
def Method.document (method : Method) : Document :=
  .object [
    ("name", .text method.name),
    ("decorators", method.decorators.document),
    ("line", .optional .number method.line)]

/-- The document of an address. -/
def Url.document (url : Url) : Document :=
  .object [("name", .text url.name), ("url", .text url.url), ("line", .optional .number url.line)]

/-- The document of an attitude. -/
def Attitude.document (attitude : Attitude) : Document :=
  .object [
    ("attitude", .text attitude.attitude),
    ("visibility", .number attitude.visibility),
    ("maturity", .number attitude.maturity),
    ("visibility2", .optional .number attitude.visibility2),
    ("maturity2", .optional .number attitude.maturity2),
    ("width", .optional .number attitude.width),
    ("height", .optional .number attitude.height),
    ("line", .optional .number attitude.line)]

/-- The document of an accelerator. -/
def Accelerator.document (accelerator : Accelerator) : Document :=
  .object [
    ("name", .text accelerator.name),
    ("visibility", .number accelerator.visibility),
    ("maturity", .number accelerator.maturity),
    ("deaccelerator", .bool accelerator.deaccelerator),
    ("line", .optional .number accelerator.line)]

/-- The document of an axis label. -/
def AxisLabel.document (label : AxisLabel) : Document :=
  .object [("line1", .text label.line1), ("line2", .text label.line2)]

/-- The document of a presentation. -/
def Presentation.document (presentation : Presentation) : Document :=
  .object [
    ("style", .text presentation.style),
    ("annotations", .object [
      ("visibility", .number presentation.annotations.visibility),
      ("maturity", .number presentation.annotations.maturity)]),
    ("size", .object [
      ("width", .number presentation.size.width),
      ("height", .number presentation.size.height)])]

/-- The document of a diagnostic. -/
def Diagnostic.document (diagnostic : Diagnostic) : Document :=
  .object [("line", .number diagnostic.line), ("message", .text diagnostic.message)]

/-- The document of a map. -/
def Map.document (map : Map) : Document :=
  .object [
    ("title", .text map.title),
    ("presentation", map.presentation.document),
    ("evolution", .list (map.evolution.map AxisLabel.document)),
    ("components", .list (map.components.map Element.document)),
    ("anchors", .list (map.anchors.map Element.document)),
    ("submaps", .list (map.submaps.map Element.document)),
    ("markets", .list (map.markets.map Element.document)),
    ("ecosystems", .list (map.ecosystems.map Element.document)),
    ("evolved", .list (map.evolved.map Evolved.document)),
    ("pipelines", .list (map.pipelines.map Pipeline.document)),
    ("links", .list (map.links.map Link.document)),
    ("annotations", .list (map.annotations.map Annotation.document)),
    ("notes", .list (map.notes.map Note.document)),
    ("methods", .list (map.methods.map Method.document)),
    ("urls", .list (map.urls.map Url.document)),
    ("attitudes", .list (map.attitudes.map Attitude.document)),
    ("accelerators", .list (map.accelerators.map Accelerator.document)),
    ("errors", .list (map.errors.map Diagnostic.document))]

end Wardley
