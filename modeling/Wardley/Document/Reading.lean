import Wardley.Document.Access
import Wardley.Document.Records

/-!
# Maps from documents

A map document is an object with a field per collection.  Required fields are taken out
of an object, and optional ones have defaults; what cannot be taken is an error,
the first one in the order of reading.  So is a leaf that is not of the type of its field.

Main definitions:

- `Map.ofDocument`, `Draft.ofDocument`, and an `ofDocument` for each record.
-/

namespace Wardley

namespace Document

/-! ## Leaves -/

/-- The text of a leaf. -/
def readText : Document → Except ReadError String
  | scalar (.text value) => .ok value
  | _ => .error .otherType

/-- The number of a leaf. -/
def readNumber : Document → Except ReadError Number
  | scalar (.number value) => .ok value
  | _ => .error .otherType

/-- The truth of a leaf. -/
def readBool : Document → Except ReadError Bool
  | scalar (.bool value) => .ok value
  | _ => .error .otherType

/-- The value of a leaf that may be null. -/
def readOptional {α : Type} (read : Document → Except ReadError α) (document : Document) :
    Except ReadError (Option α) :=
  if document.isNull then .ok none else (read document).map some

/-- A required text. -/
def requireText (document : Document) (key : String) : Except ReadError String :=
  document.require key >>= readText

/-- A required number. -/
def requireNumber (document : Document) (key : String) : Except ReadError Number :=
  document.require key >>= readNumber

/-- An optional field, with a standard value when absent. -/
def fieldOr {α : Type} (document : Document) (key : String)
    (read : Document → Except ReadError α) (standard : α) : Except ReadError α := do
  match ← document.field? key with
  | some found => read found
  | none => pure standard

/-- An optional flag, false when absent. -/
def flag (document : Document) (key : String) : Except ReadError Bool :=
  document.fieldOr key readBool false

/-- A text that may be null or absent. -/
def text? (document : Document) (key : String) : Except ReadError (Option String) :=
  document.fieldOr key (readOptional readText) none

/-- A number that may be null or absent. -/
def number? (document : Document) (key : String) : Except ReadError (Option Number) :=
  document.fieldOr key (readOptional readNumber) none

end Document

/-! ## Parts of records -/

/-- The label that a document describes; the standard one for null. -/
def Label.ofDocument (document : Document) : Except ReadError Label := do
  if document.isNull then pure .standard
  else
    let x ← document.requireNumber "x"
    let y ← document.requireNumber "y"
    pure ⟨x, y⟩

/-- The decorators that a document describes; none for null. -/
def Decorators.ofDocument (document : Document) : Except ReadError (Option Decorators) := do
  if document.isNull then pure none
  else
    let ecosystem ← document.flag "ecosystem"
    let market ← document.flag "market"
    let buy ← document.flag "buy"
    let build ← document.flag "build"
    let outsource ← document.flag "outsource"
    pure (some ⟨ecosystem, market, buy, build, outsource⟩)

/-! ## Records -/

/-- The element that a document describes. -/
def Element.ofDocument (document : Document) : Except ReadError Element := do
  let name ← document.requireText "name"
  let kind ← ElementKind.ofDocument ((← document.field? "kind").getD (.text "component"))
  let maturity ← document.requireNumber "maturity"
  let visibility ← document.requireNumber "visibility"
  let label ← Label.ofDocument (← document.fieldOrNull "label")
  let line ← document.number? "line"
  let decorators ← Decorators.ofDocument (← document.fieldOrNull "decorators")
  let inertia ← document.flag "inertia"
  let pseudo ← document.flag "pseudo"
  let url ← document.text? "url"
  let evolving ← document.flag "evolving"
  let evolveMaturity ← document.number? "evolve_maturity"
  let pipeline ← document.flag "pipeline"
  pure { name, kind, maturity, visibility, label, line, decorators, inertia, pseudo, url,
         evolving, evolveMaturity, pipeline }

/-- The link that a document describes. -/
def Link.ofDocument (document : Document) : Except ReadError Link := do
  let start ← document.requireText "start"
  let finish ← document.requireText "end"
  let flow ← document.flag "flow"
  let future ← document.flag "future"
  let past ← document.flag "past"
  let context ← document.text? "context"
  let flowValue ← document.text? "flow_value"
  let line ← document.number? "line"
  pure { start, finish, flow, future, past, context, flowValue, line }

/-- The evolution that a document describes. -/
def Evolved.ofDocument (document : Document) : Except ReadError Evolved := do
  let name ← document.requireText "name"
  let maturity ← document.requireNumber "maturity"
  let override ← document.text? "override"
  let label ← Label.ofDocument (← document.fieldOrNull "label")
  let line ← document.number? "line"
  let decorators ← Decorators.ofDocument (← document.fieldOrNull "decorators")
  pure { name, maturity, override, label, line, decorators }

/-- The pipeline child that a document describes. -/
def PipelineChild.ofDocument (document : Document) : Except ReadError PipelineChild := do
  let name ← document.requireText "name"
  let maturity ← document.requireNumber "maturity"
  let visibility ← document.requireNumber "visibility"
  let label ← Label.ofDocument (← document.fieldOrNull "label")
  let line ← document.number? "line"
  pure { name, maturity, visibility, label, line }

/-- The pipeline that a document describes. -/
def Pipeline.ofDocument (document : Document) : Except ReadError Pipeline := do
  let name ← document.requireText "name"
  let visibility ← document.requireNumber "visibility"
  let children ← document.entriesOf "components" PipelineChild.ofDocument
  let maturity1 ← document.number? "maturity1"
  let maturity2 ← document.number? "maturity2"
  let hidden ← document.flag "hidden"
  let inertia ← document.flag "inertia"
  let line ← document.number? "line"
  pure { name, visibility, children, maturity1, maturity2, hidden, inertia, line }

/-- The marked place that a document describes. -/
def Occurrence.ofDocument (document : Document) : Except ReadError Occurrence := do
  let visibility ← document.requireNumber "visibility"
  let maturity ← document.requireNumber "maturity"
  pure { visibility, maturity }

/-- The annotation that a document describes. -/
def Annotation.ofDocument (document : Document) : Except ReadError Annotation := do
  let number ← document.requireNumber "number"
  let text ← document.fieldOr "text" Document.readText ""
  let occurrences ← document.entriesOf "occurrences" Occurrence.ofDocument
  let line ← document.number? "line"
  pure { number, text, occurrences, line }

/-- The note that a document describes. -/
def Note.ofDocument (document : Document) : Except ReadError Note := do
  let text ← document.requireText "text"
  let visibility ← document.requireNumber "visibility"
  let maturity ← document.requireNumber "maturity"
  let line ← document.number? "line"
  pure { text, visibility, maturity, line }

/-- The method that a document describes. -/
def Method.ofDocument (document : Document) : Except ReadError Method := do
  let name ← document.requireText "name"
  let decorators ← Decorators.ofDocument (← document.fieldOrNull "decorators")
  let line ← document.number? "line"
  pure ⟨name, decorators.getD .unset, line⟩

/-- The address that a document describes. -/
def Url.ofDocument (document : Document) : Except ReadError Url := do
  let name ← document.requireText "name"
  let url ← document.requireText "url"
  let line ← document.number? "line"
  pure { name, url, line }

/-- The attitude that a document describes. -/
def Attitude.ofDocument (document : Document) : Except ReadError Attitude := do
  let attitude ← document.requireText "attitude"
  let visibility ← document.requireNumber "visibility"
  let maturity ← document.requireNumber "maturity"
  let visibility2 ← document.number? "visibility2"
  let maturity2 ← document.number? "maturity2"
  let width ← document.number? "width"
  let height ← document.number? "height"
  let line ← document.number? "line"
  pure { attitude, visibility, maturity, visibility2, maturity2, width, height, line }

/-- The accelerator that a document describes. -/
def Accelerator.ofDocument (document : Document) : Except ReadError Accelerator := do
  let name ← document.requireText "name"
  let visibility ← document.requireNumber "visibility"
  let maturity ← document.requireNumber "maturity"
  let deaccelerator ← document.flag "deaccelerator"
  let line ← document.number? "line"
  pure { name, visibility, maturity, deaccelerator, line }

/-- The axis label that a document describes. -/
def AxisLabel.ofDocument (document : Document) : Except ReadError AxisLabel := do
  let line1 ← document.requireText "line1"
  let line2 ← document.fieldOr "line2" Document.readText ""
  pure { line1, line2 }

/-- The diagnostic that a document describes. -/
def Diagnostic.ofDocument (document : Document) : Except ReadError Diagnostic := do
  let line ← document.requireNumber "line"
  let message ← document.requireText "message"
  pure { line, message }

/-- The presentation that a document describes; the standard one for null. -/
def Presentation.ofDocument (document : Document) : Except ReadError Presentation := do
  if document.isNull then pure {}
  else
    let annotations ← document.partOrEmpty "annotations"
    let size ← document.partOrEmpty "size"
    let style ← document.fieldOr "style" Document.readText ""
    let visibility ← annotations.fieldOr "visibility" Document.readNumber 0
    let maturity ← annotations.fieldOr "maturity" Document.readNumber 0
    let width ← size.fieldOr "width" Document.readNumber 0
    let height ← size.fieldOr "height" Document.readNumber 0
    pure ⟨style, ⟨visibility, maturity⟩, ⟨width, height⟩⟩

/-! ## Maps and drafts -/

/-- The title that a document gives; the standard one when absent. -/
def titleOfDocument (document : Document) : Except ReadError String :=
  document.fieldOr "title" Document.readText standardTitle

/-- The axis labels that a document gives; those given when absent or empty. -/
def axisOfDocument (document : Document) (standard : List AxisLabel) :
    Except ReadError (List AxisLabel) := do
  let found ← document.fieldOrNull "evolution"
  if found.isEmpty then pure standard else (← found.items).mapM AxisLabel.ofDocument

/-- The map that a document describes. -/
def Map.ofDocument (document : Document) : Except ReadError Map := do
  let title ← titleOfDocument document
  let presentation ← Presentation.ofDocument (← document.fieldOrNull "presentation")
  let evolution ← axisOfDocument document AxisLabel.standard
  let components ← document.entriesOf "components" Element.ofDocument
  let anchors ← document.entriesOf "anchors" Element.ofDocument
  let submaps ← document.entriesOf "submaps" Element.ofDocument
  let markets ← document.entriesOf "markets" Element.ofDocument
  let ecosystems ← document.entriesOf "ecosystems" Element.ofDocument
  let evolved ← document.entriesOf "evolved" Evolved.ofDocument
  let pipelines ← document.entriesOf "pipelines" Pipeline.ofDocument
  let links ← document.entriesOf "links" Link.ofDocument
  let annotations ← document.entriesOf "annotations" Annotation.ofDocument
  let notes ← document.entriesOf "notes" Note.ofDocument
  let methods ← document.entriesOf "methods" Method.ofDocument
  let urls ← document.entriesOf "urls" Url.ofDocument
  let attitudes ← document.entriesOf "attitudes" Attitude.ofDocument
  let accelerators ← document.entriesOf "accelerators" Accelerator.ofDocument
  let errors ← document.entriesOf "errors" Diagnostic.ofDocument
  pure { title, presentation, evolution, components, anchors, submaps, markets, ecosystems,
         evolved, pipelines, links, annotations, notes, methods, urls, attitudes, accelerators,
         errors }

/-- The draft that a document describes; its fields are read in the order of those of a map. -/
def Draft.ofDocument (document : Document) : Except ReadError Draft := do
  let title ← titleOfDocument document
  let presentation ← Presentation.ofDocument (← document.fieldOrNull "presentation")
  let evolution ← axisOfDocument document []
  let elements ← document.entriesOf "elements" Element.ofDocument
  let anchors ← document.entriesOf "anchors" Element.ofDocument
  let submaps ← document.entriesOf "submaps" Element.ofDocument
  let evolved ← document.entriesOf "evolved" Evolved.ofDocument
  let pipelines ← document.entriesOf "pipelines" Pipeline.ofDocument
  let links ← document.entriesOf "links" Link.ofDocument
  let annotations ← document.entriesOf "annotations" Annotation.ofDocument
  let notes ← document.entriesOf "notes" Note.ofDocument
  let methods ← document.entriesOf "methods" Method.ofDocument
  let urls ← document.entriesOf "urls" Url.ofDocument
  let attitudes ← document.entriesOf "attitudes" Attitude.ofDocument
  let accelerators ← document.entriesOf "accelerators" Accelerator.ofDocument
  let errors ← document.entriesOf "errors" Diagnostic.ofDocument
  pure { title, evolution, presentation, notes, annotations, elements, pipelines, evolved,
         anchors, links, submaps, urls, attitudes, accelerators, methods, errors }

end Wardley
