import Wardley.Document.Access
import Wardley.Model.Map
import Wardley.Sheet.Basic

/-!
# Sheets from documents

The fields of a document are taken in the order of its schema, and the first one that cannot
be taken is the error; leaves are not checked.

Main definitions:

- `Record.ofDocument`: the record of a collection that a document describes.
- `Sheet.ofDocument`, `Sheet.ofDraftDocument`: the sheets of maps and of drafts.
-/

namespace Wardley
namespace Sheet

/-! ## Parts of records -/

/-- The parts of a label that a document describes; those of the standard one for null. -/
def readLabel (document : Document) : Except ReadError Cell := do
  if document.isNull then
    pure (.group [("x", .number Label.standard.x), ("y", .number Label.standard.y)])
  else
    let x ← document.require "x"
    let y ← document.require "y"
    pure (.group [("x", x), ("y", y)])

/-- One of the decorators that a document describes. -/
def readDecorator (document : Document) (decorator : Decorator) :
    Except ReadError (String × Document) := do
  pure (decorator.word, (← document.field? decorator.word).getD (.bool false))

/-- The decorators that a document describes; a standard cell for null. -/
def readDecorators (document : Document) (standard : Cell) : Except ReadError Cell := do
  if document.isNull then pure standard
  else pure (.group (← Decorator.all.mapM (readDecorator document)))

/-- The cell that is taken out of a document under a name. -/
def Rule.read (document : Document) (name : String) : Rule → Except ReadError Cell
  | required => (document.require name).map .datum
  | optional standard => (document.field? name).map fun found => .datum (found.getD standard)
  | kind => do
    let word := (← document.field? name).getD (.text ElementKind.component.word)
    (ElementKind.ofDocument word).map .kind
  | label => do readLabel (← document.fieldOrNull name)
  | decorators standard => do readDecorators (← document.fieldOrNull name) standard

/-! ## Records -/

/-- The row that a document describes. -/
def Row.ofDocument (columns : List (String × Rule)) (document : Document) :
    Except ReadError Row :=
  columns.mapM fun column => (column.2.read document column.1).map fun cell => (column.1, cell)

/-- The field that is taken out of a document under a name. -/
def Column.read (document : Document) (name : String) : Column → Except ReadError Field
  | cell rule => (rule.read document name).map .cell
  | rows columns => (document.entriesOf name (Row.ofDocument columns)).map .rows

/-- The record that a document describes. -/
def Record.ofDocument (schema : Schema) (document : Document) : Except ReadError Record :=
  schema.mapM fun column => (column.2.read document column.1).map fun field => (column.1, field)

/-! ## Presentation -/

/-- A number of a presentation, zero when absent. -/
def readSetting (document : Document) (name : String) : Except ReadError (String × Document) := do
  pure (name, (← document.field? name).getD (.number 0))

/-- The presentation that a document describes; null counts as an object without fields. -/
def readPresentation (document : Document) : Except ReadError Document := do
  let given := if document.isNull then .mapping [] else document
  let annotations ← given.partOrEmpty "annotations"
  let size ← given.partOrEmpty "size"
  let style := (← given.field? "style").getD (.text "")
  let place ← ["visibility", "maturity"].mapM (readSetting annotations)
  let extent ← ["width", "height"].mapM (readSetting size)
  pure (.object [("style", style), ("annotations", .object place), ("size", .object extent)])

/-! ## Sheets -/

/-- The records of the standard labels of the evolution axis. -/
def standardAxis : List Record :=
  AxisLabel.standard.map fun label =>
    [("line1", .cell (.datum (.text label.line1))), ("line2", .cell (.datum (.text label.line2)))]

/-- The labels of the evolution axis that a document gives; standard ones if they are empty. -/
def readAxis (document : Document) : Except ReadError (List Record) := do
  let found ← document.fieldOrNull Collection.evolution.name
  if found.isEmpty then pure standardAxis
  else (← found.items).mapM (Record.ofDocument Collection.evolution.schema)

/-- The records of a collection that a document gives under a name. -/
def readRecords (document : Document) (collection : Collection) (name : String) :
    Except ReadError (Collection × List Record) := do
  pure (collection, ← document.entriesOf name (Record.ofDocument collection.schema))

/-- The sheet of a document whose collections stand under given names. -/
def read (names : List (Collection × String)) (document : Document) : Except ReadError Sheet := do
  let title := (← document.field? "title").getD (.text standardTitle)
  let presentation ← readPresentation (← document.fieldOrNull "presentation")
  let axis ← readAxis document
  let found ← names.mapM fun entry => readRecords document entry.1 entry.2
  let records (collection : Collection) : List Record := (found.lookup collection).getD []
  pure (put { title, presentation, records } .evolution axis)

/-- The names of the collections of a map, the evolution axis apart. -/
def mapNames : List (Collection × String) :=
  (Collection.all.filter (· != .evolution)).map fun collection => (collection, collection.name)

/-- The names of the collections of a draft, whose elements are not classified. -/
def draftNames : List (Collection × String) :=
  (mapNames.filter fun entry => entry.1 != .markets && entry.1 != .ecosystems).map fun entry =>
    if entry.1 = .components then (entry.1, "elements") else entry

/-- The sheet that a map document describes. -/
def ofDocument (document : Document) : Except ReadError Sheet := read mapNames document

/-- The sheet that the document of a draft describes; its elements stand as components. -/
def ofDraftDocument (document : Document) : Except ReadError Sheet := read draftNames document

end Sheet
end Wardley
