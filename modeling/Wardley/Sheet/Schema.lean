import Wardley.Model.Collection
import Wardley.Sheet.Record

/-!
# Schemas of collections

A schema lists the fields of the records of a collection in the order in which they are
read and written, and says for each how it is taken out of a document.

Main definitions:

- `Rule`, `Column`: how a field is taken.
- `Collection.schema`: the fields of a collection.
-/

namespace Wardley
namespace Sheet

/-- How a cell is taken out of an object. -/
inductive Rule where
  /-- The object must have the field. -/
  | required
  /-- The field has a standard value. -/
  | optional (standard : Document)
  /-- The field names a kind. -/
  | kind
  /-- The field holds a label. -/
  | label
  /-- The field holds decorators, or this cell if it is null. -/
  | decorators (standard : Cell)
  deriving Repr

/-- How a field of a record is taken out of an object. -/
inductive Column where
  | cell (rule : Rule)
  | rows (columns : List (String × Rule))
  deriving Repr

/-- The fields of a record. -/
abbrev Schema := List (String × Column)

/-! ## Rules -/

/-- A field that an object must have. -/
def required (name : String) : String × Column := (name, .cell .required)

/-- A field that is null when absent. -/
def nullable (name : String) : String × Column := (name, .cell (.optional .null))

/-- A field that is false when absent. -/
def flag (name : String) : String × Column := (name, .cell (.optional (.bool false)))

/-- A field that is the empty text when absent. -/
def textual (name : String) : String × Column := (name, .cell (.optional (.text "")))

/-- The field of a label. -/
def labelled : String × Column := ("label", .cell .label)

/-- The parts of decorators of which none is set. -/
def unsetDecorators : Cell :=
  .group (Decorator.all.map fun decorator => (decorator.word, .bool false))

/-- The field of decorators that may be absent. -/
def decorated : String × Column := ("decorators", .cell (.decorators (.datum .null)))

/-! ## Schemas -/

/-- The fields of an element. -/
def elementSchema : Schema :=
  [required "name", ("kind", .cell .kind), required "maturity", required "visibility", labelled,
   nullable "line", decorated, flag "inertia", flag "pseudo", nullable "url", flag "evolving",
   nullable "evolve_maturity", flag "pipeline"]

/-- The fields of a child of a pipeline. -/
def childColumns : List (String × Rule) :=
  [("name", .required), ("maturity", .required), ("visibility", .required), ("label", .label),
   ("line", .optional .null)]

/-- The fields of a place that an annotation marks. -/
def occurrenceColumns : List (String × Rule) :=
  [("visibility", .required), ("maturity", .required)]

end Sheet

open Sheet

/-- The fields of the records of a collection. -/
def Collection.schema : Collection → Schema
  | evolution => [required "line1", textual "line2"]
  | components | anchors | submaps | markets | ecosystems => elementSchema
  | evolved =>
    [required "name", required "maturity", nullable "override", labelled, nullable "line",
     decorated]
  | pipelines =>
    [required "name", required "visibility", ("components", .rows childColumns),
     nullable "maturity1", nullable "maturity2", flag "hidden", flag "inertia", nullable "line"]
  | links =>
    [required "start", required "end", flag "flow", flag "future", flag "past",
     nullable "context", nullable "flow_value", nullable "line"]
  | annotations =>
    [required "number", textual "text", ("occurrences", .rows occurrenceColumns), nullable "line"]
  | notes => [required "text", required "visibility", required "maturity", nullable "line"]
  | methods =>
    [required "name", ("decorators", .cell (.decorators unsetDecorators)), nullable "line"]
  | urls => [required "name", required "url", nullable "line"]
  | attitudes =>
    [required "attitude", required "visibility", required "maturity", nullable "visibility2",
     nullable "maturity2", nullable "width", nullable "height", nullable "line"]
  | accelerators =>
    [required "name", required "visibility", required "maturity", flag "deaccelerator",
     nullable "line"]
  | errors => [required "line", required "message"]

end Wardley
