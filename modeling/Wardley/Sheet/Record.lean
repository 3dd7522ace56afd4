import Wardley.Document.Comparison
import Wardley.Model.Element

/-!
# Records of sheets

A record has named fields.  Most of them hold a document of any kind, and some hold parts
that have been recognised: a kind, a label or decorators, and lists of rows such as the
children of a pipeline.

Main definitions:

- `Cell`, `Row`, `Field`, `Record`.
- `Record.view`: all that a record holds, as a document.
- `Record.assign`: a record with another document in a field.
- `Record.same`: equality of records.
-/

namespace Wardley
namespace Sheet

/-- A value that has no parts of its own. -/
inductive Cell where
  /-- A document of any kind. -/
  | datum (value : Document)
  /-- The kind of an element. -/
  | kind (kind : ElementKind)
  /-- A label or decorators: parts with names, each of any kind. -/
  | group (parts : List (String × Document))
  deriving Repr, Inhabited

/-- A row of a list within a record. -/
abbrev Row := List (String × Cell)

/-- A value of a record. -/
inductive Field where
  | cell (cell : Cell)
  | rows (rows : List Row)
  deriving Repr, Inhabited

/-- An entry of a collection. -/
abbrev Record := List (String × Field)

/-! ## Views -/

/-- What a cell holds, as a document. -/
def Cell.view : Cell → Document
  | datum value => value
  | kind found => .text found.word
  | group parts => .object parts

/-- What a row holds, as a document. -/
def Row.view (row : Row) : Document := .object (row.map fun entry => (entry.1, entry.2.view))

/-- What a field holds, as a document. -/
def Field.view : Field → Document
  | cell found => found.view
  | rows found => .list (found.map Row.view)

/-- What a record holds, as a document. -/
def Record.view (record : Record) : Document :=
  .object (record.map fun entry => (entry.1, entry.2.view))

/-- What a row holds under a name, as a document. -/
def Row.value (row : Row) (name : String) : Document :=
  ((row.lookup name).map Cell.view).getD .null

/-! ## Fields -/

namespace Record

/-- The field of a name; null if there is none. -/
def get (record : Record) (name : String) : Field :=
  (record.lookup name).getD (.cell (.datum .null))

/-- What a record holds under a name, as a document. -/
def value (record : Record) (name : String) : Document := (record.get name).view

/-- A record with another field under a name that it has. -/
def put (name : String) (field : Field) : Record → Record
  | [] => []
  | entry :: rest =>
    if entry.1 = name then (name, field) :: rest else entry :: put name field rest

/-- The field that holds a document; an empty list has no rows. -/
def assigned (value : Document) (field : Field) : Field :=
  match field, value with
  | .rows _, .list [] => .rows []
  | _, _ => .cell (.datum value)

/-- A record with another document under a name that it has. -/
def assign (record : Record) (name : String) (value : Document) : Record :=
  record.put name (assigned value (record.get name))

end Record

/-! ## Equality -/

/-- Cells with equal values: parts that have been recognised equal no document. -/
def Cell.same : Cell → Cell → Bool
  | datum a, datum b => a.same b
  | kind a, kind b => a == b
  | group a, group b => (Document.object a).same (.object b)
  | _, _ => false

/-- Named values that are the same one by one. -/
def sameNamed {α : Type} (same : α → α → Bool) : List (String × α) → List (String × α) → Bool
  | [], [] => true
  | a :: as, b :: bs => a.1 == b.1 && same a.2 b.2 && sameNamed same as bs
  | _, _ => false

/-- Lists of values that are the same one by one. -/
def sameList {α : Type} (same : α → α → Bool) : List α → List α → Bool
  | [], [] => true
  | a :: as, b :: bs => same a b && sameList same as bs
  | _, _ => false

/-- Fields with equal values. -/
def Field.same : Field → Field → Bool
  | cell a, cell b => a.same b
  | rows a, rows b => sameList (sameNamed Cell.same) a b
  | _, _ => false

/-- Records with equal fields. -/
def Record.same : Record → Record → Bool := sameNamed Field.same

end Sheet
end Wardley
