import Wardley.Document.Access
import Wardley.Document.Literal
import Wardley.Sheet.Basic

/-!
# Documents of sheets

A sheet has a document if its kinds, labels and decorators have been recognised and its lists
of rows are lists of rows.

Main definitions:

- `Fault`: the reasons for which something cannot be done with a sheet.
- `Record.document`, `Sheet.document`: the documents of records and of sheets.
-/

namespace Wardley
namespace Sheet

/-- A reason for which something cannot be done with a sheet. -/
inductive Fault where
  /-- A value is used in a way that its type does not admit. -/
  | otherType
  /-- A part is taken from a value that has no such part. -/
  | noPart
  /-- A collection has no record at an index. -/
  | noRecord
  /-- A value has no text. -/
  | unwritable (error : WriteError)
  deriving DecidableEq, Repr

/-- The wording of a fault; only a value without a text has one. -/
def Fault.message : Fault → Option String
  | unwritable error => error.message
  | otherType | noPart | noRecord => none

/-! ## Fields -/

/-- The document of a cell that is taken by a rule. -/
def Cell.document (rule : Rule) (cell : Cell) : Except Fault Document :=
  match rule, cell with
  | .kind, .kind found => .ok (.text found.word)
  | .kind, _ => .error .noPart
  | .label, .group parts => .ok (.object parts)
  | .label, _ => .error .noPart
  | .decorators _, .group parts => .ok (.object parts)
  | .decorators _, .datum (.scalar .null) => .ok .null
  | .decorators _, _ => .error .noPart
  | .required, found => .ok found.view
  | .optional _, found => .ok found.view

/-- The document of a row. -/
def Row.document (columns : List (String × Rule)) (row : Row) : Except Fault Document := do
  let fields ← columns.mapM fun column => do
    let cell := (row.lookup column.1).getD (.datum .null)
    pure (column.1, ← cell.document column.2)
  pure (.object fields)

/-- The rows of a field; a document has none if it is empty, and else its items are no rows. -/
def Field.rows? : Field → Except Fault (List Row)
  | rows found => .ok found
  | cell found =>
    match found.view.items with
    | .ok [] => .ok []
    | .ok _ => .error .noPart
    | .error _ => .error .otherType

/-- The document of a field. -/
def Field.document (column : Column) (field : Field) : Except Fault Document :=
  match column, field with
  | .cell rule, .cell found => found.document rule
  | .cell _, found => .ok found.view
  | .rows columns, found => do pure (.list (← (← found.rows?).mapM (Row.document columns)))

/-! ## Records -/

/-- The document of a record. -/
def Record.document (schema : Schema) (record : Record) : Except Fault Document := do
  let fields ← schema.mapM fun column => do
    pure (column.1, ← (record.get column.1).document column.2)
  pure (.object fields)

/-- The documents of the records of a collection, under its name. -/
def collectionDocument (sheet : Sheet) (collection : Collection) :
    Except Fault (String × Document) := do
  let records ← (sheet.records collection).mapM (Record.document collection.schema)
  pure (collection.name, .list records)

/-- The document of a sheet. -/
def document (sheet : Sheet) : Except Fault Document := do
  let collections ← Collection.all.mapM sheet.collectionDocument
  pure (.object (("title", sheet.title) :: ("presentation", sheet.presentation) :: collections))

end Sheet
end Wardley
