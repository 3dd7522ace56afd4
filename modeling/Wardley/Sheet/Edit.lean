import Wardley.Sheet.Reading
import Wardley.Sheet.Writing

/-!
# Editing sheets

A sheet is edited record by record.  A field may be given any document; whether the sheet
still has a document of its own shows when it is written.

Main definitions:

- `Sheet.add`, `Sheet.remove`, `Sheet.assign`: the edits.
-/

namespace Wardley
namespace Sheet

/-- The place of an index in a list; a negative one counts from the end. -/
def place? (length : Nat) (index : Int) : Option Nat :=
  let counted := if index < 0 then index + length else index
  if 0 ≤ counted ∧ counted < length then some counted.toNat else none

/-- The place of an index in a collection, which must have a record there. -/
def place (sheet : Sheet) (collection : Collection) (index : Int) : Except Fault Nat :=
  match place? (sheet.records collection).length index with
  | some found => .ok found
  | none => .error .noRecord

/-- Appends the record that a document describes. -/
def add (sheet : Sheet) (collection : Collection) (document : Document) :
    Except ReadError Sheet :=
  (Record.ofDocument collection.schema document).map fun record =>
    sheet.put collection (sheet.records collection ++ [record])

/-- Removes the record at an index. -/
def remove (sheet : Sheet) (collection : Collection) (index : Int) : Except Fault Sheet :=
  (sheet.place collection index).map fun found =>
    sheet.put collection ((sheet.records collection).eraseIdx found)

/-- The names under which records of a collection show what follows from their fields. -/
def derivedNames : Collection → List String
  | .evolved => ["display_name"]
  | _ => []

/--
Gives a field of the record at an index a document; a name that the record does not have
leaves it as it is, and what follows from fields cannot be given.
-/
def assign (sheet : Sheet) (collection : Collection) (index : Int) (name : String)
    (value : Document) : Except Fault Sheet := do
  let found ← sheet.place collection index
  if (derivedNames collection).contains name then throw .noPart
  let records := (sheet.records collection).modify found fun record => record.assign name value
  pure (sheet.put collection records)

end Sheet
end Wardley
