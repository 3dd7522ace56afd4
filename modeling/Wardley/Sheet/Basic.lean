import Wardley.Sheet.Schema

/-!
# Sheets

A sheet is a map whose leaves may be of any kind.  A map document describes a sheet unless
something cannot be taken out of it; it describes a map if all leaves are of the types of
their fields.

Main definitions:

- `Sheet`: the title, the presentation and the records of all collections.
- `Sheet.put`: a sheet with other records in a collection.
- `Sheet.elements`, `Sheet.find?`: the positioned elements, and the first record of a name.
- `Sheet.agrees`: equality of sheets.
-/

namespace Wardley

open Sheet

/-- A map whose leaves may be of any kind. -/
structure Sheet where
  title : Document
  presentation : Document
  records : Collection → List Record

namespace Sheet

/-- A sheet with other records in a collection. -/
def put (sheet : Sheet) (collection : Collection) (records : List Record) : Sheet :=
  { sheet with records := fun asked =>
      if asked = collection then records else sheet.records asked }

/-- The records put in a collection are found there. -/
@[simp] theorem records_put_self (sheet : Sheet) (collection : Collection)
    (records : List Record) : (sheet.put collection records).records collection = records := by
  simp [put]

/-- Putting records in a collection leaves the other collections alone. -/
theorem records_put_of_ne (sheet : Sheet) {collection other : Collection}
    (records : List Record) (h : other ≠ collection) :
    (sheet.put collection records).records other = sheet.records other := by
  simp [put, h]

/-- The collections of positioned elements. -/
def elementCollections : List Collection :=
  [.components, .anchors, .submaps, .markets, .ecosystems]

/-- All positioned elements, in the order of the collections. -/
def elements (sheet : Sheet) : List Record := elementCollections.flatMap sheet.records

/-- The first of some records whose name is a document. -/
def find? (records : List Record) (name : Document) : Option Record :=
  records.find? fun record => (record.value "name").equals name

/-- The first positioned element of a name. -/
def element? (sheet : Sheet) (name : Document) : Option Record := find? sheet.elements name

/-- Sheets with equal titles, presentations and records. -/
def agrees (a b : Sheet) : Bool :=
  a.title.same b.title && a.presentation.same b.presentation
    && Collection.all.all fun collection =>
      sameList Record.same (a.records collection) (b.records collection)

end Sheet

end Wardley
