import Wardley.Document.Value

/-!
# Sorted mappings

Written documents list the entries of every mapping by increasing key, if its keys can be
compared with each other.

Main definitions:

- `Document.sorted`: a document with all its mappings sorted.
-/

namespace Wardley
namespace Document

/-- The keys of entries. -/
def keys (entries : List (Scalar × Document)) : List Scalar := entries.map Prod.fst

/-- Entries by increasing key; keys that cannot be compared stay where they are. -/
def sortEntries (entries : List (Scalar × Document)) : List (Scalar × Document) :=
  if Scalar.areOrdered (keys entries) then entries.mergeSort fun a b => a.1.precedes b.1
  else entries

mutual

/-- A document with all its mappings sorted. -/
def sorted : Document → Document
  | scalar value => scalar value
  | list items => list (sortedItems items)
  | mapping entries => mapping (sortEntries (sortedValues entries))

/-- Items with all their mappings sorted. -/
def sortedItems : List Document → List Document
  | [] => []
  | item :: rest => item.sorted :: sortedItems rest

/-- Entries with all mappings within their values sorted. -/
def sortedValues : List (Scalar × Document) → List (Scalar × Document)
  | [] => []
  | (key, value) :: rest => (key, value.sorted) :: sortedValues rest

end

end Document
end Wardley
