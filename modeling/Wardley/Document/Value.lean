import Wardley.Document.Scalar

/-!
# Documents

A document is a scalar, a list or a mapping from scalars to documents, as JSON and YAML
denote them.  Mappings keep the order of their entries.

Main definitions:

- `Document`: the values; their equality is decidable.
- `Document.get?`: the value under a textual key.
- `Document.put`: a mapping with one more entry; a repeated key keeps its place.
- `Document.display`: the text of a document within a message.
-/

namespace Wardley

/-- A value of a JSON or YAML document. -/
inductive Document where
  | scalar (value : Scalar)
  | list (items : List Document)
  | mapping (entries : List (Scalar × Document))
  deriving Repr, Inhabited

namespace Document

/-! ## Equality -/

mutual

/-- Whether two documents are equal. -/
def decEq : (a b : Document) → Decidable (a = b)
  | scalar a, scalar b => decidable_of_iff (a = b) (by simp)
  | list a, list b => @decidable_of_iff _ (a = b) (by simp) (decEqItems a b)
  | mapping a, mapping b => @decidable_of_iff _ (a = b) (by simp) (decEqEntries a b)
  | scalar _, list _ | scalar _, mapping _ | list _, scalar _ | list _, mapping _
  | mapping _, scalar _ | mapping _, list _ => isFalse (by simp)

/-- Whether the items of two lists are equal. -/
def decEqItems : (a b : List Document) → Decidable (a = b)
  | [], [] => isTrue rfl
  | a :: as, b :: bs =>
    @decidable_of_iff _ (a = b ∧ as = bs) (by simp)
      (@instDecidableAnd _ _ (decEq a b) (decEqItems as bs))
  | [], _ :: _ | _ :: _, [] => isFalse (by simp)

/-- Whether the entries of two mappings are equal, in the same order. -/
def decEqEntries : (a b : List (Scalar × Document)) → Decidable (a = b)
  | [], [] => isTrue rfl
  | (key, a) :: as, (other, b) :: bs =>
    @decidable_of_iff _ (key = other ∧ a = b ∧ as = bs) (by simp [and_assoc])
      (@instDecidableAnd _ _ _ (@instDecidableAnd _ _ (decEq a b) (decEqEntries as bs)))
  | [], _ :: _ | _ :: _, [] => isFalse (by simp)

end

instance : DecidableEq Document := decEq

/-! ## Building -/

/-- The null document. -/
def null : Document := scalar .null

/-- A boolean document. -/
def bool (value : Bool) : Document := scalar (.bool value)

/-- A number as a document. -/
def number (value : Number) : Document := scalar (.number value)

/-- An integer as a document. -/
def int (value : Int) : Document := number (.int value)

/-- A text as a document. -/
def text (value : String) : Document := scalar (.text value)

/-- An optional value as a document, null if absent. -/
def optional {α : Type} (write : α → Document) : Option α → Document
  | some value => write value
  | none => null

/-- A mapping with textual keys. -/
def object (entries : List (String × Document)) : Document :=
  mapping (entries.map fun entry => (.text entry.1, entry.2))

/-! ## Entries -/

/-- Entries with one more; the value of an equal key is replaced in its place. -/
def put (key : Scalar) (value : Document) : List (Scalar × Document) → List (Scalar × Document)
  | [] => [(key, value)]
  | entry :: rest =>
    if entry.1.same key then (entry.1, value) :: rest else entry :: put key value rest

/-- The value under a textual key of entries. -/
def lookup (key : String) : List (Scalar × Document) → Option Document
  | [] => none
  | (found, value) :: rest => if found == .text key then some value else lookup key rest

/-- The value under a textual key of a mapping. -/
def get? (document : Document) (key : String) : Option Document :=
  match document with
  | mapping entries => lookup key entries
  | _ => none

/-- Null, false, zero, the empty text and empty collections count as nothing. -/
def isEmpty : Document → Bool
  | scalar value => value.isEmpty
  | list items => items.isEmpty
  | mapping entries => entries.isEmpty

/-- The document is null. -/
def isNull : Document → Bool
  | scalar .null => true
  | _ => false

/-! ## Display -/

mutual

/-- All numbers of a document have a text. -/
def hasText : Document → Bool
  | scalar value => value.hasText
  | list items => itemsHaveText items
  | mapping entries => entriesHaveText entries

/-- All numbers of the items of a list have a text. -/
def itemsHaveText : List Document → Bool
  | [] => true
  | item :: rest => item.hasText && itemsHaveText rest

/-- All numbers of the entries of a mapping have a text. -/
def entriesHaveText : List (Scalar × Document) → Bool
  | [] => true
  | (key, value) :: rest => key.hasText && value.hasText && entriesHaveText rest

end

mutual

/-- The text of a document within a message. -/
def display : Document → String
  | scalar value => value.display
  | list items => "[" ++ String.intercalate ", " (displayItems items) ++ "]"
  | mapping entries => "\x7b" ++ String.intercalate ", " (displayEntries entries) ++ "\x7d"

/-- The texts of the items of a list. -/
def displayItems : List Document → List String
  | [] => []
  | item :: rest => item.display :: displayItems rest

/-- The texts of the entries of a mapping. -/
def displayEntries : List (Scalar × Document) → List String
  | [] => []
  | (key, value) :: rest => (key.display ++ ": " ++ value.display) :: displayEntries rest

end

end Document

end Wardley
