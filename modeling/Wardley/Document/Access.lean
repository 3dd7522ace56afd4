import Wardley.Document.Value
import Wardley.Model.Element

/-!
# Access to the fields of documents

Required fields are taken out of an object, and optional ones may be absent; what cannot be
taken is an error.

Main definitions:

- `ReadError`: the reasons for which a document is not what is read from it.
- `Document.require`, `Document.field?`, `Document.entriesOf`: the ways to take a field.
- `ElementKind.ofDocument`: the kind that a document names.
-/

namespace Wardley

/-- A reason for which a document is not what is read from it. -/
inductive ReadError where
  /-- An object lacks a required field. -/
  | missingField (name : String)
  /-- A kind is none of the five. -/
  | unknownKind (kind : Document)
  /-- A required field is taken from what is no object, or items from what has none. -/
  | wrongShape
  /-- An optional field is taken from what is no object. -/
  | noObject
  /-- A leaf is not of the type of its field. -/
  | otherType
  deriving Repr

/-- The wording of a reading error; only some have one. -/
def ReadError.message : ReadError → Option String
  | missingField name => some (Scalar.display (.text name))
  | unknownKind kind => some (kind.display ++ " is not a valid ElementKind")
  | wrongShape | noObject | otherType => none

namespace Document

/-! ## Access -/

/-- A required field. -/
def require (document : Document) (key : String) : Except ReadError Document :=
  match document with
  | mapping entries =>
    match lookup key entries with
    | some value => .ok value
    | none => .error (.missingField key)
  | _ => .error .wrongShape

/-- An optional field. -/
def field? (document : Document) (key : String) : Except ReadError (Option Document) :=
  match document with
  | mapping entries => .ok (lookup key entries)
  | _ => .error .noObject

/-- An optional field that is null when absent. -/
def fieldOrNull (document : Document) (key : String) : Except ReadError Document := do
  pure ((← document.field? key).getD null)

/-- An optional field; one that counts as nothing is an object without fields. -/
def partOrEmpty (document : Document) (key : String) : Except ReadError Document := do
  let found ← document.fieldOrNull key
  pure (if found.isEmpty then mapping [] else found)

/-- The items of a list, the keys of a mapping or the characters of a text. -/
def items : Document → Except ReadError (List Document)
  | list items => .ok items
  | mapping entries => .ok (entries.map fun entry => scalar entry.1)
  | scalar (.text value) => .ok (value.toList.map fun c => text (String.ofList [c]))
  | scalar _ => .error .wrongShape

/-- The entries of an optional collection, read one after the other. -/
def entriesOf {α : Type} (document : Document) (key : String)
    (read : Document → Except ReadError α) : Except ReadError (List α) := do
  match ← document.field? key with
  | none => pure []
  | some found => (← found.items).mapM read

end Document

/-- The kind that a document names. -/
def ElementKind.ofDocument (document : Document) : Except ReadError ElementKind :=
  match document with
  | .scalar (.text word) =>
    match ElementKind.ofWord? word with
    | some kind => .ok kind
    | none => .error (.unknownKind document)
  | _ => .error (.unknownKind document)

end Wardley
