import Wardley.Document.Literal
import Wardley.Document.Order
import Wardley.Yaml.Style

/-!
# YAML texts of documents

A document is written in block style with sorted keys.  The items of a list within a
mapping stand below its key without further indentation; empty collections are
written in brackets.  A key that is long, empty or on several lines stands behind a question
mark, and its value behind a colon on a line of its own.

Main definitions:

- `Document.yaml`: the YAML text of a document.
-/

namespace Wardley

/-- Number texts of YAML. -/
def FloatLayout.yaml : FloatLayout := ⟨".inf", ".nan", true⟩

namespace Yaml

/-- A scalar, its lines folded or not; `column` is that of its first character. -/
def writeScalar (folds : Bool) (indent column : Nat) : Scalar → List Char
  | .null => "null".toList
  | .bool true => "true".toList
  | .bool false => "false".toList
  | .number value => (value.text .yaml).toList
  | .text value => writeText folds indent column value.toList
  | .timestamp value => value.text.toList

/-- The length of the tag of a scalar, which is not written. -/
def tagLength : Scalar → Nat
  | .null => "!!null".length
  | .bool _ => "!!bool".length
  | .number (.int _) => "!!int".length
  | .number (.float _) => "!!float".length
  | .text _ => "!!str".length
  | .timestamp _ => "!!timestamp".length

/-- The characters that a key is measured by: those of its text, or of its form. -/
def measured : Scalar → List Char
  | .text value => value.toList
  | other => writeScalar false 0 0 other

/-- The characters that make a key one of several lines. -/
def endsLine (c : Char) : Bool := c = '\n' || c = '\x85' || c = '\u2028' || c = '\u2029'

/-- A key that stands on the line of its value. -/
def isShortKey (key : Scalar) : Bool :=
  let text := measured key
  tagLength key + text.length < 128 && !text.isEmpty && !text.any endsLine

/-- Spaces up to an indentation. -/
def indentation (indent : Nat) : List Char := List.replicate indent ' '

mutual

/-- What follows a key and its colon, which end before a column, to the end of the line. -/
def writeValue (indent column : Nat) : Document → List Char
  | .scalar value => ' ' :: (writeScalar true (indent + 2) (column + 1) value ++ ['\n'])
  | .list [] => " []\n".toList
  | .mapping [] => " \x7b\x7d\n".toList
  | .list (item :: items) => '\n' :: writeItems indent (item :: items)
  | .mapping (entry :: entries) => '\n' :: writeEntries (indent + 2) (entry :: entries)

/-- What follows a dash or another mark of one character and a space, to the end of the line. -/
def writeItem (indent : Nat) : Document → List Char
  | .scalar value => writeScalar true (indent + 2) (indent + 2) value ++ ['\n']
  | .list [] => "[]\n".toList
  | .mapping [] => "\x7b\x7d\n".toList
  | .list (item :: items) => (writeItems (indent + 2) (item :: items)).drop (indent + 2)
  | .mapping (entry :: entries) => (writeEntries (indent + 2) (entry :: entries)).drop (indent + 2)

/-- Items, each on lines of its own. -/
def writeItems (indent : Nat) : List Document → List Char
  | [] => []
  | item :: rest =>
    indentation indent ++ '-' :: ' ' :: (writeItem indent item ++ writeItems indent rest)

/-- Entries, each on lines of its own. -/
def writeEntries (indent : Nat) : List (Scalar × Document) → List Char
  | [] => []
  | (key, value) :: rest =>
    let name := writeScalar false indent indent key
    let written :=
      if isShortKey key then name ++ ':' :: writeValue indent (indent + name.length + 1) value
      else
        '?' :: ' ' :: (writeItem indent (.scalar key)
          ++ indentation indent ++ ':' :: ' ' :: writeItem indent value)
    indentation indent ++ (written ++ writeEntries indent rest)

end

/-- A whole document. -/
def write : Document → List Char
  | .mapping (entry :: entries) => writeEntries 0 (entry :: entries)
  | .list (item :: items) => writeItems 0 (item :: items)
  | document => (writeValue 0 0 document).drop 1

end Yaml

/-- The YAML text of a document, its keys sorted. -/
def Document.yaml (document : Document) : Except WriteError String :=
  if document.hasText then .ok (String.ofList (Yaml.write document.sorted))
  else .error .tooManyDigits

end Wardley
