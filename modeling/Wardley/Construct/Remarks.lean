import Wardley.Notation.Clause

/-!
# Notes, annotations and addresses

A note is a text with a place behind it.  An annotation has a whole number, one place or
a list of places, and a text.  An address is a name with an address in brackets.

Main definitions:

- `notes`, `annotations`, `urls`: the records of a text with their diagnostics.
-/

namespace Wardley
namespace Construct

open Notation Text

/-! ## Notes -/

/-- A body that ends in a bracket group: the text before it and the content of the group. -/
def splitFinalBrackets? (body : List Char) : Option (List Char × List Char) :=
  match body.reverse with
  | ']' :: rest =>
    match rest.dropWhile isNoBracket with
    | '[' :: before => some (before.reverse, (rest.takeWhile isNoBracket).reverse)
    | _ => none
  | _ => none

/-- The note that a line gives. -/
def readNote (declared : Declaration) : Except Fault Note := do
  match splitFinalBrackets? declared.body with
  | none => throw .missingNotePosition
  | some (before, content) =>
    let text := trim before
    if text.isEmpty then throw .missingNoteText
    let (visibility, maturity) ← readPair "coordinate" content
    pure ⟨String.ofList text, .float visibility, .float maturity, some (.int declared.line)⟩

/-- The notes of a text. -/
def notes (lines : List (Nat × List Char)) : Outcome Note :=
  collect readNote (declarations ["note"] lines)

/-! ## Annotations -/

/-- The contents of all bracket groups without inner brackets, from left to right. -/
def bracketGroups : List Char → List (List Char)
  | [] => []
  | c :: rest =>
    match takeBrackets? (c :: rest) with
    | some (content, _) => content :: bracketGroups rest
    | none => bracketGroups rest

/-- The contents of the places of an annotation and the text after them. -/
def splitPlaces (rest : List Char) : Except Fault (List (List Char) × List Char) :=
  match rest with
  | '[' :: '[' :: _ =>
    match breakAt [']', ']'] rest with
    | none => .error .unterminatedPositionList
    | some (list, after) => .ok (bracketGroups (list.drop 1 ++ [']']), after)
  | '[' :: inner =>
    match breakAt [']'] inner with
    | none => .error .unterminatedPosition
    | some (place, after) => .ok ([place], after)
  | _ => .error .missingAnnotationPosition

/-- The place that a pair of numbers gives. -/
def readOccurrence (place : List Char) : Except Fault Occurrence := do
  let (visibility, maturity) ← readPair "coordinate" place
  pure ⟨.float visibility, .float maturity⟩

/-- The characters of an annotation number: no blank and no opening bracket. -/
def isNumberChar (c : Char) : Bool := !isBlank c && c != '['

/-- The annotation that a line gives. -/
def readAnnotation (declared : Declaration) : Except Fault Annotation := do
  let token := declared.body.takeWhile isNumberChar
  if token.isEmpty then throw .missingAnnotationNumber
  let number ← readNumber "annotation number" token
  if !number.isWhole then throw (.fractionalAnnotationNumber (String.ofList token))
  let (places, text) ← splitPlaces (trimStart (declared.body.dropWhile isNumberChar))
  if places.isEmpty then throw .emptyPositionList
  let occurrences ← places.mapM readOccurrence
  pure {
    number := .int number.toInt
    text := String.ofList (trim text)
    occurrences := occurrences
    line := some (.int declared.line) }

/-- The annotations of a text. -/
def annotations (lines : List (Nat × List Char)) : Outcome Annotation :=
  collect readAnnotation (declarations ["annotation"] lines)

/-! ## Addresses -/

/-- The address that a line gives. -/
def readUrl (declared : Declaration) : Except Fault Url :=
  match splitBrackets? declared.body with
  | some (name, address, []) =>
    if name.isEmpty then .error .malformedUrl
    else .ok ⟨String.ofList name, String.ofList (trim address), some (.int declared.line)⟩
  | _ => .error .malformedUrl

/-- The addresses of a text. -/
def urls (lines : List (Nat × List Char)) : Outcome Url :=
  collect readUrl (declarations ["url"] lines)

end Construct
end Wardley
