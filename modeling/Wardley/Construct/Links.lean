import Wardley.Model.Relation
import Wardley.Notation.Keyword

/-!
# Links of a text

A link is a line that no reserved keyword introduces and that holds an operator between
two names: `->` for a dependency, or a plus sign with an optional quoted value and a
direction for a flow.  A semicolon begins a context.

Main definitions:

- `links`: the links of a text.
-/

namespace Wardley
namespace Construct

open Notation Text

/-- What a link operator says about its link. -/
structure Operator where
  flow : Bool
  future : Bool
  past : Bool
  value : Option (List Char)
  deriving DecidableEq, Repr

/-- The operator of a structural dependency. -/
def Operator.dependency : Operator := ⟨false, false, false, none⟩

/-- The value in quotes that a text starts with, and what follows it. -/
def takeQuoted : List Char → Option (List Char) × List Char
  | '\'' :: rest =>
    match rest.dropWhile (· != '\'') with
    | _ :: after => (some (rest.takeWhile (· != '\'')), after)
    | [] => (none, '\'' :: rest)
  | rest => (none, rest)

/--
The operators that a text may start with, each with the text behind it, in the order in
which they are tried.
-/
def operatorsAt : List Char → List (Operator × List Char)
  | '-' :: '>' :: rest => [(.dependency, rest)]
  | '+' :: rest =>
    let (value, after) := takeQuoted rest
    match after with
    | '<' :: '>' :: finish =>
      [(⟨true, true, true, value⟩, finish), (⟨true, false, true, value⟩, '>' :: finish)]
    | '<' :: finish => [(⟨true, false, true, value⟩, finish)]
    | '>' :: finish => [(⟨true, true, false, value⟩, finish)]
    | _ => []
  | _ => []

/--
The first operator of a text that has something behind it, with the texts before and
after it.
-/
def findOperator : List Char → Option (List Char × Operator × List Char)
  | [] => none
  | c :: rest =>
    match (operatorsAt (c :: rest)).find? fun found => !found.2.isEmpty with
    | some (operator, finish) => some ([], operator, finish)
    | none => (findOperator rest).map fun found => (c :: found.1, found.2.1, found.2.2)

/-- The text before the first semicolon, and the text after it if there is one. -/
def splitContext (line : List Char) : List Char × Option (List Char) :=
  match breakAt [';'] line with
  | some (link, context) => (link, some context)
  | none => (line, none)

/-- The link that a line holds.  Its first character belongs to the name of the start. -/
def readLink? (keepContext : Bool) (number : Nat) (line : List Char) : Option Link :=
  let (text, context) := splitContext (trim line)
  match trim text with
  | [] => none
  | c :: rest =>
    match findOperator rest with
    | none => none
    | some (before, operator, finish) =>
      let written := ((context.map trim).filter fun text => !text.isEmpty).map String.ofList
      some {
        start := String.ofList (trim (c :: before))
        finish := String.ofList (trim finish)
        flow := operator.flow
        future := operator.future
        past := operator.past
        context := if keepContext then written else none
        flowValue := operator.value.map String.ofList
        line := some (.int number) }

/-- The links of a text, with or without their contexts. -/
def links (keepContext : Bool) (lines : List (Nat × List Char)) : List Link :=
  (lines.filter fun line => !isReserved line.2).filterMap fun line =>
    readLink? keepContext line.1 line.2

end Construct
end Wardley
