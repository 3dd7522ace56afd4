import Wardley.Model.Relation
import Wardley.Notation.Clause

/-!
# Evolutions of a text

An evolution names an element and the maturity it moves to; an arrow after the name
gives the projection a name of its own.  A label and decorator groups may follow.

Main definitions:

- `evolutions`: the evolutions of a text with their diagnostics.
-/

namespace Wardley
namespace Construct

open Notation Text

/-- The text before the last word and the last word, if it is a numeral. -/
def splitTarget? (body : List Char) : Option (List Char × List Char) :=
  let reversed := (trimEnd body).reverse
  let last := (reversed.takeWhile fun c => !isBlank c).reverse
  let target := (trimStart (reversed.dropWhile fun c => !isBlank c)).reverse
  if target.isEmpty || (decimal? last).isNone then none else some (target, last)

/-- The evolution that a line gives. -/
def readEvolution (declared : Declaration) : Except Fault Evolved := do
  let (label, body) ← takeLabel declared.body
  let decoration := takeDecorators body
  match splitTarget? (dropInertia decoration.rest).1 with
  | none => throw .missingEvolveTarget
  | some (target, last) =>
    let (source, projected) :=
      match breakAt ['-', '>'] target with
      | some (source, projected) => (trim source, trim projected)
      | none => (trim target, [])
    if source.isEmpty then throw (.missingName "evolve")
    let maturity ← readNumber "maturity" last
    pure {
      name := String.ofList source
      maturity := .float maturity
      override := if projected.isEmpty then none else some (String.ofList projected)
      label := label.getD .standard
      line := some (.int declared.line)
      decorators := decoration.decorators }

/-- The evolutions of a text. -/
def evolutions (lines : List (Nat × List Char)) : Outcome Evolved :=
  collect readEvolution (declarations ["evolve"] lines)

end Construct
end Wardley
