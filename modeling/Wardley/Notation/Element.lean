import Wardley.Notation.Clause

/-!
# Declarations of elements

An element is declared as `Name [visibility, maturity]` followed by a label, decorator
groups, the word `inertia` and a reference to an address in any order.  Every clause
but the name may be left out, and without brackets the element sits at the place
of a sketch.

Main definitions:

- `readElement`: the element that the body of a declaration describes.
-/

namespace Wardley
namespace Notation

open Text

/-- The element that the body of a declaration describes. -/
def readElement (keyword : String) (kind : ElementKind) (line : Number) (body : List Char) :
    Except Fault Element := do
  let (url, withoutUrl) := takeUrl body
  let decoration := takeDecorators withoutUrl
  let placement ← splitPosition decoration.rest
  let (label, rest) ← takeLabel placement.rest
  let (name, trailing) :=
    match placement.position with
    | none => dropInertia placement.name
    | some _ => (placement.name, (dropInertia rest).2)
  let (visibility, maturity) :=
    match placement.position with
    | none => (sketchVisibility, sketchMaturity)
    | some (v, m) => (.float v, .float m)
  if name.isEmpty then throw (.missingName keyword)
  pure {
    name := String.ofList name
    kind := kind
    maturity := maturity
    visibility := visibility
    label := label.getD .standard
    line := some line
    decorators := decoration.decorators
    inertia := decoration.inertia || trailing
    url := url.map String.ofList }

end Notation
end Wardley
