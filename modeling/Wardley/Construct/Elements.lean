import Wardley.Notation.Block
import Wardley.Notation.Element

/-!
# Elements of a text

Components, markets and ecosystems, anchors and submaps are declared by keywords of
their own.  Lines that belong to the block of a pipeline declare no element.

Main definitions:

- `elements`, `anchors`, `submaps`: the records of a text with their diagnostics.
- `firstVisibility?`: the visibility of the first element of a name.
-/

namespace Wardley
namespace Construct

open Notation Text

/-- The lines of a text outside the blocks of pipelines. -/
def linesOutsideBlocks (lines : List (Nat × List Char)) : List (Nat × List Char) :=
  let found := blocks (lines.map Prod.snd)
  lines.filter fun line => !isOwned found (line.1 - 1)

/-- The kind that a declaring keyword gives to an element. -/
def kindOf (keyword : String) : ElementKind := (ElementKind.ofWord? keyword).getD .component

/-- The element that a line gives. -/
def readDeclared (declared : Declaration) : Except Fault Element :=
  readElement declared.keyword (kindOf declared.keyword) (.int declared.line) declared.body

/-- The elements of a text that any of the kinds declares. -/
def elementsOf (kinds : List ElementKind) (lines : List (Nat × List Char)) : Outcome Element :=
  collect readDeclared (declarations (kinds.map ElementKind.word) (linesOutsideBlocks lines))

/-- Components, markets and ecosystems. -/
def elements (lines : List (Nat × List Char)) : Outcome Element :=
  elementsOf [.component, .market, .ecosystem] lines

/-- Anchors. -/
def anchors (lines : List (Nat × List Char)) : Outcome Element := elementsOf [.anchor] lines

/-- Submaps. -/
def submaps (lines : List (Nat × List Char)) : Outcome Element := elementsOf [.submap] lines

/-- All elements of a text, in the order of their lines. -/
def declaredElements (lines : List (Nat × List Char)) : List Element :=
  (elementsOf [.component, .market, .ecosystem, .anchor, .submap] lines).records

/-- The visibility of the first of the elements that has a name. -/
def firstVisibility? (declared : List Element) (name : String) : Option Number :=
  (declared.find? fun element => element.name == name).map Element.visibility

end Construct
end Wardley
