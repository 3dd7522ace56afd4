import Wardley.Construct.Elements
import Wardley.Model.Relation

/-!
# Pipelines of a text

A pipeline is declared with a range of maturity or with a block of children.  Its
visibility is that of the first element of its name, and its children share it.
The children of a block may stand on any of its lines, several on one line too.

Main definitions:

- `pipelines`: the pipelines of a text with their diagnostics.
- `splitChildren`: the bodies of the children on one line of a block.
-/

namespace Wardley
namespace Construct

open Notation Text

/-! ## Children -/

/-- The rest of a text after a leading word `component`, if blanks or nothing follow it. -/
def afterChildKeyword? (text : List Char) : Option (List Char) :=
  match afterPrefix "component".toList text with
  | some [] => some []
  | some (c :: rest) => if isBlank c then some (c :: rest) else none
  | none => none

/--
The pieces of a text between its words `component`.  The first argument says whether a
word may begin here.
-/
def splitAtChildren (fresh : Bool) (text : List Char) : List (List Char) :=
  match text with
  | [] => [[]]
  | c :: rest =>
    match (if fresh then afterChildKeyword? (c :: rest) else none) with
    | some _ => [] :: splitAtChildren false (rest.drop 8)
    | none =>
      match splitAtChildren (isBlank c) rest with
      | [] => [[c]]
      | piece :: others => (c :: piece) :: others
termination_by text.length
decreasing_by
  · simp only [List.length_cons, List.length_drop]
    omega
  · simp only [List.length_cons]
    omega

/-- The trimmed bodies of the children on one line of a block. -/
def splitChildren (text : List Char) : List (List Char) :=
  (splitAtChildren true text).tail.map trim

/-- The child that a body describes. -/
def readChild (visibility : Number) (declared : Declaration) : Except Fault PipelineChild :=
  match splitBrackets? declared.body with
  | none => .error .missingChildMaturity
  | some (name, content, rest) => do
    let name := trim name
    if name.isEmpty then throw (.missingName "pipeline component")
    let maturity ← readSingle "maturity" content
    let (label, _) ← takeLabel rest
    pure {
      name := String.ofList name
      maturity := .float maturity
      visibility := visibility
      label := label.getD .standard
      line := some (.int declared.line) }

/-- The part of a line that lies inside a block. -/
def insideBlock (block : Block) (position : Nat) (line : List Char) : List Char :=
  let opened := if position = block.opening then afterBrace line else line
  if position = block.closing then opened.takeWhile (· != '}') else opened

/-- The declarations of children on the lines of a block. -/
def childDeclarations (block : Block) (lines : List (Nat × List Char)) : List Declaration :=
  (lines.filter fun line => block.owns (line.1 - 1)).flatMap fun line =>
    (splitChildren (insideBlock block (line.1 - 1) line.2)).map fun body =>
      ⟨line.1, "component", body⟩

/-- The children of a block. -/
def children (block : Block) (visibility : Number) (lines : List (Nat × List Char)) :
    Outcome PipelineChild :=
  collect (readChild visibility) (childDeclarations block lines)

/-! ## Headers -/

/-- The pipeline that a header describes, without its children. -/
def readHeader (declared : List Element) (header : Declaration) : Except Fault Pipeline := do
  let decoration := takeDecorators (header.body.takeWhile (· != '{'))
  let placement ← splitPosition decoration.rest
  let (name, trailing) := dropInertia placement.name
  if name.isEmpty then throw (.missingName "pipeline")
  let name := String.ofList name
  pure {
    name := name
    visibility := (firstVisibility? declared name).getD sketchVisibility
    maturity1 := placement.position.map fun range => .float range.1
    maturity2 := placement.position.map fun range => .float range.2
    hidden := false
    inertia := decoration.inertia || trailing || (dropInertia placement.rest).2
    line := some (.int header.line) }

/--
Reads one pipeline.  With a block it has the children of the block, whose faults are
reported after each other; without a block and a range it is hidden.
-/
def readPipeline (declared : List Element) (found : List Block)
    (lines : List (Nat × List Char)) (header : Declaration) : Outcome Pipeline :=
  match readHeader declared header with
  | .error fault => ⟨[], [fault.diagnostic header.line]⟩
  | .ok pipeline =>
    match found.find? fun block => block.header == header.line - 1 with
    | some block =>
      let inner := children block pipeline.visibility lines
      ⟨[{ pipeline with children := inner.records }], inner.errors⟩
    | none => ⟨[{ pipeline with hidden := pipeline.maturity1.isNone }], []⟩

/--
The pipelines of a text.  Blocks are read only if they are switched on; lines between
the braces of a block that is read are no headers.
-/
def pipelines (readBlocks : Bool) (lines : List (Nat × List Char)) : Outcome Pipeline :=
  let declared := declaredElements lines
  let found := if readBlocks then blocks (lines.map Prod.snd) else []
  let outside := lines.filter fun line => !found.any fun block => block.encloses (line.1 - 1)
  let outcomes := (declarations ["pipeline"] outside).map (readPipeline declared found lines)
  ⟨outcomes.flatMap Outcome.records, outcomes.flatMap Outcome.errors⟩

end Construct
end Wardley
