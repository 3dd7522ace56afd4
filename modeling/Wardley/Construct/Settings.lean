import Wardley.Model.Map
import Wardley.Notation.Clause

/-!
# Settings of a map

A map text sets its title, the labels of its evolution axis and its presentation.  The
first title wins, the last of every other setting does, and a faulty line never
changes one.

Main definitions:

- `title`: the first title that is not blank.
- `axisLabels`: the labels of the last line that names four stages.
- `presentation`: style, place of the annotations and size.
-/

namespace Wardley
namespace Construct

open Notation Text

/-! ## Title -/

/-- The title that a line gives. -/
def readTitle (declared : Declaration) : Except Fault (List Char) :=
  if declared.body.isEmpty then .error .missingTitle else .ok declared.body

/-- The titles of a text. -/
def titles (lines : List (Nat × List Char)) : Outcome (List Char) :=
  collect readTitle (declarations ["title"] lines)

/-- The first title of a text, or the standard one. -/
def title (lines : List (Nat × List Char)) : String :=
  match (titles lines).records with
  | first :: _ => String.ofList first
  | [] => standardTitle

/-! ## Evolution axis -/

/-- The label of a stage; an ampersand begins its second line. -/
def readStage (stage : List Char) : AxisLabel :=
  match breakAt ['&'] stage with
  | some (line1, line2) => ⟨String.ofList (trim line1), String.ofList (trim line2)⟩
  | none => ⟨String.ofList (trim stage), ""⟩

/-- The labels that a line gives if it names four stages. -/
def readStages? (body : List Char) : Option (List AxisLabel) :=
  let stages := (splitArrows body).map trim
  if stages.length = 4 ∧ stages.all (fun stage => !stage.isEmpty) then some (stages.map readStage)
  else none

/-- The labels of the last line that names four stages; none without such a line. -/
def axisLabels (lines : List (Nat × List Char)) : List AxisLabel :=
  let written := (declarations ["evolution"] lines).filterMap fun declared =>
    readStages? declared.body
  written.getLast?.getD []

/-! ## Presentation -/

/-- One setting of the presentation. -/
inductive Setting where
  | style (name : String)
  | annotations (place : Point)
  | size (extent : Size)
  deriving DecidableEq, Repr

/-- A body that is exactly one bracketed pair of numbers. -/
def readBracketedPair (keyword : String) (body : List Char) : Except Fault (Double × Double) :=
  match takeBrackets? body with
  | some (content, []) => readPair "coordinate" content
  | _ => .error (.missingPair keyword)

/-- The setting that a line gives. -/
def readSetting (declared : Declaration) : Except Fault Setting :=
  if declared.keyword = "style" then
    if declared.body.isEmpty then .error .missingStyle
    else .ok (.style (String.ofList declared.body))
  else do
    let (a, b) ← readBracketedPair declared.keyword declared.body
    if declared.keyword = "annotations" then pure (.annotations ⟨.float a, .float b⟩)
    else pure (.size ⟨.float a, .float b⟩)

/-- A presentation after one more setting. -/
def Setting.apply (presentation : Presentation) : Setting → Presentation
  | .style name => { presentation with style := name }
  | .annotations place => { presentation with annotations := place }
  | .size extent => { presentation with size := extent }

/-- The settings of a text. -/
def settings (lines : List (Nat × List Char)) : Outcome Setting :=
  collect readSetting (declarations ["style", "annotations", "size"] lines)

/-- The presentation of a text: the last of each setting. -/
def presentation (lines : List (Nat × List Char)) : Presentation :=
  (settings lines).records.foldl Setting.apply {}

end Construct
end Wardley
