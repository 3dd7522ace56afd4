import Wardley.Construct.Evolutions
import Wardley.Construct.Links
import Wardley.Construct.Methods
import Wardley.Construct.Pipelines
import Wardley.Construct.Regions
import Wardley.Construct.Remarks
import Wardley.Construct.Settings
import Wardley.Switches

/-!
# Findings

A map text is read once per kind of construct.  Each reading is on its own: it sees all
lines and yields one field of the draft, with the diagnostics of its own lines.

Main definitions:

- `Kind`: the kinds of constructs, in the order of their readings.
- `Content`: what a reading yields.
- `Finding`: a content under the key of the field that it fills.
- `Kind.read`: the reading of a kind.

Main results:

- `Kind.ofKey?_key`: a kind is determined by its key.
-/

namespace Wardley

/-- The kinds of constructs of a map text. -/
inductive Kind where
  | title
  | evolution
  | presentation
  | notes
  | annotations
  | elements
  | pipelines
  | evolved
  | anchors
  | links
  | submaps
  | urls
  | attitudes
  | accelerators
  | methods
  deriving DecidableEq, Repr, Inhabited

namespace Kind

/-- All kinds, in the order in which they are read. -/
def all : List Kind :=
  [title, evolution, presentation, notes, annotations, elements, pipelines, evolved, anchors,
   links, submaps, urls, attitudes, accelerators, methods]

/-- The name of the field that a kind fills. -/
def key : Kind → String
  | title => "title"
  | evolution => "evolution"
  | presentation => "presentation"
  | notes => "notes"
  | annotations => "annotations"
  | elements => "elements"
  | pipelines => "pipelines"
  | evolved => "evolved"
  | anchors => "anchors"
  | links => "links"
  | submaps => "submaps"
  | urls => "urls"
  | attitudes => "attitudes"
  | accelerators => "accelerators"
  | methods => "methods"

/-- The kind that fills a field. -/
def ofKey? (key : String) : Option Kind := all.find? fun kind => kind.key == key

/-- The key of a kind is read as the kind. -/
@[simp] theorem ofKey?_key (kind : Kind) : ofKey? kind.key = some kind := by
  cases kind <;> decide

/-- Every kind is listed. -/
theorem mem_all (kind : Kind) : kind ∈ all := by cases kind <;> decide

end Kind

/-! ## Contents -/

/-- What a reading yields. -/
inductive Content where
  | title (title : String)
  | axis (labels : List AxisLabel)
  | presentation (presentation : Presentation)
  | notes (notes : List Note)
  | annotations (annotations : List Annotation)
  | elements (elements : List Element)
  | pipelines (pipelines : List Pipeline)
  | evolved (evolved : List Evolved)
  | links (links : List Link)
  | urls (urls : List Url)
  | attitudes (attitudes : List Attitude)
  | accelerators (accelerators : List Accelerator)
  | methods (methods : List Method)
  deriving DecidableEq, Repr, Inhabited

/-- The content of a field that nothing fills. -/
def Kind.empty : Kind → Content
  | .title => .title standardTitle
  | .evolution => .axis []
  | .presentation => .presentation {}
  | .notes => .notes []
  | .annotations => .annotations []
  | .elements => .elements []
  | .pipelines => .pipelines []
  | .evolved => .evolved []
  | .anchors => .elements []
  | .links => .links []
  | .submaps => .elements []
  | .urls => .urls []
  | .attitudes => .attitudes []
  | .accelerators => .accelerators []
  | .methods => .methods []

/-- A content under the key of the field that it fills, with its diagnostics. -/
structure Finding where
  key : String
  content : Content
  errors : List Diagnostic
  deriving DecidableEq, Repr, Inhabited

/-! ## Readings -/

/-- The content and the diagnostics of an outcome. -/
def fromOutcome {α : Type} (wrap : List α → Content) (outcome : Notation.Outcome α) :
    Content × List Diagnostic :=
  (wrap outcome.records, outcome.errors)

/-- The content and the diagnostics that a kind finds in numbered lines. -/
def Kind.contents (switches : Switches) (lines : List (Nat × List Char)) :
    Kind → Content × List Diagnostic
  | .title => (.title (Construct.title lines), (Construct.titles lines).errors)
  | .evolution => (.axis (Construct.axisLabels lines), [])
  | .presentation =>
    (.presentation (Construct.presentation lines), (Construct.settings lines).errors)
  | .notes => fromOutcome .notes (Construct.notes lines)
  | .annotations => fromOutcome .annotations (Construct.annotations lines)
  | .elements => fromOutcome .elements (Construct.elements lines)
  | .pipelines => fromOutcome .pipelines (Construct.pipelines switches.newPipelines lines)
  | .evolved => fromOutcome .evolved (Construct.evolutions lines)
  | .anchors => fromOutcome .elements (Construct.anchors lines)
  | .links => (.links (Construct.links switches.linkContext lines), [])
  | .submaps => fromOutcome .elements (Construct.submaps lines)
  | .urls => fromOutcome .urls (Construct.urls lines)
  | .attitudes => fromOutcome .attitudes (Construct.attitudes lines)
  | .accelerators =>
    fromOutcome .accelerators (Construct.accelerators switches.accelerators lines)
  | .methods => fromOutcome .methods (Construct.methods lines)

/-- The reading of a kind over lines without comments. -/
def Kind.read (switches : Switches) (lines : List (List Char)) (kind : Kind) : Finding :=
  let found := kind.contents switches (Notation.numbered lines)
  ⟨kind.key, found.1, found.2⟩

/-- All readings of lines without comments. -/
def findings (switches : Switches) (lines : List (List Char)) : List Finding :=
  Kind.all.map (Kind.read switches lines)

end Wardley
