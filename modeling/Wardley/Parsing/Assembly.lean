import Wardley.Parsing.Finding
import Wardley.Text.Quoted

/-!
# Assembly

Findings fill the fields of a draft.  Every field is filled at most once, so that their
union does not depend on the order of the findings; only the diagnostics are
listed in that order.

Main definitions:

- `AssemblyError`: the reasons for which findings do not fit together.
- `assemble`: the union of findings.
- `Assembly.draft`: the draft with the fields of an assembly.

Main results:

- `assemble_findings`: the findings of a text always fit together.
-/

namespace Wardley

/-- A reason for which findings do not fit together. -/
inductive AssemblyError where
  | unknownKey (key : String)
  | repeatedKey (key : String)
  deriving DecidableEq, Repr

/-- The wording of an assembly error. -/
def AssemblyError.message : AssemblyError → String
  | unknownKey key =>
    "Unknown legacy map key: " ++ String.ofList (Text.quoted key.toList)
  | repeatedKey key =>
    "Legacy map key " ++ String.ofList (Text.quoted key.toList)
      ++ " produced by more than one strategy"

/-! ## Union -/

/-- The contents of all fields, and all diagnostics. -/
structure Assembly where
  content : Kind → Content
  errors : List Diagnostic

/-- The fields that findings fill, the others being empty. -/
def Assembly.union (findings : List Finding) : Assembly where
  content kind :=
    match findings.find? fun finding => finding.key == kind.key with
    | some finding => finding.content
    | none => kind.empty
  errors := findings.flatMap Finding.errors

/-- The first finding without a field of its own, after findings of given keys. -/
def firstMisfit (seen : List String) : List Finding → Option AssemblyError
  | [] => none
  | finding :: rest =>
    if (Kind.ofKey? finding.key).isNone then some (.unknownKey finding.key)
    else if seen.contains finding.key then some (.repeatedKey finding.key)
    else firstMisfit (finding.key :: seen) rest

/-- The union of findings of which each has a field of its own. -/
def assemble (findings : List Finding) : Except AssemblyError Assembly :=
  match firstMisfit [] findings with
  | some error => .error error
  | none => .ok (.union findings)

/-- The findings of all kinds fit together. -/
theorem firstMisfit_findings (switches : Switches) (lines : List (List Char)) :
    firstMisfit [] (findings switches lines) = none := by
  simp [findings, Kind.all, Kind.read, firstMisfit, Kind.key]
  decide

/-- The findings of a text always fit together. -/
theorem assemble_findings (switches : Switches) (lines : List (List Char)) :
    assemble (findings switches lines) = .ok (.union (findings switches lines)) := by
  simp [assemble, firstMisfit_findings]

/-! ## Drafts -/

namespace Content

/-- The title of a content. -/
def asTitle : Content → String
  | title found => found
  | _ => standardTitle

/-- The axis labels of a content. -/
def asAxis : Content → List AxisLabel
  | axis labels => labels
  | _ => []

/-- The presentation of a content. -/
def asPresentation : Content → Presentation
  | presentation found => found
  | _ => {}

/-- The notes of a content. -/
def asNotes : Content → List Note
  | notes found => found
  | _ => []

/-- The annotations of a content. -/
def asAnnotations : Content → List Annotation
  | annotations found => found
  | _ => []

/-- The elements of a content. -/
def asElements : Content → List Element
  | elements found => found
  | _ => []

/-- The pipelines of a content. -/
def asPipelines : Content → List Pipeline
  | pipelines found => found
  | _ => []

/-- The evolutions of a content. -/
def asEvolved : Content → List Evolved
  | evolved found => found
  | _ => []

/-- The links of a content. -/
def asLinks : Content → List Link
  | links found => found
  | _ => []

/-- The addresses of a content. -/
def asUrls : Content → List Url
  | urls found => found
  | _ => []

/-- The attitudes of a content. -/
def asAttitudes : Content → List Attitude
  | attitudes found => found
  | _ => []

/-- The accelerators of a content. -/
def asAccelerators : Content → List Accelerator
  | accelerators found => found
  | _ => []

/-- The methods of a content. -/
def asMethods : Content → List Method
  | methods found => found
  | _ => []

end Content

/-- The draft with the fields of an assembly; a content of another type counts as empty. -/
def Assembly.draft (assembly : Assembly) : Draft where
  title := (assembly.content .title).asTitle
  evolution := (assembly.content .evolution).asAxis
  presentation := (assembly.content .presentation).asPresentation
  notes := (assembly.content .notes).asNotes
  annotations := (assembly.content .annotations).asAnnotations
  elements := (assembly.content .elements).asElements
  pipelines := (assembly.content .pipelines).asPipelines
  evolved := (assembly.content .evolved).asEvolved
  anchors := (assembly.content .anchors).asElements
  links := (assembly.content .links).asLinks
  submaps := (assembly.content .submaps).asElements
  urls := (assembly.content .urls).asUrls
  attitudes := (assembly.content .attitudes).asAttitudes
  accelerators := (assembly.content .accelerators).asAccelerators
  methods := (assembly.content .methods).asMethods
  errors := assembly.errors

end Wardley
