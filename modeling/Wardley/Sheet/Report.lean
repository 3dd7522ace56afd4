import Wardley.Resolution.Report
import Wardley.Sheet.Index

/-!
# Reports on sheets

The report on a sheet lists the same findings as the report of a map.  Only texts can be
listed in its warnings, so that any other name among the findings is a fault.

Main definitions:

- `Sheet.report`: the report on a sheet.
-/

namespace Wardley
namespace Sheet

/-- The text of a name. -/
def Name.text : Name → Except Fault String
  | ⟨.text value⟩ => .ok value
  | _ => .error .otherType

/-- The texts of names without repetition, in increasing order. -/
def nameTexts (names : List Name) : Except Fault (List String) := do
  pure (sortedNames (← names.mapM Name.text))

/-- The names of records that are not among others. -/
def missingNames (records : List Record) (declared : List Name) : Except Fault (List Name) := do
  let names ← records.mapM Record.name
  pure (names.filter fun name => !declared.contains name)

/-- The addresses that elements refer to; null refers to none. -/
def references (sheet : Sheet) : Except Fault (List Name) :=
  ((sheet.elements.map fun element => element.value "url").filter fun url => !url.isNull).mapM
    asName

/-- The text of a document in a warning: texts and timestamps as they are. -/
def warningText (document : Document) : Except Fault String :=
  match document with
  | .scalar (.text value) => .ok value
  | .scalar (.timestamp value) => .ok value.text
  | other => if other.hasText then .ok other.display else .error (.unwritable .tooManyDigits)

/-- The text of a link in a warning. -/
def linkText (link : Record) : Except Fault String := do
  let start ← warningText (link.value "start")
  let finish ← warningText (link.value "end")
  pure (start ++ "->" ++ finish)

/-- The report on a sheet. -/
def report (sheet : Sheet) : Except Fault (Report Document Record) := do
  let places ← sheet.index
  let danglingLinks ← sheet.danglingLinks places
  let declared ← sheet.elements.mapM Record.name
  let missing ← missingNames (sheet.records .evolved) declared
  let pipelines ← missingNames (sheet.records .pipelines) declared
  let urls ← (sheet.records .urls).mapM Record.name
  let references ← sheet.references
  let unknown := references.filter fun name => !urls.contains name
  let links ← danglingLinks.mapM linkText
  let missingEvolveTargets ← nameTexts missing
  let pipelinesWithoutElement ← nameTexts pipelines
  let unknownUrlReferences ← nameTexts unknown
  let duplicateNames ← nameTexts (repeatedNames [] declared)
  pure {
    title := sheet.title
    totalElements := sheet.elements.length
    totalLinks := (sheet.records .links).length
    totalPipelines := (sheet.records .pipelines).length
    totalDiagnostics := (sheet.records .errors).length
    danglingLinks
    missingEvolveTargets
    pipelinesWithoutElement
    unknownUrlReferences
    duplicateNames
    warnings :=
      warningsOf links missingEvolveTargets pipelinesWithoutElement unknownUrlReferences
        duplicateNames }

end Sheet
end Wardley
