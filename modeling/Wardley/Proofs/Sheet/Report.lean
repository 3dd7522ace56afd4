import Wardley.Proofs.Sheet.Index
import Wardley.Sheet.Report

/-!
# Reports on sheets of maps

On the sheet of a map every name among the findings is a text, so that the report is never refused
and lists the findings of the map.

Main definitions:

- `Report.onSheet`: the report of a map with the records of its links.

Main results:

- `Map.report_sheet`: the report on the sheet of a map.
-/

namespace Wardley

open Sheet

/-! ## Lists of names -/

namespace Sheet

/-- Every text is a name. -/
theorem asName_text (text : String) : asName (.text text) = .ok (.ofText text) := rfl

/-- A text stands among names that are texts exactly when it stands among the texts. -/
theorem contains_ofText (names : List String) (name : String) :
    (names.map Name.ofText).contains (.ofText name) = names.contains name := by
  induction names with
  | nil => rfl
  | cons first rest ih =>
    rw [List.map_cons, List.contains_cons, List.contains_cons, Name.ofText_beq, ih]

/-- The names that are not among others, as texts and as names. -/
theorem filter_ofText (names others : List String) :
    (names.map Name.ofText).filter (fun name => !(others.map Name.ofText).contains name) =
      (names.filter fun name => !others.contains name).map Name.ofText := by
  rw [List.filter_map]
  congr 2
  funext name
  exact congrArg not (contains_ofText others name)

/-- Names that are texts repeat exactly where the texts do. -/
theorem repeatedNames_ofText (seen names : List String) :
    repeatedNames (seen.map Name.ofText) (names.map Name.ofText) =
      (repeatedNames seen names).map Name.ofText := by
  induction names generalizing seen with
  | nil => rfl
  | cons name rest ih =>
    have hseen := ih (name :: seen)
    rw [List.map_cons] at hseen
    rw [List.map_cons, repeatedNames, repeatedNames, contains_ofText, ih, hseen]
    split <;> rfl

/-- Names that are texts are listed. -/
theorem nameTexts_ofText (names : List String) :
    nameTexts (names.map Name.ofText) = .ok (sortedNames names) := by
  have htext (name : String) : (Name.ofText name).text = .ok (id name) := rfl
  rw [nameTexts, mapM_map_eq_ok htext, ok_bind, List.map_id]
  rfl

/-- The names of records whose name is a text. -/
theorem mapM_name {α : Type} {record : α → Record} {name : α → String}
    (h : ∀ value, (record value).name = .ok (.ofText (name value))) (values : List α) :
    (values.map record).mapM Record.name = .ok ((values.map name).map Name.ofText) := by
  rw [List.map_map]
  exact mapM_map_eq_ok h values

/-- The names of the records of typed values that nothing declares are those of the values. -/
theorem missingNames_record {α : Type} {record : α → Record} {name : α → String}
    (h : ∀ value, (record value).name = .ok (.ofText (name value))) (values : List α)
    (declared : List String) :
    missingNames (values.map record) (declared.map Name.ofText) =
      .ok (((values.map name).filter fun name => !declared.contains name).map Name.ofText) := by
  rw [missingNames, mapM_name h, ok_bind, filter_ofText]
  rfl

end Sheet

/-! ## The report -/

/-- A report with the records of its links. -/
def Report.onSheet (report : Report String Link) : Report Document Record :=
  { title := .text report.title
    totalElements := report.totalElements
    totalLinks := report.totalLinks
    totalPipelines := report.totalPipelines
    totalDiagnostics := report.totalDiagnostics
    danglingLinks := report.danglingLinks.map Link.record
    missingEvolveTargets := report.missingEvolveTargets
    pipelinesWithoutElement := report.pipelinesWithoutElement
    unknownUrlReferences := report.unknownUrlReferences
    duplicateNames := report.duplicateNames
    warnings := report.warnings }

namespace Map

variable (map : Map)

/-- The addresses that a sheet refers to are those of its map. -/
theorem references_sheet :
    map.sheet.references = .ok ((map.elements.filterMap Element.url).map Name.ofText) := by
  have hurls : ((map.elements.map Element.record).map fun element => element.value "url").filter
      (fun url => !url.isNull) = (map.elements.filterMap Element.url).map Document.text := by
    induction map.elements with
    | nil => rfl
    | cons element rest ih =>
      have hurl : element.record.value "url" = .optional .text element.url := rfl
      rw [List.map_cons, List.map_cons, List.filter_cons, ih, hurl, List.filterMap_cons]
      cases element.url <;> rfl
  rw [references, elements_sheet, hurls]
  exact mapM_map_eq_ok asName_text _

/-- The report on the sheet of a map is the report of the map. -/
theorem report_sheet : map.sheet.report = .ok map.report.onSheet := by
  have hdeclared : (map.elements.map Element.record).mapM Record.name =
      .ok ((map.elements.map Element.name).map Name.ofText) := mapM_name (fun _ => rfl) _
  have hevolved : missingNames (map.sheet.records .evolved)
      ((map.elements.map Element.name).map Name.ofText) =
        .ok (((map.evolved.map Evolved.name).filter
          fun name => !map.isDeclared name).map Name.ofText) :=
    missingNames_record (fun _ => rfl) _ _
  have hpipelines : missingNames (map.sheet.records .pipelines)
      ((map.elements.map Element.name).map Name.ofText) =
        .ok (((map.pipelines.map Pipeline.name).filter
          fun name => !map.isDeclared name).map Name.ofText) :=
    missingNames_record (fun _ => rfl) _ _
  have hurls : (map.sheet.records .urls).mapM Record.name =
      .ok ((map.urls.map Url.name).map Name.ofText) := mapM_name (fun _ => rfl) _
  have hlink (link : Link) : linkText link.record = .ok (link.start ++ "->" ++ link.finish) := rfl
  have hduplicates : repeatedNames [] ((map.elements.map Element.name).map Name.ofText) =
      (repeatedNames [] (map.elements.map Element.name)).map Name.ofText :=
    repeatedNames_ofText [] _
  have htotals : (map.sheet.records .links).length = map.links.length ∧
      (map.sheet.records .pipelines).length = map.pipelines.length ∧
      (map.sheet.records .errors).length = map.errors.length :=
    ⟨List.length_map _, List.length_map _, List.length_map _⟩
  simp only [Sheet.report, index_sheet, danglingLinks_sheet, elements_sheet, hdeclared, hevolved,
    hpipelines, hurls, references_sheet, mapM_map_eq_ok hlink, hduplicates, filter_ofText,
    nameTexts_ofText, htotals, List.length_map, ok_bind, pure_eq]
  rfl

end Map

end Wardley
