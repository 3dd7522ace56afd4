import Wardley.Proofs.Sheet.Typed
import Wardley.Sheet.Exchange

/-!
# Documents of sheets of maps

The sheet of a map is written as the document of the map, and so both have the same texts.

Main results:

- `Map.document_sheet`: the document of the sheet of a map.
- `Map.json_sheet`, `Map.writeSheet_sheet`: the texts of the sheet of a map.
-/

namespace Wardley

open Sheet

/-! ## Records -/

/-- Rows that are written one by one are written as a list. -/
theorem Sheet.document_rows {α : Type} {columns : List (String × Rule)} {row : α → Row}
    {write : α → Document} (h : ∀ value, Row.document columns (row value) = .ok (write value))
    (values : List α) :
    (Field.rows (values.map row)).document (.rows columns) = .ok (.list (values.map write)) := by
  have hrows := mapM_map_eq_ok h values
  rw [Field.document, Field.rows?, ok_bind, hrows]
  rfl

/-- The record of an element is written as the element is. -/
theorem Element.document_record (element : Element) :
    Record.document elementSchema element.record = .ok element.document := by
  rcases element with ⟨name, kind, maturity, visibility, label, line, decorators⟩
  cases decorators <;> rfl

/-- The record of a link is written as the link is. -/
theorem Link.document_record (link : Link) :
    Record.document Collection.links.schema link.record = .ok link.document := rfl

/-- The record of an evolution is written as the evolution is. -/
theorem Evolved.document_record (evolved : Evolved) :
    Record.document Collection.evolved.schema evolved.record = .ok evolved.document := by
  rcases evolved with ⟨name, maturity, override, label, line, decorators⟩
  cases decorators <;> rfl

/-- The row of a pipeline child is written as the child is. -/
theorem PipelineChild.document_row (child : PipelineChild) :
    Row.document childColumns child.row = .ok child.document := rfl

/-- The record of a pipeline is written as the pipeline is, children included. -/
theorem Pipeline.document_record (pipeline : Pipeline) :
    Record.document Collection.pipelines.schema pipeline.record = .ok pipeline.document := by
  have hrows : (pipeline.record.get "components").document (.rows childColumns) =
      .ok (.list (pipeline.children.map PipelineChild.document)) :=
    document_rows PipelineChild.document_row pipeline.children
  simp only [Record.document, Collection.schema, required, nullable, flag, List.mapM_cons,
    List.mapM_nil, hrows]
  rfl

/-- The row of an occurrence is written as the occurrence is. -/
theorem Occurrence.document_row (occurrence : Occurrence) :
    Row.document occurrenceColumns occurrence.row = .ok occurrence.document := rfl

/-- The record of an annotation is written as the annotation is. -/
theorem Annotation.document_record (marked : Annotation) :
    Record.document Collection.annotations.schema marked.record = .ok marked.document := by
  have hrows : (marked.record.get "occurrences").document (.rows occurrenceColumns) =
      .ok (.list (marked.occurrences.map Occurrence.document)) :=
    document_rows Occurrence.document_row marked.occurrences
  simp only [Record.document, Collection.schema, required, nullable, textual, List.mapM_cons,
    List.mapM_nil, hrows]
  rfl

/-- The record of a note is written as the note is. -/
theorem Note.document_record (note : Note) :
    Record.document Collection.notes.schema note.record = .ok note.document := rfl

/-- The record of a method is written as the method is. -/
theorem Method.document_record (method : Method) :
    Record.document Collection.methods.schema method.record = .ok method.document := rfl

/-- The record of an address is written as the address is. -/
theorem Url.document_record (url : Url) :
    Record.document Collection.urls.schema url.record = .ok url.document := rfl

/-- The record of an attitude is written as the attitude is. -/
theorem Attitude.document_record (attitude : Attitude) :
    Record.document Collection.attitudes.schema attitude.record = .ok attitude.document := rfl

/-- The record of an accelerator is written as the accelerator is. -/
theorem Accelerator.document_record (accelerator : Accelerator) :
    Record.document Collection.accelerators.schema accelerator.record =
      .ok accelerator.document := rfl

/-- The record of an axis label is written as the label is. -/
theorem AxisLabel.document_record (label : AxisLabel) :
    Record.document Collection.evolution.schema label.record = .ok label.document := rfl

/-- The record of a diagnostic is written as the diagnostic is. -/
theorem Diagnostic.document_record (diagnostic : Diagnostic) :
    Record.document Collection.errors.schema diagnostic.record = .ok diagnostic.document := rfl

/-! ## Sheets -/

namespace Map

variable (map : Map)

/-- A collection of a sheet is written as that of its map. -/
theorem collectionDocument_sheet {α : Type} {collection : Collection} {record : α → Record}
    {write : α → Document} (h : ∀ value, Record.document collection.schema (record value) =
      .ok (write value)) {values : List α} (hvalues : map.records collection = values.map record) :
    map.sheet.collectionDocument collection =
      .ok (collection.name, .list (values.map write)) := by
  have hrecords : map.sheet.records collection = values.map record := hvalues
  rw [collectionDocument, hrecords, mapM_map_eq_ok h]
  rfl

/-- The sheet of a map is written as the document of the map. -/
theorem document_sheet : map.sheet.document = .ok map.document := by
  have hcollections : Collection.all.mapM map.sheet.collectionDocument = .ok _ :=
    mapM_eq_ok_iff.2 <|
      .cons (map.collectionDocument_sheet AxisLabel.document_record rfl) <|
      .cons (map.collectionDocument_sheet Element.document_record rfl) <|
      .cons (map.collectionDocument_sheet Element.document_record rfl) <|
      .cons (map.collectionDocument_sheet Element.document_record rfl) <|
      .cons (map.collectionDocument_sheet Element.document_record rfl) <|
      .cons (map.collectionDocument_sheet Element.document_record rfl) <|
      .cons (map.collectionDocument_sheet Evolved.document_record rfl) <|
      .cons (map.collectionDocument_sheet Pipeline.document_record rfl) <|
      .cons (map.collectionDocument_sheet Link.document_record rfl) <|
      .cons (map.collectionDocument_sheet Annotation.document_record rfl) <|
      .cons (map.collectionDocument_sheet Note.document_record rfl) <|
      .cons (map.collectionDocument_sheet Method.document_record rfl) <|
      .cons (map.collectionDocument_sheet Url.document_record rfl) <|
      .cons (map.collectionDocument_sheet Attitude.document_record rfl) <|
      .cons (map.collectionDocument_sheet Accelerator.document_record rfl) <|
      .cons (map.collectionDocument_sheet Diagnostic.document_record rfl) .nil
  rw [Sheet.document, hcollections]
  rfl

/-- The JSON text of the sheet of a map is that of the map. -/
theorem json_sheet : map.sheet.json = map.json.mapError .unwritable := by
  rw [Sheet.json, document_sheet, ok_bind]
  rfl

/-- A codec writes the sheet of a map as the map. -/
theorem writeSheet_sheet (codec : YamlCodec) :
    codec.writeSheet map.sheet = (codec.writeMap map).mapError .unwritable := by
  rw [YamlCodec.writeSheet, document_sheet, ok_bind]
  rfl

end Map

end Wardley
