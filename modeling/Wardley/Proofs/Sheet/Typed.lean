import Wardley.Proofs.Document.Numbers
import Wardley.Proofs.Document.Requirements
import Wardley.Sheet.Reading

/-!
# Sheets of maps

A map is a sheet whose leaves are of the types of their fields.  A document that describes a map
describes the sheet of that map too, and so it is with drafts: the reader that checks every leaf and
the reader that checks none take the same values out of a document.

Main definitions:

- `Map.sheet`, `Draft.sheet`, and a `record` for each record of a map.
- `Sheet.Takes`, `Sheet.TakesRow`: what a schema takes out of a document.

Main results:

- `Map.ofDocument_sheet`, `Draft.ofDocument_sheet`: a document of a map describes its sheet.
- `Map.sheet_ofDocument`: the document of a map with an axis describes the sheet of the map.
-/

namespace Wardley

open Document Sheet

/-! ## Cells -/

/-- The cell of a label. -/
def Label.cell (label : Label) : Cell := .group [("x", .number label.x), ("y", .number label.y)]

/-- The parts of decorators. -/
def Decorators.parts (flags : Decorators) : List (String × Document) :=
  Decorator.all.map fun decorator => (decorator.word, .bool (flags.has decorator))

/-- The cell of decorators that may be absent. -/
def Decorators.cell? (flags : Option Decorators) : Cell :=
  flags.elim (.datum .null) fun flags => .group flags.parts

/-- A field that holds a document. -/
def Sheet.datum (name : String) (value : Document) : String × Field := (name, .cell (.datum value))

/-! ## Records -/

/-- The record of an element. -/
def Element.record (element : Element) : Record := [
  datum "name" (.text element.name),
  ("kind", .cell (.kind element.kind)),
  datum "maturity" (.number element.maturity),
  datum "visibility" (.number element.visibility),
  ("label", .cell element.label.cell),
  datum "line" (.optional .number element.line),
  ("decorators", .cell (Decorators.cell? element.decorators)),
  datum "inertia" (.bool element.inertia),
  datum "pseudo" (.bool element.pseudo),
  datum "url" (.optional .text element.url),
  datum "evolving" (.bool element.evolving),
  datum "evolve_maturity" (.optional .number element.evolveMaturity),
  datum "pipeline" (.bool element.pipeline)]

/-- The record of a link. -/
def Link.record (link : Link) : Record := [
  datum "start" (.text link.start),
  datum "end" (.text link.finish),
  datum "flow" (.bool link.flow),
  datum "future" (.bool link.future),
  datum "past" (.bool link.past),
  datum "context" (.optional .text link.context),
  datum "flow_value" (.optional .text link.flowValue),
  datum "line" (.optional .number link.line)]

/-- The record of an evolution. -/
def Evolved.record (evolved : Evolved) : Record := [
  datum "name" (.text evolved.name),
  datum "maturity" (.number evolved.maturity),
  datum "override" (.optional .text evolved.override),
  ("label", .cell evolved.label.cell),
  datum "line" (.optional .number evolved.line),
  ("decorators", .cell (Decorators.cell? evolved.decorators))]

/-- The row of a child of a pipeline. -/
def PipelineChild.row (child : PipelineChild) : Row := [
  ("name", .datum (.text child.name)),
  ("maturity", .datum (.number child.maturity)),
  ("visibility", .datum (.number child.visibility)),
  ("label", child.label.cell),
  ("line", .datum (.optional .number child.line))]

/-- The record of a pipeline. -/
def Pipeline.record (pipeline : Pipeline) : Record := [
  datum "name" (.text pipeline.name),
  datum "visibility" (.number pipeline.visibility),
  ("components", .rows (pipeline.children.map PipelineChild.row)),
  datum "maturity1" (.optional .number pipeline.maturity1),
  datum "maturity2" (.optional .number pipeline.maturity2),
  datum "hidden" (.bool pipeline.hidden),
  datum "inertia" (.bool pipeline.inertia),
  datum "line" (.optional .number pipeline.line)]

/-- The row of a place that an annotation marks. -/
def Occurrence.row (occurrence : Occurrence) : Row := [
  ("visibility", .datum (.number occurrence.visibility)),
  ("maturity", .datum (.number occurrence.maturity))]

/-- The record of an annotation. -/
def Annotation.record (marked : Annotation) : Record := [
  datum "number" (.number marked.number),
  datum "text" (.text marked.text),
  ("occurrences", .rows (marked.occurrences.map Occurrence.row)),
  datum "line" (.optional .number marked.line)]

/-- The record of a note. -/
def Note.record (note : Note) : Record := [
  datum "text" (.text note.text),
  datum "visibility" (.number note.visibility),
  datum "maturity" (.number note.maturity),
  datum "line" (.optional .number note.line)]

/-- The record of a method. -/
def Method.record (method : Method) : Record := [
  datum "name" (.text method.name),
  ("decorators", .cell (.group method.decorators.parts)),
  datum "line" (.optional .number method.line)]

/-- The record of an address. -/
def Url.record (url : Url) : Record := [
  datum "name" (.text url.name),
  datum "url" (.text url.url),
  datum "line" (.optional .number url.line)]

/-- The record of an attitude. -/
def Attitude.record (attitude : Attitude) : Record := [
  datum "attitude" (.text attitude.attitude),
  datum "visibility" (.number attitude.visibility),
  datum "maturity" (.number attitude.maturity),
  datum "visibility2" (.optional .number attitude.visibility2),
  datum "maturity2" (.optional .number attitude.maturity2),
  datum "width" (.optional .number attitude.width),
  datum "height" (.optional .number attitude.height),
  datum "line" (.optional .number attitude.line)]

/-- The record of an accelerator. -/
def Accelerator.record (accelerator : Accelerator) : Record := [
  datum "name" (.text accelerator.name),
  datum "visibility" (.number accelerator.visibility),
  datum "maturity" (.number accelerator.maturity),
  datum "deaccelerator" (.bool accelerator.deaccelerator),
  datum "line" (.optional .number accelerator.line)]

/-- The record of an axis label. -/
def AxisLabel.record (label : AxisLabel) : Record :=
  [datum "line1" (.text label.line1), datum "line2" (.text label.line2)]

/-- The record of a diagnostic. -/
def Diagnostic.record (diagnostic : Diagnostic) : Record :=
  [datum "line" (.number diagnostic.line), datum "message" (.text diagnostic.message)]

/-! ## Sheets -/

/-- The records of a map. -/
def Map.records (map : Map) : Collection → List Record
  | .evolution => map.evolution.map AxisLabel.record
  | .components => map.components.map Element.record
  | .anchors => map.anchors.map Element.record
  | .submaps => map.submaps.map Element.record
  | .markets => map.markets.map Element.record
  | .ecosystems => map.ecosystems.map Element.record
  | .evolved => map.evolved.map Evolved.record
  | .pipelines => map.pipelines.map Pipeline.record
  | .links => map.links.map Link.record
  | .annotations => map.annotations.map Annotation.record
  | .notes => map.notes.map Note.record
  | .methods => map.methods.map Method.record
  | .urls => map.urls.map Url.record
  | .attitudes => map.attitudes.map Attitude.record
  | .accelerators => map.accelerators.map Accelerator.record
  | .errors => map.errors.map Diagnostic.record

/-- The sheet of a map. -/
def Map.sheet (map : Map) : Sheet :=
  { title := .text map.title, presentation := map.presentation.document, records := map.records }

/-- A draft as a map whose elements are not classified yet. -/
def Draft.unsorted (draft : Draft) : Map where
  title := draft.title
  presentation := draft.presentation
  evolution := if draft.evolution.isEmpty then AxisLabel.standard else draft.evolution
  components := draft.elements
  anchors := draft.anchors
  submaps := draft.submaps
  evolved := draft.evolved
  pipelines := draft.pipelines
  links := draft.links
  annotations := draft.annotations
  notes := draft.notes
  methods := draft.methods
  urls := draft.urls
  attitudes := draft.attitudes
  accelerators := draft.accelerators
  errors := draft.errors

/-- The sheet of a draft. -/
def Draft.sheet (draft : Draft) : Sheet := draft.unsorted.sheet

/-! ## Leaves -/

namespace Sheet

/-- A reader of leaves accepts only documents that stand for the value it gives. -/
def Faithful {α : Type} (read : Document → Except ReadError α) (write : α → Document) : Prop :=
  ∀ {found value}, read found = .ok value → found = write value

/-- The text reader accepts texts only. -/
theorem faithful_readText : Faithful readText .text := by
  intro found value h
  unfold readText at h
  split at h <;> cases h
  rfl

/-- The number reader accepts numbers only. -/
theorem faithful_readNumber : Faithful readNumber .number := by
  intro found value h
  unfold readNumber at h
  split at h <;> cases h
  rfl

/-- The flag reader accepts the two booleans only. -/
theorem faithful_readBool : Faithful readBool .bool := by
  intro found value h
  unfold readBool at h
  split at h <;> cases h
  rfl

/-- A reader of leaves that may be null is faithful if the reader of the others is. -/
theorem faithful_readOptional {α : Type} {read : Document → Except ReadError α}
    {write : α → Document} (hleaf : Faithful read write) :
    Faithful (readOptional read) (.optional write) := by
  intro found value h
  unfold readOptional at h
  split at h
  · cases h
    exact eq_null_of_isNull ‹_›
  · obtain ⟨inner, hinner, rfl⟩ := map_eq_ok.1 h
    exact hleaf hinner

/-- An optional leaf of a document, or else the standard one, stands for the value that is read. -/
theorem Faithful.found_eq {α : Type} {read : Document → Except ReadError α} {write : α → Document}
    (hleaf : Faithful read write) {document : Document} {name : String} {standard value : α}
    (h : document.fieldOr name read standard = .ok value) :
    ∃ found, document.field? name = .ok found ∧ found.getD (write standard) = write value := by
  obtain ⟨found, hfound, hvalue⟩ := bind_eq_ok.1 h
  refine ⟨found, hfound, ?_⟩
  cases found with
  | none =>
    rcases pure_eq_ok.1 hvalue with rfl
    rfl
  | some found => exact hleaf hvalue

/-! ## Cells that are taken -/

section Cells

variable {document : Document} {name : String}

/-- A required leaf is taken as it is. -/
theorem read_required {α : Type} {read : Document → Except ReadError α} {write : α → Document}
    (hleaf : Faithful read write) {value : α} (h : document.require name >>= read = .ok value) :
    Rule.required.read document name = .ok (.datum (write value)) := by
  obtain ⟨found, hfound, hread⟩ := bind_eq_ok.1 h
  rw [Rule.read, hfound, hleaf hread]
  rfl

/-- An optional leaf is taken as it is, or else the standard one. -/
theorem read_optional {α : Type} {read : Document → Except ReadError α} {write : α → Document}
    (hleaf : Faithful read write) {standard value : α}
    (h : document.fieldOr name read standard = .ok value) :
    (Rule.optional (write standard)).read document name = .ok (.datum (write value)) := by
  obtain ⟨found, hfound, hvalue⟩ := hleaf.found_eq h
  rw [Rule.read, ← hvalue]
  exact map_eq_ok.2 ⟨found, hfound, rfl⟩

/-- A required text is read into a cell that holds it. -/
theorem read_text {value : String} (h : document.requireText name = .ok value) :
    Rule.required.read document name = .ok (.datum (.text value)) :=
  read_required faithful_readText h

/-- A required number is read into a cell that holds it. -/
theorem read_number {value : Number} (h : document.requireNumber name = .ok value) :
    Rule.required.read document name = .ok (.datum (.number value)) :=
  read_required faithful_readNumber h

/-- A text with a default is read into a cell that holds it, or the default. -/
theorem read_textOr {value standard : String}
    (h : document.fieldOr name readText standard = .ok value) :
    (Rule.optional (.text standard)).read document name = .ok (.datum (.text value)) :=
  read_optional faithful_readText h

/-- A flag is read into a cell that holds it, and an absent one into `false`. -/
theorem read_flag {value : Bool} (h : document.flag name = .ok value) :
    (Rule.optional (.bool false)).read document name = .ok (.datum (.bool value)) :=
  read_optional faithful_readBool h

/-- A text that may be absent is read into a cell that holds it, or nothing. -/
theorem read_text? {value : Option String} (h : document.text? name = .ok value) :
    (Rule.optional .null).read document name = .ok (.datum (.optional .text value)) :=
  read_optional (faithful_readOptional faithful_readText) h

/-- A number that may be absent is read into a cell that holds it, or nothing. -/
theorem read_number? {value : Option Number} (h : document.number? name = .ok value) :
    (Rule.optional .null).read document name = .ok (.datum (.optional .number value)) :=
  read_optional (faithful_readOptional faithful_readNumber) h

/-- The kind of an element is read into a cell that holds it. -/
theorem read_kind {found : Option Document} {kind : ElementKind}
    (hfound : document.field? name = .ok found)
    (h : ElementKind.ofDocument (found.getD (.text "component")) = .ok kind) :
    Rule.kind.read document name = .ok (.kind kind) := by
  rw [Rule.read, hfound, ok_bind]
  exact map_eq_ok.2 ⟨kind, h, rfl⟩

/-- A label is read into the cell of the label. -/
theorem read_label {found : Document} {label : Label}
    (hfound : document.fieldOrNull name = .ok found) (h : Label.ofDocument found = .ok label) :
    Rule.label.read document name = .ok label.cell := by
  rw [Rule.read, hfound, ok_bind]
  unfold Label.ofDocument at h
  unfold readLabel
  split at h
  · rcases pure_eq_ok.1 h with rfl
    rw [if_pos ‹_›]
    rfl
  · rw [if_neg ‹_›]
    simp only [bind_eq_ok, pure_eq_ok] at h
    obtain ⟨x, hx, y, hy, rfl⟩ := h
    obtain ⟨x', hx', hreadX⟩ := bind_eq_ok.1 hx
    obtain ⟨y', hy', hreadY⟩ := bind_eq_ok.1 hy
    rw [hx', ok_bind, hy', ok_bind, faithful_readNumber hreadX, faithful_readNumber hreadY]
    rfl

/-- A decorator is taken as the flag that it is. -/
theorem readDecorator_flag {decorator : Decorator} {value : Bool}
    (h : document.flag decorator.word = .ok value) :
    readDecorator document decorator = .ok (decorator.word, .bool value) := by
  obtain ⟨found, hfound, hvalue⟩ := faithful_readBool.found_eq h
  rw [readDecorator, hfound, ok_bind, hvalue]
  rfl

/-- Decorators are taken flag by flag; if they are null, what stands for none is. -/
theorem read_decorators {found : Document} {flags : Option Decorators} {standard : Cell}
    (hfound : document.fieldOrNull name = .ok found)
    (h : Decorators.ofDocument found = .ok flags) :
    (Rule.decorators standard).read document name =
      .ok (flags.elim standard fun flags => .group flags.parts) := by
  rw [Rule.read, hfound, ok_bind]
  unfold Decorators.ofDocument at h
  unfold readDecorators
  split at h
  · rcases pure_eq_ok.1 h with rfl
    rw [if_pos ‹_›]
    rfl
  · rw [if_neg ‹_›]
    simp only [bind_eq_ok, pure_eq_ok] at h
    obtain ⟨ecosystem, hecosystem, market, hmarket, buy, hbuy, build, hbuild, outsource,
      houtsource, rfl⟩ := h
    have hparts : Decorator.all.mapM (readDecorator found) =
        .ok (Decorators.parts ⟨ecosystem, market, buy, build, outsource⟩) :=
      mapM_eq_ok_iff.2 (.cons (readDecorator_flag hecosystem) (.cons (readDecorator_flag hmarket)
        (.cons (readDecorator_flag hbuy) (.cons (readDecorator_flag hbuild)
          (.cons (readDecorator_flag houtsource) .nil)))))
    rw [hparts]
    rfl

end Cells

/-! ## Rows and records that are taken -/

/-- The columns of a row take these cells out of a document. -/
def TakesRow (document : Document) (columns : List (String × Rule)) (row : Row) : Prop :=
  Row.ofDocument columns document = .ok row

/-- A schema takes this record out of a document. -/
def Takes (document : Document) (schema : Schema) (record : Record) : Prop :=
  Record.ofDocument schema document = .ok record

section Takes

variable {document : Document} {name : String}

theorem TakesRow.nil : TakesRow document [] [] := rfl

/-- A row is taken column by column. -/
theorem TakesRow.cell {rule : Rule} {cell : Cell} {columns : List (String × Rule)} {row : Row}
    (hcell : rule.read document name = .ok cell) (hrest : TakesRow document columns row) :
    TakesRow document ((name, rule) :: columns) ((name, cell) :: row) :=
  mapM_eq_ok_iff.2 (.cons (map_eq_ok.2 ⟨cell, hcell, rfl⟩) (mapM_eq_ok_iff.1 hrest))

theorem Takes.nil : Takes document [] [] := rfl

/-- A record is taken field by field. -/
theorem Takes.field {column : Column} {field : Field} {schema : Schema} {record : Record}
    (hfield : column.read document name = .ok field) (hrest : Takes document schema record) :
    Takes document ((name, column) :: schema) ((name, field) :: record) :=
  mapM_eq_ok_iff.2 (.cons (map_eq_ok.2 ⟨field, hfield, rfl⟩) (mapM_eq_ok_iff.1 hrest))

/-- A record whose first field is a cell. -/
theorem Takes.cell {rule : Rule} {cell : Cell} {schema : Schema} {record : Record}
    (hcell : rule.read document name = .ok cell) (hrest : Takes document schema record) :
    Takes document ((name, .cell rule) :: schema) ((name, .cell cell) :: record) :=
  .field (map_eq_ok.2 ⟨cell, hcell, rfl⟩) hrest

/-- Entries that are taken one by one are taken as a list. -/
theorem entriesOf_map {α β : Type} {read : Document → Except ReadError α}
    {take : Document → Except ReadError β} {f : α → β}
    (hread : ∀ {item value}, read item = .ok value → take item = .ok (f value)) {values : List α}
    (h : document.entriesOf name read = .ok values) :
    document.entriesOf name take = .ok (values.map f) := by
  obtain ⟨found, hfound, hvalues⟩ := bind_eq_ok.1 h
  rw [entriesOf, hfound, ok_bind]
  cases found with
  | none =>
    rcases pure_eq_ok.1 hvalues with rfl
    rfl
  | some found =>
    obtain ⟨items, hitems, hmap⟩ := bind_eq_ok.1 hvalues
    exact bind_eq_ok.2 ⟨items, hitems, mapM_map_of_ok hread hmap⟩

/-- A record whose first field is a list of rows, each of which its entry takes. -/
theorem Takes.rows {α : Type} {read : Document → Except ReadError α} {row : α → Row}
    {columns : List (String × Rule)} {values : List α} {schema : Schema} {record : Record}
    (hread : ∀ {item value}, read item = .ok value → TakesRow item columns (row value))
    (hrows : document.entriesOf name read = .ok values) (hrest : Takes document schema record) :
    Takes document ((name, .rows columns) :: schema) ((name, .rows (values.map row)) :: record) :=
  .field (map_eq_ok.2 ⟨_, entriesOf_map hread hrows, rfl⟩) hrest

end Takes

end Sheet

/-! ## Records of a map -/

section Records

variable {document : Document}

/-- Where an element is read from a document, the sheet takes its record from it. -/
theorem Element.takes_record {element : Element} (h : Element.ofDocument document = .ok element) :
    Takes document elementSchema element.record := by
  unfold Element.ofDocument at h
  simp only [bind_eq_ok, pure_eq_ok] at h
  obtain ⟨name, hname, word, hword, kind, hkind, maturity, hmaturity, visibility, hvisibility,
    found, hfound, label, hlabel, line, hline, given, hgiven, flags, hflags, inertia, hinertia,
    pseudo, hpseudo, url, hurl, evolving, hevolving, target, htarget, pipeline, hpipeline,
    rfl⟩ := h
  exact .cell (read_text hname) <| .cell (read_kind hword hkind) <|
    .cell (read_number hmaturity) <| .cell (read_number hvisibility) <|
    .cell (read_label hfound hlabel) <| .cell (read_number? hline) <|
    .cell (read_decorators hgiven hflags) <| .cell (read_flag hinertia) <|
    .cell (read_flag hpseudo) <| .cell (read_text? hurl) <| .cell (read_flag hevolving) <|
    .cell (read_number? htarget) <| .cell (read_flag hpipeline) .nil

/-- Where a link is read from a document, the sheet takes its record from it. -/
theorem Link.takes_record {link : Link} (h : Link.ofDocument document = .ok link) :
    Takes document Collection.links.schema link.record := by
  unfold Link.ofDocument at h
  simp only [bind_eq_ok, pure_eq_ok] at h
  obtain ⟨start, hstart, finish, hfinish, flow, hflow, future, hfuture, past, hpast, context,
    hcontext, flowValue, hflowValue, line, hline, rfl⟩ := h
  exact .cell (read_text hstart) <| .cell (read_text hfinish) <| .cell (read_flag hflow) <|
    .cell (read_flag hfuture) <| .cell (read_flag hpast) <| .cell (read_text? hcontext) <|
    .cell (read_text? hflowValue) <| .cell (read_number? hline) .nil

/-- Where an evolution is read from a document, the sheet takes its record from it. -/
theorem Evolved.takes_record {evolved : Evolved} (h : Evolved.ofDocument document = .ok evolved) :
    Takes document Collection.evolved.schema evolved.record := by
  unfold Evolved.ofDocument at h
  simp only [bind_eq_ok, pure_eq_ok] at h
  obtain ⟨name, hname, maturity, hmaturity, override, hoverride, found, hfound, label, hlabel,
    line, hline, given, hgiven, flags, hflags, rfl⟩ := h
  exact .cell (read_text hname) <| .cell (read_number hmaturity) <|
    .cell (read_text? hoverride) <| .cell (read_label hfound hlabel) <|
    .cell (read_number? hline) <| .cell (read_decorators hgiven hflags) .nil

/-- Where a pipeline child is read from a document, the sheet takes its row from it. -/
theorem PipelineChild.takes_row {child : PipelineChild}
    (h : PipelineChild.ofDocument document = .ok child) :
    TakesRow document childColumns child.row := by
  unfold PipelineChild.ofDocument at h
  simp only [bind_eq_ok, pure_eq_ok] at h
  obtain ⟨name, hname, maturity, hmaturity, visibility, hvisibility, found, hfound, label, hlabel,
    line, hline, rfl⟩ := h
  exact .cell (read_text hname) <| .cell (read_number hmaturity) <|
    .cell (read_number hvisibility) <| .cell (read_label hfound hlabel) <|
    .cell (read_number? hline) .nil

/-- Where a pipeline is read from a document, the sheet takes its record from it, rows of the
children included. -/
theorem Pipeline.takes_record {pipeline : Pipeline}
    (h : Pipeline.ofDocument document = .ok pipeline) :
    Takes document Collection.pipelines.schema pipeline.record := by
  unfold Pipeline.ofDocument at h
  simp only [bind_eq_ok, pure_eq_ok] at h
  obtain ⟨name, hname, visibility, hvisibility, children, hchildren, maturity1, hmaturity1,
    maturity2, hmaturity2, hidden, hhidden, inertia, hinertia, line, hline, rfl⟩ := h
  exact .cell (read_text hname) <| .cell (read_number hvisibility) <|
    .rows PipelineChild.takes_row hchildren <| .cell (read_number? hmaturity1) <|
    .cell (read_number? hmaturity2) <| .cell (read_flag hhidden) <|
    .cell (read_flag hinertia) <| .cell (read_number? hline) .nil

/-- Where an occurrence is read from a document, the sheet takes its row from it. -/
theorem Occurrence.takes_row {occurrence : Occurrence}
    (h : Occurrence.ofDocument document = .ok occurrence) :
    TakesRow document occurrenceColumns occurrence.row := by
  unfold Occurrence.ofDocument at h
  simp only [bind_eq_ok, pure_eq_ok] at h
  obtain ⟨visibility, hvisibility, maturity, hmaturity, rfl⟩ := h
  exact .cell (read_number hvisibility) <| .cell (read_number hmaturity) .nil

/-- Where an annotation is read from a document, the sheet takes its record from it, rows of the
occurrences included. -/
theorem Annotation.takes_record {marked : Annotation}
    (h : Annotation.ofDocument document = .ok marked) :
    Takes document Collection.annotations.schema marked.record := by
  unfold Annotation.ofDocument at h
  simp only [bind_eq_ok, pure_eq_ok] at h
  obtain ⟨number, hnumber, text, htext, occurrences, hoccurrences, line, hline, rfl⟩ := h
  exact .cell (read_number hnumber) <| .cell (read_textOr htext) <|
    .rows Occurrence.takes_row hoccurrences <| .cell (read_number? hline) .nil

/-- Where a note is read from a document, the sheet takes its record from it. -/
theorem Note.takes_record {note : Note} (h : Note.ofDocument document = .ok note) :
    Takes document Collection.notes.schema note.record := by
  unfold Note.ofDocument at h
  simp only [bind_eq_ok, pure_eq_ok] at h
  obtain ⟨text, htext, visibility, hvisibility, maturity, hmaturity, line, hline, rfl⟩ := h
  exact .cell (read_text htext) <| .cell (read_number hvisibility) <|
    .cell (read_number hmaturity) <| .cell (read_number? hline) .nil

/-- Where a method is read from a document, the sheet takes its record from it. -/
theorem Method.takes_record {method : Method} (h : Method.ofDocument document = .ok method) :
    Takes document Collection.methods.schema method.record := by
  unfold Method.ofDocument at h
  simp only [bind_eq_ok, pure_eq_ok] at h
  obtain ⟨name, hname, given, hgiven, flags, hflags, line, hline, rfl⟩ := h
  have hcell : (Rule.decorators unsetDecorators).read document "decorators" =
      .ok (.group (flags.getD .unset).parts) := by
    rw [read_decorators hgiven hflags]
    cases flags <;> rfl
  exact .cell (read_text hname) <| .cell hcell <| .cell (read_number? hline) .nil

/-- Where an address is read from a document, the sheet takes its record from it. -/
theorem Url.takes_record {url : Url} (h : Url.ofDocument document = .ok url) :
    Takes document Collection.urls.schema url.record := by
  unfold Url.ofDocument at h
  simp only [bind_eq_ok, pure_eq_ok] at h
  obtain ⟨name, hname, address, haddress, line, hline, rfl⟩ := h
  exact .cell (read_text hname) <| .cell (read_text haddress) <| .cell (read_number? hline) .nil

/-- Where an attitude is read from a document, the sheet takes its record from it. -/
theorem Attitude.takes_record {attitude : Attitude}
    (h : Attitude.ofDocument document = .ok attitude) :
    Takes document Collection.attitudes.schema attitude.record := by
  unfold Attitude.ofDocument at h
  simp only [bind_eq_ok, pure_eq_ok] at h
  obtain ⟨word, hword, visibility, hvisibility, maturity, hmaturity, visibility2, hvisibility2,
    maturity2, hmaturity2, width, hwidth, height, hheight, line, hline, rfl⟩ := h
  exact .cell (read_text hword) <| .cell (read_number hvisibility) <|
    .cell (read_number hmaturity) <| .cell (read_number? hvisibility2) <|
    .cell (read_number? hmaturity2) <| .cell (read_number? hwidth) <|
    .cell (read_number? hheight) <| .cell (read_number? hline) .nil

/-- Where an accelerator is read from a document, the sheet takes its record from it. -/
theorem Accelerator.takes_record {accelerator : Accelerator}
    (h : Accelerator.ofDocument document = .ok accelerator) :
    Takes document Collection.accelerators.schema accelerator.record := by
  unfold Accelerator.ofDocument at h
  simp only [bind_eq_ok, pure_eq_ok] at h
  obtain ⟨name, hname, visibility, hvisibility, maturity, hmaturity, slows, hslows, line, hline,
    rfl⟩ := h
  exact .cell (read_text hname) <| .cell (read_number hvisibility) <|
    .cell (read_number hmaturity) <| .cell (read_flag hslows) <| .cell (read_number? hline) .nil

/-- Where an axis label is read from a document, the sheet takes its record from it. -/
theorem AxisLabel.takes_record {label : AxisLabel}
    (h : AxisLabel.ofDocument document = .ok label) :
    Takes document Collection.evolution.schema label.record := by
  unfold AxisLabel.ofDocument at h
  simp only [bind_eq_ok, pure_eq_ok] at h
  obtain ⟨line1, hline1, line2, hline2, rfl⟩ := h
  exact .cell (read_text hline1) <| .cell (read_textOr hline2) .nil

/-- Where a diagnostic is read from a document, the sheet takes its record from it. -/
theorem Diagnostic.takes_record {diagnostic : Diagnostic}
    (h : Diagnostic.ofDocument document = .ok diagnostic) :
    Takes document Collection.errors.schema diagnostic.record := by
  unfold Diagnostic.ofDocument at h
  simp only [bind_eq_ok, pure_eq_ok] at h
  obtain ⟨line, hline, message, hmessage, rfl⟩ := h
  exact .cell (read_number hline) <| .cell (read_text hmessage) .nil

end Records

/-! ## Presentations and axes -/

section Parts

variable {document : Document}

/-- A setting is taken as the number that it is. -/
theorem Sheet.readSetting_number {name : String} {value : Number}
    (h : document.fieldOr name readNumber 0 = .ok value) :
    readSetting document name = .ok (name, .number value) := by
  obtain ⟨found, hfound, hvalue⟩ := faithful_readNumber.found_eq h
  rw [readSetting, hfound, ok_bind, hvalue]
  rfl

/-- The presentation of a sheet is the document of the presentation that is read. -/
theorem Presentation.readPresentation_document {presentation : Presentation}
    (h : Presentation.ofDocument document = .ok presentation) :
    readPresentation document = .ok presentation.document := by
  unfold Presentation.ofDocument at h
  unfold readPresentation
  split at h
  · rcases pure_eq_ok.1 h with rfl
    rw [if_pos ‹_›]
    rfl
  · rw [if_neg ‹_›]
    simp only [bind_eq_ok, pure_eq_ok] at h
    obtain ⟨place, hplace, size, hsize, style, hstyle, visibility, hvisibility, maturity,
      hmaturity, width, hwidth, height, hheight, rfl⟩ := h
    obtain ⟨found, hfound, hvalue⟩ := faithful_readText.found_eq hstyle
    simp only [hplace, hsize, hfound, hvalue, ok_bind, List.mapM_cons, List.mapM_nil,
      readSetting_number hvisibility, readSetting_number hmaturity, readSetting_number hwidth,
      readSetting_number hheight, pure_eq]
    rfl

/-- The labels of an axis are taken as they are, the standard ones included. -/
theorem Sheet.readAxis_map {labels : List AxisLabel}
    (h : axisOfDocument document AxisLabel.standard = .ok labels) :
    readAxis document = .ok (labels.map AxisLabel.record) := by
  obtain ⟨found, hfound, hlabels⟩ := bind_eq_ok.1 h
  rw [readAxis, Collection.name, hfound, ok_bind]
  split at hlabels
  · rcases pure_eq_ok.1 hlabels with rfl
    rw [if_pos ‹_›]
    rfl
  · rw [if_neg ‹_›]
    obtain ⟨items, hitems, hmap⟩ := bind_eq_ok.1 hlabels
    exact bind_eq_ok.2 ⟨items, hitems, mapM_map_of_ok AxisLabel.takes_record hmap⟩

/-- An axis that is read without standard labels has some exactly if the document gives them. -/
theorem axisOfDocument_standard {labels : List AxisLabel}
    (h : axisOfDocument document [] = .ok labels) :
    axisOfDocument document AxisLabel.standard =
      .ok (if labels.isEmpty then AxisLabel.standard else labels) := by
  obtain ⟨found, hfound, hlabels⟩ := bind_eq_ok.1 h
  rw [axisOfDocument, hfound, ok_bind]
  split at hlabels
  · rcases pure_eq_ok.1 hlabels with rfl
    rw [if_pos ‹_›]
    rfl
  · rename_i hfull
    rw [if_neg hfull, hlabels]
    obtain ⟨items, hitems, hmap⟩ := bind_eq_ok.1 hlabels
    have hsome : items ≠ [] := items_ne_nil (by simpa using hfull) hitems
    cases mapM_eq_ok_iff.1 hmap with
    | nil => exact absurd rfl hsome
    | cons hlabel hrest => rfl

end Parts

/-! ## Sheets -/

section Sheets

variable {document : Document}

/-- The records of a collection are taken as those of the values that are read. -/
theorem Sheet.readRecords_map {α : Type} {read : Document → Except ReadError α}
    {record : α → Record} {collection : Collection} {name : String} {values : List α}
    (hread : ∀ {item value}, read item = .ok value → Takes item collection.schema (record value))
    (h : document.entriesOf name read = .ok values) :
    readRecords document collection name = .ok (collection, values.map record) := by
  rw [readRecords, entriesOf_map hread h]
  rfl

/-- A table with a value for each of its keys has that value under a key. -/
theorem Sheet.lookup_tabulated (records : Collection → List Record) (asked : Collection)
    (collections : List Collection) :
    (collections.map fun collection => (collection, records collection)).lookup asked =
      if asked ∈ collections then some (records asked) else none := by
  induction collections with
  | nil => rfl
  | cons first rest ih =>
    by_cases h : asked = first
    · subst h
      simp
    · have hne : (asked == first) = false := beq_false_of_ne h
      simp [List.lookup_cons, ih, h, hne]

/-- Two sheets are equal if their titles, their presentations and all their records are. -/
theorem Sheet.ext_records {a b : Sheet} (htitle : a.title = b.title)
    (hpresentation : a.presentation = b.presentation)
    (hrecords : ∀ collection, a.records collection = b.records collection) : a = b := by
  cases a
  cases b
  cases htitle
  cases hpresentation
  cases funext hrecords
  rfl

/-- A sheet is read from its parts: title, presentation, axis and the collections with names. -/
theorem Sheet.read_eq_sheet {map : Map} {names : List (Collection × String)}
    (htitle : titleOfDocument document = .ok map.title)
    {shown : Document} (hshown : document.fieldOrNull "presentation" = .ok shown)
    (hpresentation : readPresentation shown = .ok map.presentation.document)
    (haxis : readAxis document = .ok (map.evolution.map AxisLabel.record))
    (hfound : names.mapM (fun entry => readRecords document entry.1 entry.2) =
      .ok ((names.map Prod.fst).map fun collection => (collection, map.records collection)))
    (hothers : ∀ collection, collection ≠ .evolution → collection ∉ names.map Prod.fst →
      map.records collection = []) :
    Sheet.read names document = .ok map.sheet := by
  obtain ⟨title, htitle, hvalue⟩ := faithful_readText.found_eq htitle
  rw [Sheet.read]
  simp only [htitle, hshown, hpresentation, haxis, hfound, hvalue, ok_bind, pure_eq]
  refine congrArg Except.ok (ext_records rfl rfl fun collection => ?_)
  by_cases haxis : collection = .evolution
  · subst haxis
    exact records_put_self _ _ _
  · rw [records_put_of_ne _ _ haxis]
    dsimp only
    rw [lookup_tabulated]
    by_cases hnamed : collection ∈ names.map Prod.fst
    · rw [if_pos hnamed]
      rfl
    · rw [if_neg hnamed]
      exact (hothers collection haxis hnamed).symm

/-- A document that describes a map describes the sheet of that map. -/
theorem Map.ofDocument_sheet {map : Map} (h : Map.ofDocument document = .ok map) :
    Sheet.ofDocument document = .ok map.sheet := by
  unfold Map.ofDocument at h
  simp only [bind_eq_ok, pure_eq_ok] at h
  obtain ⟨title, htitle, shown, hshown, presentation, hpresentation, evolution, hevolution,
    components, hcomponents, anchors, hanchors, submaps, hsubmaps, markets, hmarkets,
    ecosystems, hecosystems, evolved, hevolved, pipelines, hpipelines, links, hlinks,
    annotations, hannotations, notes, hnotes, methods, hmethods, urls, hurls,
    attitudes, hattitudes, accelerators, haccelerators, errors, herrors, rfl⟩ := h
  refine read_eq_sheet htitle hshown (Presentation.readPresentation_document hpresentation)
    (readAxis_map hevolution) (mapM_eq_ok_iff.2 ?_) ?_
  · exact .cons (readRecords_map Element.takes_record hcomponents) <|
      .cons (readRecords_map Element.takes_record hanchors) <|
      .cons (readRecords_map Element.takes_record hsubmaps) <|
      .cons (readRecords_map Element.takes_record hmarkets) <|
      .cons (readRecords_map Element.takes_record hecosystems) <|
      .cons (readRecords_map Evolved.takes_record hevolved) <|
      .cons (readRecords_map Pipeline.takes_record hpipelines) <|
      .cons (readRecords_map Link.takes_record hlinks) <|
      .cons (readRecords_map Annotation.takes_record hannotations) <|
      .cons (readRecords_map Note.takes_record hnotes) <|
      .cons (readRecords_map Method.takes_record hmethods) <|
      .cons (readRecords_map Url.takes_record hurls) <|
      .cons (readRecords_map Attitude.takes_record hattitudes) <|
      .cons (readRecords_map Accelerator.takes_record haccelerators) <|
      .cons (readRecords_map Diagnostic.takes_record herrors) .nil
  · intro collection haxis hnamed
    cases collection <;> first | exact absurd rfl haxis | exact absurd (by decide) hnamed

/-- The document of a map with an evolution axis describes the sheet of the map. -/
theorem Map.sheet_ofDocument (map : Map) (haxis : map.evolution ≠ []) :
    Sheet.ofDocument map.document = .ok map.sheet :=
  map.ofDocument_sheet (map.ofDocument_document .unchanged haxis)

/-- A document that describes a draft describes the sheet of that draft. -/
theorem Draft.ofDocument_sheet {draft : Draft} (h : Draft.ofDocument document = .ok draft) :
    Sheet.ofDraftDocument document = .ok draft.sheet := by
  unfold Draft.ofDocument at h
  simp only [bind_eq_ok, pure_eq_ok] at h
  obtain ⟨title, htitle, shown, hshown, presentation, hpresentation, evolution, hevolution,
    elements, helements, anchors, hanchors, submaps, hsubmaps, evolved, hevolved,
    pipelines, hpipelines, links, hlinks, annotations, hannotations, notes, hnotes,
    methods, hmethods, urls, hurls, attitudes, hattitudes, accelerators, haccelerators,
    errors, herrors, rfl⟩ := h
  refine read_eq_sheet htitle hshown (Presentation.readPresentation_document hpresentation)
    (readAxis_map (axisOfDocument_standard hevolution)) (mapM_eq_ok_iff.2 ?_) ?_
  · exact .cons (readRecords_map Element.takes_record helements) <|
      .cons (readRecords_map Element.takes_record hanchors) <|
      .cons (readRecords_map Element.takes_record hsubmaps) <|
      .cons (readRecords_map Evolved.takes_record hevolved) <|
      .cons (readRecords_map Pipeline.takes_record hpipelines) <|
      .cons (readRecords_map Link.takes_record hlinks) <|
      .cons (readRecords_map Annotation.takes_record hannotations) <|
      .cons (readRecords_map Note.takes_record hnotes) <|
      .cons (readRecords_map Method.takes_record hmethods) <|
      .cons (readRecords_map Url.takes_record hurls) <|
      .cons (readRecords_map Attitude.takes_record hattitudes) <|
      .cons (readRecords_map Accelerator.takes_record haccelerators) <|
      .cons (readRecords_map Diagnostic.takes_record herrors) .nil
  · intro collection haxis hnamed
    cases collection <;>
      first | rfl | exact absurd rfl haxis | exact absurd (by decide) hnamed

end Sheets

end Wardley
