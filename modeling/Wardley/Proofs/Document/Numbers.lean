import Wardley.Proofs.Document.ReadingBack

/-!
# Maps read from documents

What a map takes over from a document are the numbers in it, besides the standard ones, so a
document without missing numbers gives a map without them.  The document of any map has
distinct textual keys and no timestamps, and a map that has been read has an axis.

Main results:

- `Map.keyed_document`, `Map.notTimestamp_document`: the shape of the document of a map.
- `Map.notNaN_ofDocument`: no number of a map is missing if none is in its document.
- `Map.evolution_ofDocument`: a map that has been read has an evolution axis.
-/

namespace Wardley

open Document

namespace Document

/-! ## Optional parts -/

/-- An optional part has distinct keys if the part has, should there be one. -/
@[simp]
theorem keyed_optional {α : Type} {write : α → Document} {value : Option α} :
    (Document.optional write value).Keyed ↔ ∀ found ∈ value, (write found).Keyed := by
  cases value <;> simp [Document.optional, null]

/-- An optional part has no timestamps if the part has none, should there be one. -/
@[simp]
theorem notTimestamp_optional {α : Type} {write : α → Document} {value : Option α} :
    (Document.optional write value).AllScalars Scalar.NotTimestamp ↔
      ∀ found ∈ value, (write found).AllScalars Scalar.NotTimestamp := by
  cases value <;> simp [Document.optional, null, Scalar.NotTimestamp]

/-- An optional part has no missing numbers if the part has none, should there be one. -/
theorem notNaN_optional {α : Type} {write : α → Document} {value : Option α} :
    (Document.optional write value).AllScalars Scalar.NotNaN ↔
      ∀ found ∈ value, (write found).AllScalars Scalar.NotNaN := by
  cases value <;> simp [Document.optional, null, Scalar.NotNaN]

/-- A text is not a missing number. -/
@[simp]
theorem notNaN_text (value : String) : (text value).AllScalars Scalar.NotNaN := by
  simp [text, Scalar.NotNaN]

/-- A boolean is not a missing number. -/
@[simp]
theorem notNaN_bool (value : Bool) : (bool value).AllScalars Scalar.NotNaN := by
  simp [bool, Scalar.NotNaN]

/-- An integer is not a missing number; only doubles can be. -/
@[simp]
theorem notNaN_number_int (value : Int) : (number (.int value)).AllScalars Scalar.NotNaN := by
  simp [number, Scalar.NotNaN]

/-- Neither a text nor the null in its place is a missing number. -/
@[simp]
theorem notNaN_optional_text (value : Option String) :
    (Document.optional text value).AllScalars Scalar.NotNaN :=
  notNaN_optional.2 fun found _ => notNaN_text found

/-- The names of fields are texts, so that only what they hold can be a missing number. -/
@[simp]
theorem notNaN_object {fields : List (String × Document)} :
    (object fields).AllScalars Scalar.NotNaN ↔
      ∀ field ∈ fields, field.2.AllScalars Scalar.NotNaN :=
  allScalars_object fun _ => by simp [Scalar.NotNaN]

/-- The names of fields are texts, so that only what they hold can be a timestamp. -/
@[simp]
theorem notTimestamp_object {fields : List (String × Document)} :
    (object fields).AllScalars Scalar.NotTimestamp ↔
      ∀ field ∈ fields, field.2.AllScalars Scalar.NotTimestamp :=
  allScalars_object fun _ => by simp [Scalar.NotTimestamp]

/-! ## Fields without missing numbers -/

section Fields

variable {document : Document}

/-- What is found under a key is held by one of the entries. -/
theorem mem_of_lookup {key : String} {entries : List (Scalar × Document)} {value : Document}
    (h : lookup key entries = some value) : ∃ entry ∈ entries, entry.2 = value := by
  induction entries with
  | nil => cases h
  | cons entry entries ih =>
    rcases entry with ⟨found, first⟩
    rw [lookup] at h
    split at h
    · exact ⟨_, List.mem_cons_self, Option.some.inj h⟩
    · rcases ih h with ⟨entry, hmem, heq⟩
      exact ⟨entry, List.mem_cons_of_mem _ hmem, heq⟩

/-- An optional field of a document without missing numbers has none. -/
theorem notNaN_field? (hd : document.AllScalars Scalar.NotNaN) {key : String}
    {found : Option Document} (h : document.field? key = .ok found) :
    ∀ value ∈ found, value.AllScalars Scalar.NotNaN := by
  intro value hvalue
  cases document with
  | scalar | list => cases h
  | mapping entries =>
    rw [allScalars_mapping] at hd
    have hlookup : lookup key entries = some value := by
      rw [← Except.ok.inj h] at hvalue
      exact hvalue
    rcases mem_of_lookup hlookup with ⟨entry, hmem, rfl⟩
    exact (hd entry hmem).2

/-- A required field of a document without missing numbers has none. -/
theorem notNaN_require (hd : document.AllScalars Scalar.NotNaN) {key : String} {value : Document}
    (h : document.require key = .ok value) : value.AllScalars Scalar.NotNaN := by
  cases document with
  | scalar | list => cases h
  | mapping entries =>
    have hfield : (mapping entries).field? key = .ok (lookup key entries) := rfl
    rw [require] at h
    split at h
    · rename_i found hlookup
      cases h
      exact notNaN_field? hd hfield value hlookup
    · cases h

/-- A field that is null when absent has no missing numbers, since null is no number. -/
theorem notNaN_fieldOrNull (hd : document.AllScalars Scalar.NotNaN) {key : String}
    {value : Document} (h : document.fieldOrNull key = .ok value) :
    value.AllScalars Scalar.NotNaN := by
  rcases bind_eq_ok.1 h with ⟨found, hfound, hvalue⟩
  rcases pure_eq_ok.1 hvalue with rfl
  cases found with
  | none => simp [null, Scalar.NotNaN]
  | some value => exact notNaN_field? hd hfound value rfl

/-- A part that may be absent has no missing numbers, since an empty object has no fields. -/
theorem notNaN_partOrEmpty (hd : document.AllScalars Scalar.NotNaN) {key : String}
    {value : Document} (h : document.partOrEmpty key = .ok value) :
    value.AllScalars Scalar.NotNaN := by
  rcases bind_eq_ok.1 h with ⟨found, hfound, hvalue⟩
  rcases pure_eq_ok.1 hvalue with rfl
  split
  · simp
  · exact notNaN_fieldOrNull hd hfound

/-- The number of a leaf is missing only if the leaf is a missing number. -/
theorem notNaN_readNumber (hd : document.AllScalars Scalar.NotNaN) {value : Number}
    (h : document.readNumber = .ok value) : (number value).AllScalars Scalar.NotNaN := by
  unfold readNumber at h
  split at h
  · cases h
    exact hd
  · cases h

/-- A required number of a document without missing numbers is not missing. -/
theorem notNaN_requireNumber (hd : document.AllScalars Scalar.NotNaN) {key : String}
    {value : Number} (h : document.requireNumber key = .ok value) :
    (number value).AllScalars Scalar.NotNaN := by
  rcases bind_eq_ok.1 h with ⟨found, hfound, hvalue⟩
  exact notNaN_readNumber (notNaN_require hd hfound) hvalue

/-- A value that is read from a field, or the standard one. -/
theorem fieldOr_eq_ok {α : Type} {key : String} {read : Document → Except ReadError α}
    {standard value : α} (h : document.fieldOr key read standard = .ok value) :
    value = standard ∨
      ∃ found, document.field? key = .ok (some found) ∧ read found = .ok value := by
  rcases bind_eq_ok.1 h with ⟨found, hfound, hvalue⟩
  cases found with
  | none => exact .inl (pure_eq_ok.1 hvalue).symm
  | some found => exact .inr ⟨found, hfound, hvalue⟩

/-- A number with a standard value is not missing if that value is not. -/
theorem notNaN_fieldOr (hd : document.AllScalars Scalar.NotNaN) {key : String}
    {standard value : Number} (hstandard : (number standard).AllScalars Scalar.NotNaN)
    (h : document.fieldOr key readNumber standard = .ok value) :
    (number value).AllScalars Scalar.NotNaN := by
  rcases fieldOr_eq_ok h with rfl | ⟨found, hfound, hvalue⟩
  · exact hstandard
  · exact notNaN_readNumber (notNaN_field? hd hfound found rfl) hvalue

/-- A number that may be absent is not missing if there is one. -/
theorem notNaN_number? (hd : document.AllScalars Scalar.NotNaN) {key : String}
    {value : Option Number} (h : document.number? key = .ok value) :
    (Document.optional number value).AllScalars Scalar.NotNaN := by
  rw [notNaN_optional]
  rcases fieldOr_eq_ok h with rfl | ⟨found, hfound, hvalue⟩
  · simp
  · unfold readOptional at hvalue
    split at hvalue
    · cases hvalue
      simp
    · rcases map_eq_ok.1 hvalue with ⟨inner, hinner, rfl⟩
      have := notNaN_readNumber (notNaN_field? hd hfound found rfl) hinner
      simpa using this

/-- Items, keys and characters of a document without missing numbers have none. -/
theorem notNaN_items (hd : document.AllScalars Scalar.NotNaN) {found : List Document}
    (h : document.items = .ok found) : ∀ item ∈ found, item.AllScalars Scalar.NotNaN := by
  unfold items at h
  split at h
  · cases h
    exact (allScalars_list _ _).1 hd
  · cases h
    rw [allScalars_mapping] at hd
    rw [List.forall_mem_map]
    exact fun entry hmem => (allScalars_scalar _ _).2 (hd entry hmem).1
  · cases h
    rw [List.forall_mem_map]
    exact fun c _ => notNaN_text _
  · cases h

/-- Only what counts as nothing has no items. -/
theorem items_ne_nil {found : List Document} (hfull : document.isEmpty = false)
    (h : document.items = .ok found) : found ≠ [] := by
  unfold items at h
  split at h
  · cases h
    simpa [isEmpty] using hfull
  · cases h
    simpa [isEmpty] using hfull
  · cases h
    simpa [isEmpty, Scalar.isEmpty] using hfull
  · cases h

/-- Values that are read from items without missing numbers have documents without any. -/
theorem notNaN_mapM {α : Type} {read : Document → Except ReadError α} {write : α → Document}
    (hread : ∀ {item}, item.AllScalars Scalar.NotNaN → ∀ {value}, read item = .ok value →
      (write value).AllScalars Scalar.NotNaN) {found : List Document}
    (hfound : ∀ item ∈ found, item.AllScalars Scalar.NotNaN) {values : List α}
    (h : found.mapM read = .ok values) :
    ∀ value ∈ values, (write value).AllScalars Scalar.NotNaN := by
  intro value hvalue
  rcases mem_of_mapM_eq_ok h hvalue with ⟨item, hitem, hread'⟩
  exact hread (hfound item hitem) hread'

/-- Records that take over numbers do so in a collection. -/
theorem notNaN_entriesOf (hd : document.AllScalars Scalar.NotNaN) {α : Type} {key : String}
    {read : Document → Except ReadError α} {write : α → Document}
    (hread : ∀ {item}, item.AllScalars Scalar.NotNaN → ∀ {value}, read item = .ok value →
      (write value).AllScalars Scalar.NotNaN) {values : List α}
    (h : document.entriesOf key read = .ok values) :
    ∀ value ∈ values, (write value).AllScalars Scalar.NotNaN := by
  rcases bind_eq_ok.1 h with ⟨found, hfound, hvalues⟩
  cases found with
  | none =>
    rcases pure_eq_ok.1 hvalues with rfl
    simp
  | some found =>
    rcases bind_eq_ok.1 hvalues with ⟨items, hitems, hmap⟩
    exact notNaN_mapM hread (notNaN_items (notNaN_field? hd hfound found rfl) hitems) hmap

end Fields

end Document

/-! ## Records without missing numbers -/

/-- Decorators are flags, and flags are not missing numbers. -/
@[simp]
theorem Decorators.notNaN_document (flags : Decorators) :
    flags.document.AllScalars Scalar.NotNaN := by
  simp [Decorators.document]

/-- Decorators that may be absent have no missing numbers. -/
@[simp]
theorem Decorators.notNaN_optional (flags : Option Decorators) :
    (Document.optional Decorators.document flags).AllScalars Scalar.NotNaN :=
  Document.notNaN_optional.2 fun found _ => found.notNaN_document

section Records

variable {document : Document} (hd : document.AllScalars Scalar.NotNaN)

include hd

/-- The offsets of a label are the ones read, or the standard ones. -/
theorem Label.notNaN_ofDocument {label : Label} (h : Label.ofDocument document = .ok label) :
    label.document.AllScalars Scalar.NotNaN := by
  unfold Label.ofDocument at h
  split at h
  · rcases pure_eq_ok.1 h with rfl
    have hx : (number 5).AllScalars Scalar.NotNaN := notNaN_number_int 5
    simpa [Label.document, Label.standard] using hx
  · simp only [bind_eq_ok, pure_eq_ok] at h
    rcases h with ⟨x, hx, y, hy, rfl⟩
    simp [Label.document, notNaN_requireNumber hd hx, notNaN_requireNumber hd hy]

/-- An element has numbers for its place, its label, its line and its target. -/
theorem Element.notNaN_ofDocument {element : Element}
    (h : Element.ofDocument document = .ok element) :
    element.document.AllScalars Scalar.NotNaN := by
  unfold Element.ofDocument at h
  simp only [bind_eq_ok, pure_eq_ok] at h
  obtain ⟨name, -, kind?, -, kind, -, maturity, hmaturity, visibility, hvisibility,
    labelField, hlabelField, label, hlabel, line, hline, flagsField, -, flags, -, inertia, -,
    pseudo, -, url, -, evolving, -, evolveMaturity, hevolve, pipeline, -, rfl⟩ := h
  have hlabelDocument := Label.notNaN_ofDocument (notNaN_fieldOrNull hd hlabelField) hlabel
  simp [Element.document, hlabelDocument, notNaN_requireNumber hd hmaturity,
    notNaN_requireNumber hd hvisibility, notNaN_number? hd hline, notNaN_number? hd hevolve]

/-- The only number of a link is its line. -/
theorem Link.notNaN_ofDocument {link : Link} (h : Link.ofDocument document = .ok link) :
    link.document.AllScalars Scalar.NotNaN := by
  unfold Link.ofDocument at h
  simp only [bind_eq_ok, pure_eq_ok] at h
  obtain ⟨start, -, finish, -, flow, -, future, -, past, -, context, -, flowValue, -, line, hline,
    rfl⟩ := h
  simp [Link.document, notNaN_number? hd hline]

/-- An evolution has numbers for its maturity, its label and its line. -/
theorem Evolved.notNaN_ofDocument {evolved : Evolved}
    (h : Evolved.ofDocument document = .ok evolved) :
    evolved.document.AllScalars Scalar.NotNaN := by
  unfold Evolved.ofDocument at h
  simp only [bind_eq_ok, pure_eq_ok] at h
  obtain ⟨name, -, maturity, hmaturity, override, -, labelField, hlabelField, label, hlabel,
    line, hline, flagsField, -, flags, -, rfl⟩ := h
  have hlabelDocument := Label.notNaN_ofDocument (notNaN_fieldOrNull hd hlabelField) hlabel
  simp [Evolved.document, hlabelDocument, notNaN_requireNumber hd hmaturity,
    notNaN_number? hd hline]

/-- A child has numbers for its place, its label and its line. -/
theorem PipelineChild.notNaN_ofDocument {child : PipelineChild}
    (h : PipelineChild.ofDocument document = .ok child) :
    child.document.AllScalars Scalar.NotNaN := by
  unfold PipelineChild.ofDocument at h
  simp only [bind_eq_ok, pure_eq_ok] at h
  obtain ⟨name, -, maturity, hmaturity, visibility, hvisibility, labelField, hlabelField,
    label, hlabel, line, hline, rfl⟩ := h
  have hlabelDocument := Label.notNaN_ofDocument (notNaN_fieldOrNull hd hlabelField) hlabel
  simp [PipelineChild.document, hlabelDocument, notNaN_requireNumber hd hmaturity,
    notNaN_requireNumber hd hvisibility, notNaN_number? hd hline]

/-- A pipeline has numbers for its visibility, its range and its line, and in its children. -/
theorem Pipeline.notNaN_ofDocument {pipeline : Pipeline}
    (h : Pipeline.ofDocument document = .ok pipeline) :
    pipeline.document.AllScalars Scalar.NotNaN := by
  unfold Pipeline.ofDocument at h
  simp only [bind_eq_ok, pure_eq_ok] at h
  obtain ⟨name, -, visibility, hvisibility, children, hchildren, maturity1, hmaturity1,
    maturity2, hmaturity2, hidden, -, inertia, -, line, hline, rfl⟩ := h
  have hall := notNaN_entriesOf hd PipelineChild.notNaN_ofDocument hchildren
  simpa [Pipeline.document, notNaN_requireNumber hd hvisibility,
    notNaN_number? hd hmaturity1, notNaN_number? hd hmaturity2, notNaN_number? hd hline] using hall

/-- A marked place consists of two required numbers. -/
theorem Occurrence.notNaN_ofDocument {occurrence : Occurrence}
    (h : Occurrence.ofDocument document = .ok occurrence) :
    occurrence.document.AllScalars Scalar.NotNaN := by
  unfold Occurrence.ofDocument at h
  simp only [bind_eq_ok, pure_eq_ok] at h
  rcases h with ⟨visibility, hvisibility, maturity, hmaturity, rfl⟩
  simp [Occurrence.document, notNaN_requireNumber hd hvisibility,
    notNaN_requireNumber hd hmaturity]

/-- An annotation has numbers for its number and its line, and in the places it marks. -/
theorem Annotation.notNaN_ofDocument {marked : Annotation}
    (h : Annotation.ofDocument document = .ok marked) :
    marked.document.AllScalars Scalar.NotNaN := by
  unfold Annotation.ofDocument at h
  simp only [bind_eq_ok, pure_eq_ok] at h
  rcases h with ⟨number, hnumber, text, -, occurrences, hoccurrences, line, hline, rfl⟩
  have hall := notNaN_entriesOf hd Occurrence.notNaN_ofDocument hoccurrences
  simpa [notNaN_requireNumber hd hnumber, Annotation.document,
    notNaN_number? hd hline] using hall

/-- A note has numbers for its place and its line. -/
theorem Note.notNaN_ofDocument {note : Note} (h : Note.ofDocument document = .ok note) :
    note.document.AllScalars Scalar.NotNaN := by
  unfold Note.ofDocument at h
  simp only [bind_eq_ok, pure_eq_ok] at h
  rcases h with ⟨text, -, visibility, hvisibility, maturity, hmaturity, line, hline, rfl⟩
  simp [Note.document, notNaN_requireNumber hd hvisibility,
    notNaN_requireNumber hd hmaturity, notNaN_number? hd hline]

/-- The only number of a method is its line. -/
theorem Method.notNaN_ofDocument {method : Method} (h : Method.ofDocument document = .ok method) :
    method.document.AllScalars Scalar.NotNaN := by
  unfold Method.ofDocument at h
  simp only [bind_eq_ok, pure_eq_ok] at h
  rcases h with ⟨name, -, flagsField, -, flags, -, line, hline, rfl⟩
  simp [Method.document, notNaN_number? hd hline]

/-- The only number of an address is its line. -/
theorem Url.notNaN_ofDocument {url : Url} (h : Url.ofDocument document = .ok url) :
    url.document.AllScalars Scalar.NotNaN := by
  unfold Url.ofDocument at h
  simp only [bind_eq_ok, pure_eq_ok] at h
  rcases h with ⟨name, -, address, -, line, hline, rfl⟩
  simp [Url.document, notNaN_number? hd hline]

/-- An attitude has numbers for its corners, its size and its line. -/
theorem Attitude.notNaN_ofDocument {attitude : Attitude}
    (h : Attitude.ofDocument document = .ok attitude) :
    attitude.document.AllScalars Scalar.NotNaN := by
  unfold Attitude.ofDocument at h
  simp only [bind_eq_ok, pure_eq_ok] at h
  obtain ⟨name, -, visibility, hvisibility, maturity, hmaturity, visibility2, hvisibility2,
    maturity2, hmaturity2, width, hwidth, height, hheight, line, hline, rfl⟩ := h
  simp [Attitude.document, notNaN_requireNumber hd hvisibility,
    notNaN_requireNumber hd hmaturity, notNaN_number? hd hvisibility2,
    notNaN_number? hd hmaturity2, notNaN_number? hd hwidth, notNaN_number? hd hheight,
    notNaN_number? hd hline]

/-- An accelerator has numbers for its place and its line. -/
theorem Accelerator.notNaN_ofDocument {accelerator : Accelerator}
    (h : Accelerator.ofDocument document = .ok accelerator) :
    accelerator.document.AllScalars Scalar.NotNaN := by
  unfold Accelerator.ofDocument at h
  simp only [bind_eq_ok, pure_eq_ok] at h
  obtain ⟨name, -, visibility, hvisibility, maturity, hmaturity, deaccelerator, -, line, hline,
    rfl⟩ := h
  simp [Accelerator.document, notNaN_requireNumber hd hvisibility,
    notNaN_requireNumber hd hmaturity, notNaN_number? hd hline]

/-- The only number of a diagnostic is its line. -/
theorem Diagnostic.notNaN_ofDocument {diagnostic : Diagnostic}
    (h : Diagnostic.ofDocument document = .ok diagnostic) :
    diagnostic.document.AllScalars Scalar.NotNaN := by
  unfold Diagnostic.ofDocument at h
  simp only [bind_eq_ok, pure_eq_ok] at h
  rcases h with ⟨line, hline, message, -, rfl⟩
  simp [Diagnostic.document, notNaN_requireNumber hd hline]

/-- A presentation has numbers for a place and a size; those that are absent are zero. -/
theorem Presentation.notNaN_ofDocument {presentation : Presentation}
    (h : Presentation.ofDocument document = .ok presentation) :
    presentation.document.AllScalars Scalar.NotNaN := by
  have hzero : (number 0).AllScalars Scalar.NotNaN := notNaN_number_int 0
  unfold Presentation.ofDocument at h
  split at h
  · rcases pure_eq_ok.1 h with rfl
    simpa [Presentation.document] using hzero
  · simp only [bind_eq_ok, pure_eq_ok] at h
    obtain ⟨place, hplace, size, hsize, style, -, visibility, hvisibility, maturity, hmaturity,
      width, hwidth, height, hheight, rfl⟩ := h
    have hplaceField := notNaN_partOrEmpty hd hplace
    have hsizeField := notNaN_partOrEmpty hd hsize
    simp [Presentation.document, notNaN_fieldOr hplaceField hzero hvisibility,
      notNaN_fieldOr hplaceField hzero hmaturity, notNaN_fieldOr hsizeField hzero hwidth,
      notNaN_fieldOr hsizeField hzero hheight]

end Records

/-- An axis label consists of texts. -/
@[simp]
theorem AxisLabel.notNaN_document (label : AxisLabel) :
    label.document.AllScalars Scalar.NotNaN := by
  simp [AxisLabel.document]

/-! ## Maps -/

/-- The document of a map has the names of fields as keys, each once. -/
theorem Map.keyed_document (map : Map) : map.document.Keyed := by
  simp [Map.document, keyed_object, Document.text, Document.number, Document.bool,
    Label.document, Decorators.document, Element.document, Evolved.document, Link.document,
    Pipeline.document, PipelineChild.document, Presentation.document, AxisLabel.document,
    Annotation.document, Occurrence.document, Note.document, Method.document, Url.document,
    Attitude.document, Accelerator.document, Diagnostic.document]

/-- No field of a map is written as a timestamp. -/
theorem Map.notTimestamp_document (map : Map) :
    map.document.AllScalars Scalar.NotTimestamp := by
  simp [Map.document, Document.text, Document.number, Document.bool,
    Label.document, Decorators.document, Element.document, Evolved.document, Link.document,
    Pipeline.document, PipelineChild.document, Presentation.document, AxisLabel.document,
    Annotation.document, Occurrence.document, Note.document, Method.document, Url.document,
    Attitude.document, Accelerator.document, Diagnostic.document, Scalar.NotTimestamp]

/-- An axis that is read has labels if the standard one has: an empty list counts as no axis. -/
theorem axisOfDocument_ne_nil {document : Document} {standard stages : List AxisLabel}
    (hstandard : standard ≠ []) (h : axisOfDocument document standard = .ok stages) :
    stages ≠ [] := by
  rcases bind_eq_ok.1 h with ⟨found, -, hread⟩
  split at hread
  · rcases pure_eq_ok.1 hread with rfl
    exact hstandard
  · rename_i hfull
    rcases bind_eq_ok.1 hread with ⟨items, hitems, hmap⟩
    have hne : items ≠ [] := items_ne_nil (by simpa using hfull) hitems
    rintro rfl
    cases mapM_eq_ok_iff.1 hmap
    exact hne rfl

/-- A map that has been read has an evolution axis. -/
theorem Map.evolution_ofDocument {document : Document} {map : Map}
    (h : Map.ofDocument document = .ok map) : map.evolution ≠ [] := by
  unfold Map.ofDocument at h
  simp only [bind_eq_ok, pure_eq_ok] at h
  rcases h with ⟨title, -, field, -, presentation, -, evolution, hevolution, h⟩
  obtain ⟨_, -, _, -, _, -, _, -, _, -, _, -, _, -, _, -, _, -, _, -, _, -, _, -, _, -, _, -,
    _, -, rfl⟩ := h
  exact axisOfDocument_ne_nil (by decide) hevolution

/-- No number of a map is missing if none is in the document that it was read from. -/
theorem Map.notNaN_ofDocument {document : Document} (hd : document.AllScalars Scalar.NotNaN)
    {map : Map} (h : Map.ofDocument document = .ok map) :
    map.document.AllScalars Scalar.NotNaN := by
  unfold Map.ofDocument at h
  simp only [bind_eq_ok, pure_eq_ok] at h
  obtain ⟨title, -, field, hfield, presentation, hpresentation, evolution, -,
    components, hcomponents, anchors, hanchors, submaps, hsubmaps, markets, hmarkets,
    ecosystems, hecosystems, evolved, hevolved, pipelines, hpipelines, links, hlinks,
    annotations, hannotations, notes, hnotes, methods, hmethods, urls, hurls,
    attitudes, hattitudes, accelerators, haccelerators, errors, herrors, rfl⟩ := h
  have hsettings := Presentation.notNaN_ofDocument (notNaN_fieldOrNull hd hfield) hpresentation
  simp only [Map.document, notNaN_object, List.forall_mem_cons, notNaN_text, hsettings,
    allScalars_list, List.forall_mem_map, AxisLabel.notNaN_document, implies_true, true_and,
    List.not_mem_nil, IsEmpty.forall_iff, and_true]
  exact ⟨notNaN_entriesOf hd Element.notNaN_ofDocument hcomponents,
    notNaN_entriesOf hd Element.notNaN_ofDocument hanchors,
    notNaN_entriesOf hd Element.notNaN_ofDocument hsubmaps,
    notNaN_entriesOf hd Element.notNaN_ofDocument hmarkets,
    notNaN_entriesOf hd Element.notNaN_ofDocument hecosystems,
    notNaN_entriesOf hd Evolved.notNaN_ofDocument hevolved,
    notNaN_entriesOf hd Pipeline.notNaN_ofDocument hpipelines,
    notNaN_entriesOf hd Link.notNaN_ofDocument hlinks,
    notNaN_entriesOf hd Annotation.notNaN_ofDocument hannotations,
    notNaN_entriesOf hd Note.notNaN_ofDocument hnotes,
    notNaN_entriesOf hd Method.notNaN_ofDocument hmethods,
    notNaN_entriesOf hd Url.notNaN_ofDocument hurls,
    notNaN_entriesOf hd Attitude.notNaN_ofDocument hattitudes,
    notNaN_entriesOf hd Accelerator.notNaN_ofDocument haccelerators,
    notNaN_entriesOf hd Diagnostic.notNaN_ofDocument herrors⟩

end Wardley
