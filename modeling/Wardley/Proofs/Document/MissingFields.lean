import Wardley.Proofs.Document.Requirements
import Wardley.Sheet.Exchange

/-!
# Missing fields of map documents

The tables of this module say for each record of a map which fields its document must have and
which standard values the others have.  Each reader of records takes the fields of its table
in their order, so that a map document is read unless a required field is missing: the first
missing one is the error.

Main definitions:

- `Element.fields`, and such a table for each record and for maps.
- `Map.ReadsCompleted`: what a map document is read as.

Main results:

- `Element.metBy`, and such a lemma for each record.
- `Map.ofDocument_readsCompleted`: every map document with the right types is read as its
  completed document, or fails at the first missing field.
-/

namespace Wardley

open Document Requirement

/-! ## Parts of records -/

/-- The fields of a label. -/
def Label.fields : List (String × Requirement) := [required .number "x", required .number "y"]

/-- The fields of decorators. -/
def Decorators.fields : List (String × Requirement) :=
  [flag "ecosystem", flag "market", flag "buy", flag "build", flag "outsource"]

/-- A label, which is the standard one when null or absent. -/
def labelPart : String × Requirement :=
  part isNull (object Label.fields) Label.standard.document "label"

/-- Decorators with those that a record has when they are null or absent. -/
def decoratorsPart (standard : Document) : String × Requirement :=
  part isNull (object Decorators.fields) standard "decorators"

/-- Labels are read as their fields require. -/
theorem Label.metBy : (object Label.fields).MetBy Label.ofDocument Label.document := by
  refine metBy_object fun document hobject => ?_
  rw [Label.ofDocument, if_neg (not_isNull_of_isObject hobject)]
  refine .field (meets_required hobject readBy_number) fun x hx => ?_
  refine .field (meets_required hobject readBy_number) fun y hy => follows_nil ?_
  rw [Label.document, hx, hy]
  rfl

/-- Decorators are read as some, so that only their documents matter to a writer. -/
theorem Decorators.metBy {write : Option Decorators → Document}
    (hsome : ∀ flags, write (some flags) = flags.document) :
    (object Decorators.fields).MetBy Decorators.ofDocument write := by
  refine metBy_object fun document hobject => ?_
  rw [Decorators.ofDocument, if_neg (not_isNull_of_isObject hobject)]
  refine .field (meets_optional hobject readBy_flag) fun ecosystem hecosystem => ?_
  refine .field (meets_optional hobject readBy_flag) fun market hmarket => ?_
  refine .field (meets_optional hobject readBy_flag) fun buy hbuy => ?_
  refine .field (meets_optional hobject readBy_flag) fun build hbuild => ?_
  refine .field (meets_optional hobject readBy_flag) fun outsource houtsource => follows_nil ?_
  rw [hsome, Decorators.document, hecosystem, hmarket, hbuy, hbuild, houtsource]
  rfl

section Parts

variable {document : Document} (hobject : document.isObject = true)
include hobject

/-- The label of a document is read as its part requires. -/
theorem meets_label (hadmits : labelPart.2.admits document = true) :
    Meets (document.fieldOrNull "label" >>= Label.ofDocument) (labelPart.2.missing document)
      fun label => label.document = labelPart.2.completed document :=
  meets_part hobject Label.metBy ⟨_, rfl, rfl⟩ hadmits

/-- The decorators of a document are read as their part requires. -/
theorem meets_decorators (write : Option Decorators → Document) {standard : Document}
    (hsome : ∀ flags, write (some flags) = flags.document) (hnone : write none = standard)
    (hadmits : (decoratorsPart standard).2.admits document = true) :
    Meets (document.fieldOrNull "decorators" >>= Decorators.ofDocument)
      ((decoratorsPart standard).2.missing document) fun decorators =>
        write decorators = (decoratorsPart standard).2.completed document :=
  meets_part hobject (Decorators.metBy hsome) ⟨none, rfl, hnone⟩ hadmits

/-- Decorators that a record may be without. -/
theorem meets_optionalDecorators (hadmits : (decoratorsPart .null).2.admits document = true) :
    Meets (document.fieldOrNull "decorators" >>= Decorators.ofDocument)
      ((decoratorsPart .null).2.missing document) fun decorators =>
        Document.optional Decorators.document decorators =
          (decoratorsPart .null).2.completed document :=
  meets_decorators hobject _ (fun _ => rfl) rfl hadmits

/-- Decorators of which none is set when they are left out. -/
theorem meets_unsetDecorators
    (hadmits : (decoratorsPart Decorators.unset.document).2.admits document = true) :
    Meets (document.fieldOrNull "decorators" >>= Decorators.ofDocument)
      ((decoratorsPart Decorators.unset.document).2.missing document) fun decorators =>
        (decorators.getD .unset).document =
          (decoratorsPart Decorators.unset.document).2.completed document :=
  meets_decorators hobject (fun found => (found.getD .unset).document) (fun _ => rfl) rfl hadmits

end Parts

/-! ## Records -/

/-- The fields of an element. -/
def Element.fields : List (String × Requirement) :=
  [required .text "name", Requirement.kind, required .number "maturity",
   required .number "visibility", labelPart, nullable .number "line", decoratorsPart .null,
   flag "inertia", flag "pseudo", nullable .text "url", flag "evolving",
   nullable .number "evolve_maturity", flag "pipeline"]

/-- Elements are read as their fields require. -/
theorem Element.metBy : (object Element.fields).MetBy Element.ofDocument Element.document := by
  refine metBy_object fun document hobject => ?_
  refine .field (meets_required hobject readBy_text) fun name hname => ?_
  refine .partOf (meets_kind hobject) fun kind hkind => ?_
  refine .field (meets_required hobject readBy_number) fun maturity hmaturity => ?_
  refine .field (meets_required hobject readBy_number) fun visibility hvisibility => ?_
  refine .partOf (meets_label hobject) fun label hlabel => ?_
  refine .field (meets_nullable hobject readBy_number) fun line hline => ?_
  refine .partOf (meets_optionalDecorators hobject) fun decorators hdecorators => ?_
  refine .field (meets_optional hobject readBy_flag) fun inertia hinertia => ?_
  refine .field (meets_optional hobject readBy_flag) fun pseudo hpseudo => ?_
  refine .field (meets_nullable hobject readBy_text) fun url hurl => ?_
  refine .field (meets_optional hobject readBy_flag) fun evolving hevolving => ?_
  refine .field (meets_nullable hobject readBy_number) fun evolveMaturity hevolveMaturity => ?_
  refine .field (meets_optional hobject readBy_flag) fun pipeline hpipeline => follows_nil ?_
  rw [Element.document, hname, hkind, hmaturity, hvisibility, hlabel, hline, hdecorators,
    hinertia, hpseudo, hurl, hevolving, hevolveMaturity, hpipeline]
  rfl

/-- The fields of a link. -/
def Link.fields : List (String × Requirement) :=
  [required .text "start", required .text "end", flag "flow", flag "future", flag "past",
   nullable .text "context", nullable .text "flow_value", nullable .number "line"]

/-- Links are read as their fields require. -/
theorem Link.metBy : (object Link.fields).MetBy Link.ofDocument Link.document := by
  refine metBy_object fun document hobject => ?_
  refine .field (meets_required hobject readBy_text) fun start hstart => ?_
  refine .field (meets_required hobject readBy_text) fun finish hfinish => ?_
  refine .field (meets_optional hobject readBy_flag) fun flow hflow => ?_
  refine .field (meets_optional hobject readBy_flag) fun future hfuture => ?_
  refine .field (meets_optional hobject readBy_flag) fun past hpast => ?_
  refine .field (meets_nullable hobject readBy_text) fun context hcontext => ?_
  refine .field (meets_nullable hobject readBy_text) fun flowValue hflowValue => ?_
  refine .field (meets_nullable hobject readBy_number) fun line hline => follows_nil ?_
  rw [Link.document, hstart, hfinish, hflow, hfuture, hpast, hcontext, hflowValue, hline]
  rfl

/-- The fields of an evolution. -/
def Evolved.fields : List (String × Requirement) :=
  [required .text "name", required .number "maturity", nullable .text "override", labelPart,
   nullable .number "line", decoratorsPart .null]

/-- Evolutions are read as their fields require. -/
theorem Evolved.metBy : (object Evolved.fields).MetBy Evolved.ofDocument Evolved.document := by
  refine metBy_object fun document hobject => ?_
  refine .field (meets_required hobject readBy_text) fun name hname => ?_
  refine .field (meets_required hobject readBy_number) fun maturity hmaturity => ?_
  refine .field (meets_nullable hobject readBy_text) fun override hoverride => ?_
  refine .partOf (meets_label hobject) fun label hlabel => ?_
  refine .field (meets_nullable hobject readBy_number) fun line hline => ?_
  refine .partOf (meets_optionalDecorators hobject) fun decorators hdecorators => follows_nil ?_
  rw [Evolved.document, hname, hmaturity, hoverride, hlabel, hline, hdecorators]
  rfl

/-- The fields of a child of a pipeline. -/
def PipelineChild.fields : List (String × Requirement) :=
  [required .text "name", required .number "maturity", required .number "visibility", labelPart,
   nullable .number "line"]

/-- Pipeline children are read as their fields require. -/
theorem PipelineChild.metBy :
    (object PipelineChild.fields).MetBy PipelineChild.ofDocument PipelineChild.document := by
  refine metBy_object fun document hobject => ?_
  refine .field (meets_required hobject readBy_text) fun name hname => ?_
  refine .field (meets_required hobject readBy_number) fun maturity hmaturity => ?_
  refine .field (meets_required hobject readBy_number) fun visibility hvisibility => ?_
  refine .partOf (meets_label hobject) fun label hlabel => ?_
  refine .field (meets_nullable hobject readBy_number) fun line hline => follows_nil ?_
  rw [PipelineChild.document, hname, hmaturity, hvisibility, hlabel, hline]
  rfl

/-- The fields of a pipeline. -/
def Pipeline.fields : List (String × Requirement) :=
  [required .text "name", required .number "visibility",
   entries (object PipelineChild.fields) "components", nullable .number "maturity1",
   nullable .number "maturity2", flag "hidden", flag "inertia", nullable .number "line"]

/-- Pipelines are read as their fields require, children included. -/
theorem Pipeline.metBy : (object Pipeline.fields).MetBy Pipeline.ofDocument Pipeline.document := by
  refine metBy_object fun document hobject => ?_
  refine .field (meets_required hobject readBy_text) fun name hname => ?_
  refine .field (meets_required hobject readBy_number) fun visibility hvisibility => ?_
  refine .field (meets_entries hobject PipelineChild.metBy) fun children hchildren => ?_
  refine .field (meets_nullable hobject readBy_number) fun maturity1 hmaturity1 => ?_
  refine .field (meets_nullable hobject readBy_number) fun maturity2 hmaturity2 => ?_
  refine .field (meets_optional hobject readBy_flag) fun hidden hhidden => ?_
  refine .field (meets_optional hobject readBy_flag) fun inertia hinertia => ?_
  refine .field (meets_nullable hobject readBy_number) fun line hline => follows_nil ?_
  rw [Pipeline.document, hname, hvisibility, hchildren, hmaturity1, hmaturity2, hhidden,
    hinertia, hline]
  rfl

/-- The fields of a marked place. -/
def Occurrence.fields : List (String × Requirement) :=
  [required .number "visibility", required .number "maturity"]

/-- Occurrences are read as their fields require. -/
theorem Occurrence.metBy :
    (object Occurrence.fields).MetBy Occurrence.ofDocument Occurrence.document := by
  refine metBy_object fun document hobject => ?_
  refine .field (meets_required hobject readBy_number) fun visibility hvisibility => ?_
  refine .field (meets_required hobject readBy_number) fun maturity hmaturity => follows_nil ?_
  rw [Occurrence.document, hvisibility, hmaturity]
  rfl

/-- The fields of an annotation. -/
def Annotation.fields : List (String × Requirement) :=
  [required .number "number", optional .text (.text "") "text",
   entries (object Occurrence.fields) "occurrences", nullable .number "line"]

/-- Annotations are read as their fields require. -/
theorem Annotation.metBy :
    (object Annotation.fields).MetBy Annotation.ofDocument Annotation.document := by
  refine metBy_object fun document hobject => ?_
  refine .field (meets_required hobject readBy_number) fun number hnumber => ?_
  refine .field (meets_optional hobject readBy_text) fun text htext => ?_
  refine .field (meets_entries hobject Occurrence.metBy) fun occurrences hoccurrences => ?_
  refine .field (meets_nullable hobject readBy_number) fun line hline => follows_nil ?_
  unfold Annotation.document
  rw [hnumber, htext, hoccurrences, hline]
  rfl

/-- The fields of a note. -/
def Note.fields : List (String × Requirement) :=
  [required .text "text", required .number "visibility", required .number "maturity",
   nullable .number "line"]

/-- Notes are read as their fields require. -/
theorem Note.metBy : (object Note.fields).MetBy Note.ofDocument Note.document := by
  refine metBy_object fun document hobject => ?_
  refine .field (meets_required hobject readBy_text) fun text htext => ?_
  refine .field (meets_required hobject readBy_number) fun visibility hvisibility => ?_
  refine .field (meets_required hobject readBy_number) fun maturity hmaturity => ?_
  refine .field (meets_nullable hobject readBy_number) fun line hline => follows_nil ?_
  rw [Note.document, htext, hvisibility, hmaturity, hline]
  rfl

/-- The fields of a method. -/
def Method.fields : List (String × Requirement) :=
  [required .text "name", decoratorsPart Decorators.unset.document, nullable .number "line"]

/-- Methods are read as their fields require. -/
theorem Method.metBy : (object Method.fields).MetBy Method.ofDocument Method.document := by
  refine metBy_object fun document hobject => ?_
  refine .field (meets_required hobject readBy_text) fun name hname => ?_
  refine .partOf (meets_unsetDecorators hobject) fun decorators hdecorators => ?_
  refine .field (meets_nullable hobject readBy_number) fun line hline => follows_nil ?_
  rw [Method.document, hname, hdecorators, hline]
  rfl

/-- The fields of an address. -/
def Url.fields : List (String × Requirement) :=
  [required .text "name", required .text "url", nullable .number "line"]

/-- Addresses are read as their fields require. -/
theorem Url.metBy : (object Url.fields).MetBy Url.ofDocument Url.document := by
  refine metBy_object fun document hobject => ?_
  refine .field (meets_required hobject readBy_text) fun name hname => ?_
  refine .field (meets_required hobject readBy_text) fun url hurl => ?_
  refine .field (meets_nullable hobject readBy_number) fun line hline => follows_nil ?_
  rw [Url.document, hname, hurl, hline]
  rfl

/-- The fields of an attitude. -/
def Attitude.fields : List (String × Requirement) :=
  [required .text "attitude", required .number "visibility", required .number "maturity",
   nullable .number "visibility2", nullable .number "maturity2", nullable .number "width",
   nullable .number "height", nullable .number "line"]

/-- Attitudes are read as their fields require. -/
theorem Attitude.metBy : (object Attitude.fields).MetBy Attitude.ofDocument Attitude.document := by
  refine metBy_object fun document hobject => ?_
  refine .field (meets_required hobject readBy_text) fun attitude hattitude => ?_
  refine .field (meets_required hobject readBy_number) fun visibility hvisibility => ?_
  refine .field (meets_required hobject readBy_number) fun maturity hmaturity => ?_
  refine .field (meets_nullable hobject readBy_number) fun visibility2 hvisibility2 => ?_
  refine .field (meets_nullable hobject readBy_number) fun maturity2 hmaturity2 => ?_
  refine .field (meets_nullable hobject readBy_number) fun width hwidth => ?_
  refine .field (meets_nullable hobject readBy_number) fun height hheight => ?_
  refine .field (meets_nullable hobject readBy_number) fun line hline => follows_nil ?_
  rw [Attitude.document, hattitude, hvisibility, hmaturity, hvisibility2, hmaturity2, hwidth,
    hheight, hline]
  rfl

/-- The fields of an accelerator. -/
def Accelerator.fields : List (String × Requirement) :=
  [required .text "name", required .number "visibility", required .number "maturity",
   flag "deaccelerator", nullable .number "line"]

/-- Accelerators are read as their fields require. -/
theorem Accelerator.metBy :
    (object Accelerator.fields).MetBy Accelerator.ofDocument Accelerator.document := by
  refine metBy_object fun document hobject => ?_
  refine .field (meets_required hobject readBy_text) fun name hname => ?_
  refine .field (meets_required hobject readBy_number) fun visibility hvisibility => ?_
  refine .field (meets_required hobject readBy_number) fun maturity hmaturity => ?_
  refine .field (meets_optional hobject readBy_flag) fun deaccelerator hdeaccelerator => ?_
  refine .field (meets_nullable hobject readBy_number) fun line hline => follows_nil ?_
  rw [Accelerator.document, hname, hvisibility, hmaturity, hdeaccelerator, hline]
  rfl

/-- The fields of a label of the evolution axis. -/
def AxisLabel.fields : List (String × Requirement) :=
  [required .text "line1", optional .text (.text "") "line2"]

/-- Axis labels are read as their fields require. -/
theorem AxisLabel.metBy :
    (object AxisLabel.fields).MetBy AxisLabel.ofDocument AxisLabel.document := by
  refine metBy_object fun document hobject => ?_
  refine .field (meets_required hobject readBy_text) fun line1 hline1 => ?_
  refine .field (meets_optional hobject readBy_text) fun line2 hline2 => follows_nil ?_
  rw [AxisLabel.document, hline1, hline2]
  rfl

/-- The fields of a diagnostic. -/
def Diagnostic.fields : List (String × Requirement) :=
  [required .number "line", required .text "message"]

/-- Diagnostics are read as their fields require. -/
theorem Diagnostic.metBy :
    (object Diagnostic.fields).MetBy Diagnostic.ofDocument Diagnostic.document := by
  refine metBy_object fun document hobject => ?_
  refine .field (meets_required hobject readBy_number) fun line hline => ?_
  refine .field (meets_required hobject readBy_text) fun message hmessage => follows_nil ?_
  rw [Diagnostic.document, hline, hmessage]
  rfl

/-! ## Presentation -/

/-- Two numbers, each of them zero when absent. -/
def pairFields (first second : String) : List (String × Requirement) :=
  [optional .number (.number 0) first, optional .number (.number 0) second]

/-- A pair of numbers as a part; what counts as nothing is a pair without numbers. -/
def pairPart (name first second : String) : String × Requirement :=
  part isEmpty (object (pairFields first second))
    (.object [(first, .number 0), (second, .number 0)]) name

/-- The fields of a presentation. -/
def Presentation.fields : List (String × Requirement) :=
  [optional .text (.text "") "style", pairPart "annotations" "visibility" "maturity",
   pairPart "size" "width" "height"]

section Pairs

variable {document : Document} {name first second : String}

/-- The numbers of a pair are read from the object of the part. -/
theorem exists_pair (hobject : document.isObject = true)
    (hadmits : (object (pairFields first second)).admits document = true) :
    ∃ x y, document.fieldOr first readNumber 0 = .ok x ∧
      document.fieldOr second readNumber 0 = .ok y ∧
      .object [(first, .number x), (second, .number y)] =
        (object (pairFields first second)).completed document := by
  have hfields := (admits_object.1 hadmits).2
  rcases meets_optional hobject readBy_number (hfields _ List.mem_cons_self) with
    ⟨x, hreadX, hx⟩
  rcases meets_optional hobject readBy_number
    (hfields _ (List.mem_cons_of_mem _ List.mem_cons_self)) with ⟨y, hreadY, hy⟩
  refine ⟨x, y, hreadX, hreadY, ?_⟩
  rw [hx, hy]
  rfl

/-- A part that counts as nothing is read like an object without fields. -/
theorem exists_pairPart (hobject : document.isObject = true)
    (hadmits : (pairPart name first second).2.admits document = true) :
    ∃ found x y, document.partOrEmpty name = .ok found ∧
      found.fieldOr first readNumber 0 = .ok x ∧ found.fieldOr second readNumber 0 = .ok y ∧
      .object [(first, .number x), (second, .number y)] =
        (pairPart name first second).2.completed document := by
  rw [partOrEmpty, fieldOrNull_eq hobject]
  simp only [pairPart, part] at hadmits ⊢
  cases hfound : document.get? name with
  | none => exact ⟨.mapping [], 0, 0, rfl, rfl, rfl, rfl⟩
  | some found =>
      rw [hfound] at hadmits
      rw [ok_bind, Option.getD_some]
      by_cases hnothing : found.isEmpty = true
      · rw [Option.filter_some_neg (by simpa using hnothing), if_pos hnothing]
        exact ⟨.mapping [], 0, 0, rfl, rfl, rfl, rfl⟩
      · rw [Option.filter_some_pos (by simpa using hnothing)] at hadmits ⊢
        rw [if_neg hnothing]
        rcases exists_pair (admits_object.1 hadmits).1 hadmits with ⟨x, y, hx, hy, hpair⟩
        exact ⟨found, x, y, rfl, hx, hy, hpair⟩

/-- No number of a pair is required. -/
theorem missing_pairPart : (pairPart name first second).2.missing document = [] := by
  simp only [pairPart, part]
  cases (document.get? name).filter fun found => !found.isEmpty with
  | none => rfl
  | some found => rfl

end Pairs

/-- A presentation lacks nothing. -/
theorem Presentation.missing_eq_nil (document : Document) :
    (object Presentation.fields).missing document = [] := by
  simp only [Requirement.object, Presentation.fields, List.flatMap_cons, List.flatMap_nil,
    missing_pairPart]
  rfl

/-- Presentations are read as their fields require. -/
theorem Presentation.metBy :
    (object Presentation.fields).MetBy Presentation.ofDocument Presentation.document := by
  intro document hadmits
  rcases admits_object.1 hadmits with ⟨hobject, hfields⟩
  rcases List.forall_mem_cons.1 hfields with ⟨hstyle, hparts⟩
  rcases List.forall_mem_cons.1 hparts with ⟨hplace, hsize⟩
  -- every field has a value, so that the order of reading does not matter
  rcases meets_optional hobject readBy_text hstyle with ⟨style, hreadStyle, hstyleEq⟩
  rcases exists_pairPart hobject hplace with
    ⟨place, visibility, maturity, hreadPlace, hreadVisibility, hreadMaturity, hplaceEq⟩
  rcases exists_pairPart hobject (hsize _ List.mem_cons_self) with
    ⟨size, width, height, hreadSize, hreadWidth, hreadHeight, hsizeEq⟩
  rw [Presentation.missing_eq_nil, Presentation.ofDocument,
    if_neg (not_isNull_of_isObject hobject)]
  refine ⟨⟨style, ⟨visibility, maturity⟩, ⟨width, height⟩⟩, ?_, ?_⟩
  · simp only [hreadPlace, hreadSize, hreadStyle, hreadVisibility, hreadMaturity, hreadWidth,
      hreadHeight, ok_bind, pure_eq]
  · change Presentation.document _ = _
    rw [Presentation.document, hstyleEq, hplaceEq, hsizeEq]
    rfl

/-! ## Maps -/

/-- The labels of the evolution axis, which are the standard ones when there are none. -/
def axisEntries : String × Requirement :=
  ("evolution", {
    admits := fun document => (document.get? "evolution").all fun found =>
      found.isEmpty || found.isListOf (object AxisLabel.fields).admits
    missing := fun document =>
      (document.entriesUnder "evolution").flatMap (object AxisLabel.fields).missing
    completed := fun document =>
      match document.entriesUnder "evolution" with
      | [] => .list (AxisLabel.standard.map AxisLabel.document)
      | labels => .list (labels.map (object AxisLabel.fields).completed) })

/-- The fields of a map, in the order in which they are read. -/
def Map.fields : List (String × Requirement) :=
  [optional .text (.text standardTitle) "title",
   part isNull (object Presentation.fields) ({} : Presentation).document "presentation",
   axisEntries,
   entries (object Element.fields) "components",
   entries (object Element.fields) "anchors",
   entries (object Element.fields) "submaps",
   entries (object Element.fields) "markets",
   entries (object Element.fields) "ecosystems",
   entries (object Evolved.fields) "evolved",
   entries (object Pipeline.fields) "pipelines",
   entries (object Link.fields) "links",
   entries (object Annotation.fields) "annotations",
   entries (object Note.fields) "notes",
   entries (object Method.fields) "methods",
   entries (object Url.fields) "urls",
   entries (object Attitude.fields) "attitudes",
   entries (object Accelerator.fields) "accelerators",
   entries (object Diagnostic.fields) "errors"]

/-- The labels of the axis are read as required, and an absent list is the standard axis. -/
theorem meets_axis {document : Document} (hobject : document.isObject = true)
    (hadmits : axisEntries.2.admits document = true) :
    Meets (axisOfDocument document AxisLabel.standard) (axisEntries.2.missing document)
      fun labels => Document.list (labels.map AxisLabel.document) =
        axisEntries.2.completed document := by
  rw [axisOfDocument, fieldOrNull_eq hobject]
  simp only [axisEntries, entriesUnder] at hadmits ⊢
  cases hfound : document.get? "evolution" with
  | none => exact meets_ok rfl
  | some found =>
      rw [hfound, Option.all_some, Bool.or_eq_true] at hadmits
      rw [ok_bind, Option.getD_some]
      cases found with
      | list items =>
          cases items with
          | nil => exact meets_ok rfl
          | cons first rest =>
              have hlabels : (first :: rest).all (object AxisLabel.fields).admits = true :=
                hadmits.resolve_left Bool.false_ne_true
              exact (meets_mapM AxisLabel.metBy hlabels).mono fun labels => congrArg Document.list
      | scalar value =>
          rw [if_pos (hadmits.resolve_right Bool.false_ne_true)]
          exact meets_ok rfl
      | mapping fields =>
          rw [if_pos (hadmits.resolve_right Bool.false_ne_true)]
          exact meets_ok rfl

/-- Maps are read as their fields require. -/
theorem Map.metBy : (object Map.fields).MetBy Map.ofDocument Map.document := by
  refine metBy_object fun document hobject => ?_
  refine .field (meets_optional hobject readBy_text) fun title htitle => ?_
  refine .partOf (meets_part hobject Presentation.metBy ⟨_, rfl, rfl⟩)
    fun presentation hpresentation => ?_
  refine .field (meets_axis hobject) fun evolution hevolution => ?_
  refine .field (meets_entries hobject Element.metBy) fun components hcomponents => ?_
  refine .field (meets_entries hobject Element.metBy) fun anchors hanchors => ?_
  refine .field (meets_entries hobject Element.metBy) fun submaps hsubmaps => ?_
  refine .field (meets_entries hobject Element.metBy) fun markets hmarkets => ?_
  refine .field (meets_entries hobject Element.metBy) fun ecosystems hecosystems => ?_
  refine .field (meets_entries hobject Evolved.metBy) fun evolved hevolved => ?_
  refine .field (meets_entries hobject Pipeline.metBy) fun pipelines hpipelines => ?_
  refine .field (meets_entries hobject Link.metBy) fun links hlinks => ?_
  refine .field (meets_entries hobject Annotation.metBy) fun annotations hannotations => ?_
  refine .field (meets_entries hobject Note.metBy) fun notes hnotes => ?_
  refine .field (meets_entries hobject Method.metBy) fun methods hmethods => ?_
  refine .field (meets_entries hobject Url.metBy) fun urls hurls => ?_
  refine .field (meets_entries hobject Attitude.metBy) fun attitudes hattitudes => ?_
  refine .field (meets_entries hobject Accelerator.metBy) fun accelerators haccelerators => ?_
  refine .field (meets_entries hobject Diagnostic.metBy) fun errors herrors => follows_nil ?_
  rw [Map.document, htitle, hpresentation, hevolution, hcomponents, hanchors, hsubmaps, hmarkets,
    hecosystems, hevolved, hpipelines, hlinks, hannotations, hnotes, hmethods, hurls, hattitudes,
    haccelerators, herrors]
  rfl

/-! ## Readings of map documents -/

/-- A map document is read as its completed document unless a required field is missing. -/
structure Map.ReadsCompleted (document : Document) : Prop where
  /-- Reading fails exactly when a required field is missing. -/
  fails_iff : (∃ error, Map.ofDocument document = .error error) ↔
    ∃ name, name ∈ (object Map.fields).missing document
  /-- The error names the first missing field. -/
  error_eq : ∀ name rest, (object Map.fields).missing document = name :: rest →
    Map.ofDocument document = .error (.missingField name)
  /-- The fields of the map are those of the document, and else standard values. -/
  completed : (object Map.fields).missing document = [] → ∃ map : Map,
    Map.ofDocument document = .ok map ∧ map.document = (object Map.fields).completed document
  /-- The document is not read without types. -/
  chart_eq : Chart.ofDocument document = (Map.ofDocument document).map .inl

/-- Map documents whose fields are of the right types are read as completed documents. -/
theorem Map.ofDocument_readsCompleted (document : Document)
    (hadmits : (object Map.fields).admits document = true) : Map.ReadsCompleted document := by
  have hmeets := Map.metBy document hadmits
  cases hmissing : (object Map.fields).missing document with
  | nil =>
      rw [hmissing] at hmeets
      rcases hmeets with ⟨map, hmap, hdocument⟩
      refine ⟨?_, ?_, fun _ => ⟨map, hmap, hdocument⟩, ?_⟩
      · rw [hmap, hmissing]
        simp
      · intro name rest hcons
        rw [hmissing] at hcons
        cases hcons
      · rw [Chart.ofDocument, typedOr, hmap]
        rfl
  | cons name rest =>
      rw [hmissing] at hmeets
      have herror : Map.ofDocument document = .error (.missingField name) := hmeets
      refine ⟨?_, ?_, ?_, ?_⟩
      · rw [herror, hmissing]
        simp
      · intro first others hcons
        rw [hmissing] at hcons
        cases hcons
        exact herror
      · intro hnil
        rw [hmissing] at hnil
        cases hnil
      · rw [Chart.ofDocument, typedOr, herror]
        rfl

example : (object Map.fields).completed (.mapping []) = ({} : Map).document := rfl

/-- A link without an end, and a component with a label without an ordinate. -/
def unfinishedDocument : Document :=
  .object [
    ("links", .list [.object [("start", .text "Cup")]]),
    ("components", .list [
      .object [("name", .text "Cup"), ("maturity", .int 1), ("visibility", .int 0),
        ("label", .object [("x", .int 3)]), ("decorators", .null)]])]

/-- Components are read before links wherever they stand. -/
theorem Map.ofDocument_unfinishedDocument :
    (object Map.fields).missing unfinishedDocument = ["y", "end"] ∧
      Map.ofDocument unfinishedDocument = .error (.missingField "y") :=
  ⟨rfl, (Map.ofDocument_readsCompleted unfinishedDocument rfl).error_eq "y" ["end"] rfl⟩

end Wardley
