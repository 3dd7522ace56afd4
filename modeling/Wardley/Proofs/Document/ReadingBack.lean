import Wardley.Proofs.Document.Rearrangement
import Wardley.Proofs.Success

/-!
# Records read back from their documents

The document of a record names all of its fields, and its reader takes each of them out
again.  One lemma for each record says so for any rearrangement of its document, from the
parts of records to whole maps.  A list without entries would be read as the
standard evolution axis; this is the one list that has to have entries.

Main results:

- `Element.ofDocument_document`, and one such lemma for each record.
- `Map.ofDocument_document`: a map is read back from its rearranged document.
-/

namespace Wardley

open Document

/-- The items of a list are its items. -/
@[simp]
theorem Document.items_list (items : List Document) : (list items).items = .ok items := rfl

/-- Values that are read back one by one are read back as a list. -/
theorem mapM_rearranged {α : Type} {s : Rearrangement} {read : Document → Except ReadError α}
    {write : α → Document} (h : ∀ value, read (s (write value)) = .ok value) (values : List α) :
    (values.map (s.apply ∘ write)).mapM read = .ok values := by
  rw [mapM_eq_ok_iff]
  induction values with
  | nil => exact .nil
  | cons value values ih => exact .cons (h value) ih

section Records

variable (s : Rearrangement)

/-! ## Parts of records -/

/-- A label is read back from its document. -/
@[simp]
theorem Label.ofDocument_document (label : Label) :
    Label.ofDocument (s label.document) = .ok label := by
  simp [Label.ofDocument, Label.document, List.lookup_cons]

/-- Decorators are read back from their document, flag by flag. -/
@[simp]
theorem Decorators.ofDocument_document (flags : Decorators) :
    Decorators.ofDocument (s flags.document) = .ok (some flags) := by
  simp [Decorators.ofDocument, Decorators.document, List.lookup_cons]

/-- Decorators that may be absent are read back. -/
@[simp]
theorem Decorators.ofDocument_optional (flags : Option Decorators) :
    Decorators.ofDocument (s (.optional Decorators.document flags)) = .ok flags := by
  cases flags with
  | none => rw [Document.optional, rearranged_null]; rfl
  | some flags => exact Decorators.ofDocument_document s flags

/-- A kind is read back from its word. -/
@[simp]
theorem ElementKind.ofDocument_word (kind : ElementKind) :
    ElementKind.ofDocument (.text kind.word) = .ok kind := by
  simp [ElementKind.ofDocument, Document.text]

/-! ## Records -/

/-- An element is read back from its document, with its kind, its label and its decorators. -/
theorem Element.ofDocument_document (element : Element) :
    Element.ofDocument (s element.document) = .ok element := by
  simp [Element.ofDocument, Element.document, List.lookup_cons]

/-- A link is read back from its document. -/
theorem Link.ofDocument_document (link : Link) : Link.ofDocument (s link.document) = .ok link := by
  simp [Link.ofDocument, Link.document, List.lookup_cons]

/-- An evolution is read back from its document, with its label and its decorators. -/
theorem Evolved.ofDocument_document (evolved : Evolved) :
    Evolved.ofDocument (s evolved.document) = .ok evolved := by
  simp [Evolved.ofDocument, Evolved.document, List.lookup_cons]

/-- A child of a pipeline is read back from its document. -/
theorem PipelineChild.ofDocument_document (child : PipelineChild) :
    PipelineChild.ofDocument (s child.document) = .ok child := by
  simp [PipelineChild.ofDocument, PipelineChild.document, List.lookup_cons]

/-- A pipeline is read back from its document, child by child. -/
theorem Pipeline.ofDocument_document (pipeline : Pipeline) :
    Pipeline.ofDocument (s pipeline.document) = .ok pipeline := by
  have hchildren := mapM_rearranged (PipelineChild.ofDocument_document s) pipeline.children
  simp [Pipeline.ofDocument, Pipeline.document, List.lookup_cons, hchildren]

/-- A marked place is read back from its document. -/
theorem Occurrence.ofDocument_document (occurrence : Occurrence) :
    Occurrence.ofDocument (s occurrence.document) = .ok occurrence := by
  simp [Occurrence.ofDocument, Occurrence.document, List.lookup_cons]

/-- An annotation is read back from its document, place by place. -/
theorem Annotation.ofDocument_document (marked : Annotation) :
    Annotation.ofDocument (s marked.document) = .ok marked := by
  have hplaces := mapM_rearranged (Occurrence.ofDocument_document s) marked.occurrences
  simp [List.lookup_cons, hplaces, Annotation.ofDocument, Annotation.document]

/-- A note is read back from its document. -/
theorem Note.ofDocument_document (note : Note) : Note.ofDocument (s note.document) = .ok note := by
  simp [Note.ofDocument, Note.document, List.lookup_cons]

/-- A method is read back from its document; its decorators are never null there. -/
theorem Method.ofDocument_document (method : Method) :
    Method.ofDocument (s method.document) = .ok method := by
  simp [Method.ofDocument, Method.document, List.lookup_cons]

/-- An address is read back from its document. -/
theorem Url.ofDocument_document (url : Url) : Url.ofDocument (s url.document) = .ok url := by
  simp [Url.ofDocument, Url.document, List.lookup_cons]

/-- An attitude is read back from its document, whichever corners and sizes it has. -/
theorem Attitude.ofDocument_document (attitude : Attitude) :
    Attitude.ofDocument (s attitude.document) = .ok attitude := by
  simp [Attitude.ofDocument, Attitude.document, List.lookup_cons]

/-- An accelerator is read back from its document. -/
theorem Accelerator.ofDocument_document (accelerator : Accelerator) :
    Accelerator.ofDocument (s accelerator.document) = .ok accelerator := by
  simp [Accelerator.ofDocument, Accelerator.document, List.lookup_cons]

/-- An axis label is read back from its document. -/
theorem AxisLabel.ofDocument_document (label : AxisLabel) :
    AxisLabel.ofDocument (s label.document) = .ok label := by
  simp [AxisLabel.ofDocument, AxisLabel.document, List.lookup_cons]

/-- A diagnostic is read back from its document. -/
theorem Diagnostic.ofDocument_document (diagnostic : Diagnostic) :
    Diagnostic.ofDocument (s diagnostic.document) = .ok diagnostic := by
  simp [Diagnostic.ofDocument, Diagnostic.document, List.lookup_cons]

/-- A presentation is read back from its document: neither of its parts counts as nothing. -/
@[simp]
theorem Presentation.ofDocument_document (presentation : Presentation) :
    Presentation.ofDocument (s presentation.document) = .ok presentation := by
  simp [Presentation.ofDocument, Presentation.document, partOrEmpty, List.lookup_cons]

/-! ## Maps -/

/-- A map with an evolution axis is read back from its rearranged document. -/
theorem Map.ofDocument_document (map : Map) (haxis : map.evolution ≠ []) :
    Map.ofDocument (s map.document) = .ok map := by
  have hstages := mapM_rearranged (AxisLabel.ofDocument_document s)
  have helements := mapM_rearranged (Element.ofDocument_document s)
  have hevolved := mapM_rearranged (Evolved.ofDocument_document s)
  have hpipelines := mapM_rearranged (Pipeline.ofDocument_document s)
  have hlinks := mapM_rearranged (Link.ofDocument_document s)
  have hannotations := mapM_rearranged fun marked => Annotation.ofDocument_document s marked
  have hnotes := mapM_rearranged (Note.ofDocument_document s)
  have hmethods := mapM_rearranged (Method.ofDocument_document s)
  have hurls := mapM_rearranged (Url.ofDocument_document s)
  have hattitudes := mapM_rearranged (Attitude.ofDocument_document s)
  have haccelerators := mapM_rearranged (Accelerator.ofDocument_document s)
  have herrors := mapM_rearranged (Diagnostic.ofDocument_document s)
  simp [Map.ofDocument, Map.document, titleOfDocument, axisOfDocument, Document.isEmpty,
    List.lookup_cons, haxis, hstages, helements, hevolved, hpipelines, hlinks, hannotations,
    hnotes, hmethods, hurls, hattitudes, haccelerators, herrors]

end Records

end Wardley
