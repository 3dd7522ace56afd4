import Wardley.Proofs.Construct.Merging
import Wardley.Proofs.Model.Lines

/-!
# Readings follow their lines

The number of a line goes into the record or the diagnostic that the line gives, and
nowhere else.  Reading a declaration under another number therefore gives the same
record under that number.

Main results:

- `readElement_mapLine`, `readHeader_mapLine`, `readChild_mapLine`,
  `readEvolution_mapLine`, `readNote_mapLine`, `readAnnotation_mapLine`,
  `readUrl_mapLine`, `readRegion_mapLine`, `readMethod_mapLine`: one for each reader.
- `collect_mapLine`: an outcome follows the lines of its declarations.
- `mapRecords_mapLine`: records that are made of regions follow their lines.
-/

namespace Wardley

namespace Notation

variable {α : Type}

/-- A declaration with its line renamed. -/
def Declaration.mapLine (f : Nat → Nat) (declared : Declaration) : Declaration :=
  { declared with line := f declared.line }

/-- An outcome whose records are renamed by a function of their own. -/
def Outcome.mapLines (g : α → α) (f : Nat → Nat) (outcome : Outcome α) : Outcome α :=
  ⟨outcome.records.map g, outcome.errors.map (Diagnostic.mapLine f)⟩

/-- An outcome follows the lines of its declarations. -/
theorem collect_mapLine {read read' : Declaration → Except Fault α} {g : α → α} {f : Nat → Nat}
    {declared : List Declaration}
    (hread : ∀ d ∈ declared, read' (d.mapLine f) = (read d).map g) :
    collect read' (declared.map (Declaration.mapLine f)) =
      (collect read declared).mapLines g f := by
  induction declared with
  | nil => rfl
  | cons first rest ih =>
      have hrest := ih fun d hd => hread d (List.mem_cons_of_mem _ hd)
      rw [List.map_cons, collect, collect, hread first List.mem_cons_self, hrest]
      cases read first <;> rfl

end Notation

namespace Construct

open Notation Text

variable (f : Nat → Nat)

/-! ## Elements and pipelines -/

/-- The line of an element is kept as it is given, and nothing else depends on it. -/
theorem readElement_mapLine (keyword : String) (kind : ElementKind) (line : Number)
    (body : List Char) :
    readElement keyword kind (line.mapLine f) body =
      (readElement keyword kind line body).map (Element.mapLine f) := by
  unfold readElement
  simp only [map_bind_except, apply_ite (Except.map _)]
  rfl

/-- A declared element has the line of its declaration. -/
theorem readDeclared_mapLine (declared : Declaration) :
    readDeclared (declared.mapLine f) = (readDeclared declared).map (Element.mapLine f) :=
  readElement_mapLine f declared.keyword (kindOf declared.keyword) (.int declared.line)
    declared.body

/-- A child of a pipeline has the line of its declaration. -/
theorem readChild_mapLine (visibility : Number) (declared : Declaration) :
    readChild visibility (declared.mapLine f) =
      (readChild visibility declared).map (PipelineChild.mapLine f) := by
  unfold readChild
  simp only [Declaration.mapLine]
  split
  · rfl
  · simp only [map_bind_except, apply_ite (Except.map _)]
    rfl

/-- A header takes its visibility from elements, whatever their lines are. -/
theorem readHeader_mapLine (declared : List Element) (header : Declaration) :
    readHeader (declared.map (Element.mapLine f)) (header.mapLine f) =
      (readHeader declared header).map (Pipeline.mapLine f) := by
  have hvisibility (name : String) : firstVisibility? (declared.map (Element.mapLine f)) name =
      firstVisibility? declared name := by
    simp only [firstVisibility?, List.find?_map, Option.map_map]
    rfl
  unfold readHeader
  simp only [Declaration.mapLine, hvisibility, map_bind_except, apply_ite (Except.map _)]
  rfl

/-! ## Evolutions and links -/

/-- An evolution has the line of its declaration. -/
theorem readEvolution_mapLine (declared : Declaration) :
    readEvolution (declared.mapLine f) =
      (readEvolution declared).map (Evolved.mapLine f) := by
  unfold readEvolution
  simp only [Declaration.mapLine, map_bind_except]
  congr 1
  funext found
  split
  · rfl
  · simp only [map_bind_except, apply_ite (Except.map _)]
    rfl

/-- A link has the number of its line, which does not decide whether the line is one. -/
theorem readLink?_mapLine (keepContext : Bool) (number : Nat) (line : List Char) :
    readLink? keepContext (f number) line =
      (readLink? keepContext number line).map (Link.mapLine f) := by
  unfold readLink?
  simp only
  split
  · rfl
  · split <;> rfl

/-! ## Markings -/

/-- A note has the line of its declaration. -/
theorem readNote_mapLine (declared : Declaration) :
    readNote (declared.mapLine f) = (readNote declared).map (Note.mapLine f) := by
  unfold readNote
  simp only [Declaration.mapLine]
  split
  · rfl
  · simp only [map_bind_except, apply_ite (Except.map _)]
    rfl

/-- An annotation has the line of its declaration. -/
theorem readAnnotation_mapLine (declared : Declaration) :
    readAnnotation (declared.mapLine f) =
      (declared |> readAnnotation).map fun marked => marked.mapLine f := by
  unfold readAnnotation
  simp only [Declaration.mapLine, map_bind_except, apply_ite (Except.map _)]
  rfl

/-- An address has the line of its declaration. -/
theorem readUrl_mapLine (declared : Declaration) :
    readUrl (declared.mapLine f) = (readUrl declared).map (Url.mapLine f) := by
  unfold readUrl
  simp only [Declaration.mapLine]
  split
  · split <;> rfl
  · rfl

/-- A method has the line of its declaration. -/
theorem readMethod_mapLine (declared : Declaration) :
    readMethod (declared.mapLine f) = (readMethod declared).map (Method.mapLine f) := by
  unfold readMethod
  rw [apply_ite (Except.map _)]
  rfl

/-- A region with its line renamed. -/
def Region.mapLine (region : Region) : Region := { region with line := f region.line }

/-- A region has the line of its declaration, whatever forms its keyword admits. -/
theorem readRegion_mapLine (options : RegionOptions) (declared : Declaration) :
    readRegion options (declared.mapLine f) =
      (readRegion options declared).map (Region.mapLine f) := by
  unfold readRegion
  simp only [Declaration.mapLine]
  split
  · rfl
  · simp only [map_bind_except, apply_ite (Except.map _)]
    rfl

/-- A region with another line is an attitude with that line. -/
theorem attitude_mapLine (region : Region) :
    (region.mapLine f).attitude = region.attitude.mapLine f := rfl

/-- A region with another line is an accelerator with that line. -/
theorem accelerator_mapLine (region : Region) :
    (region.mapLine f).accelerator = region.accelerator.mapLine f := rfl

/-- Records that are made of regions follow the lines of the regions. -/
theorem mapRecords_mapLine {β : Type} {record : Region → β} {g : β → β}
    (hline : ∀ region, record (region.mapLine f) = g (record region)) (outcome : Outcome Region) :
    mapRecords record (outcome.mapLines (Region.mapLine f) f) =
      (mapRecords record outcome).mapLines g f := by
  simp only [mapRecords, Outcome.mapLines, List.map_map, Function.comp_def, hline]

end Construct
end Wardley
