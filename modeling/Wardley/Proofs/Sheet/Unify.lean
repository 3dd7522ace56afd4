import Wardley.Parsing.Unify
import Wardley.Proofs.Resolution.Precedence
import Wardley.Proofs.Sheet.Report
import Wardley.Sheet.Unify

/-!
# Sheets of drafts

The sheet of a draft becomes the sheet of the map that the draft becomes: elements, pipelines and
evolutions are unified record by record, and the sorted elements stand in the same collections.

Main results:

- `Draft.unifyElement_record`, `Draft.unifyPipeline_record`, `Draft.unifyEvolved_record`: the
  records of a draft.
- `Draft.unify_sheet`: the sheet of a draft.
-/

namespace Wardley

open Sheet

/-! ## Elements -/

section Elements

variable (element : Element)

/-- Other decorators of an element are other decorators of its record. -/
theorem Element.put_decorators (flags : Decorators) :
    element.record.put "decorators" (.cell (.group flags.parts)) =
      { element with decorators := some flags }.record := rfl

/-- The kind of an element, put on its record. -/
theorem Element.put_kind (kind : ElementKind) :
    element.record.put "kind" (.cell (.kind kind)) = { element with kind }.record := rfl

/-- The evolving flag of an element, put on its record. -/
theorem Element.put_evolving (evolving : Bool) :
    element.record.put "evolving" (.cell (.datum (.bool evolving))) =
      { element with evolving }.record := rfl

/-- The target maturity of an element, put on its record. -/
theorem Element.put_evolveMaturity (maturity : Number) :
    element.record.put "evolve_maturity" (.cell (.datum (.number maturity))) =
      { element with evolveMaturity := some maturity }.record := rfl

/-- The pipeline flag of an element, put on its record. -/
theorem Element.put_pipeline (pipeline : Bool) :
    element.record.put "pipeline" (.cell (.datum (.bool pipeline))) =
      { element with pipeline }.record := rfl

/-- A decorator is set on a record as on its element. -/
theorem isSet_parts (flags : Decorators) (decorator : Decorator) :
    isSet flags.parts decorator = flags.has decorator := by
  cases decorator <;> exact Bool.not_not _

/-- Setting a decorator of a record sets it on its element. -/
theorem markPart_parts (flags : Decorators) (decorator : Decorator) :
    markPart decorator flags.parts = (flags.mark decorator).parts := by
  cases decorator <;> rfl

/-- Marking the decorators of a record by a keyword marks those of the element. -/
theorem markKeyword_parts (kind : ElementKind) (flags : Decorators) :
    markKeyword kind flags.parts = (Draft.withKeywordFlag kind flags).parts := by
  cases kind with
  | market => exact markPart_parts flags .market
  | ecosystem => exact markPart_parts flags .ecosystem
  | component | anchor | submap => rfl

/-- A record without decorators gets none set, like its element. -/
theorem Element.withDecorators_record :
    element.record.withDecorators =
      { element with decorators := some (element.decorators.getD .unset) }.record := by
  rcases element with ⟨name, kind, maturity, visibility, label, line, decorators⟩
  cases decorators <;> rfl

/-- The class of a record is the class of its element. -/
theorem Element.classify_record :
    element.record.classify = element.classify := by
  rcases element with ⟨name, kind, maturity, visibility, label, line, decorators⟩
  cases decorators with
  | none => rfl
  | some flags =>
    show (if isSet flags.parts .ecosystem then _
      else if isSet flags.parts .market then _ else _) = _
    rw [isSet_parts, isSet_parts]
    rfl

/-- The decorators and the class of a record are those of its element. -/
theorem Element.classified_record {decorated : Element}
    (hdecorated : decorated = { element with
      decorators := some (Draft.withKeywordFlag element.kind (element.decorators.getD .unset)) }) :
    element.record.classified = { decorated with kind := decorated.classify }.record := by
  have hparts : markKeyword element.record.kind element.record.withDecorators.decorators =
      (Draft.withKeywordFlag element.kind (element.decorators.getD .unset)).parts := by
    rw [withDecorators_record]
    exact markKeyword_parts _ _
  have hput : ({ element with decorators := some (element.decorators.getD .unset) } :
      Element).record.put "decorators" (.cell (.group
        (Draft.withKeywordFlag element.kind (element.decorators.getD .unset)).parts)) =
      decorated.record := by
    rw [put_decorators, hdecorated]
  rw [Record.classified, hparts, withDecorators_record, hput, classify_record, put_kind]

end Elements

/-! ## What evolutions and pipelines say -/

namespace Draft

variable (draft : Draft)

/-- The table of the maturities to which names evolve. -/
def targets : Index String Number :=
  draft.evolved.foldl
    (fun targets evolved => Index.enter evolved.name evolved.maturity targets) []

/-- The first evolution of a name counts. -/
theorem get?_targets (name : String) : draft.targets.get? name = draft.evolveTarget? name := by
  have hentries : draft.targets =
      (draft.evolved.map fun evolved => (evolved.name, evolved.maturity)).foldl
        (fun targets entry => Index.enter entry.1 entry.2 targets) [] := by
    rw [List.foldl_map]
    rfl
  rw [hentries, Index.get?_foldl_enter, List.find?_map, evolveTarget?, Option.map_map]
  rfl

/-- The table of targets on a sheet. -/
def onSheet (targets : Index String Number) : Index Name Document :=
  targets.rename Name.ofText Document.number

/-- The target of an evolve record is entered under the name of the evolve line. -/
theorem enterTarget_record (targets : Index String Number) (evolved : Evolved) :
    enterTarget (onSheet targets) evolved.record =
      .ok (onSheet (Index.enter evolved.name evolved.maturity targets)) := by
  rw [onSheet, onSheet, ← Index.enter_rename Name.ofText_beq]
  rfl

/-- The targets on the sheet of a draft are those of the draft. -/
theorem evolveTargets_sheet : draft.sheet.evolveTargets = .ok (onSheet draft.targets) :=
  foldlM_map_eq_pure enterTarget_record draft.evolved []

/-- A name is among those of pipelines if it heads one. -/
theorem contains_pipelines (name : String) :
    (draft.pipelines.map Pipeline.name).contains name = draft.headsPipeline name := by
  rw [headsPipeline, List.contains_eq_any_beq, List.any_map]
  congr 1
  funext pipeline
  exact Bool.beq_comm

/-- An element of a sheet is unified as the element of the draft. -/
theorem unifyElement_record (element : Element) :
    Sheet.unifyElement (onSheet draft.targets)
        ((draft.pipelines.map Pipeline.name).map Name.ofText) element.record =
      .ok (draft.unifyElement element).record := by
  have hname : element.record.name = .ok (.ofText element.name) := rfl
  rw [Sheet.unifyElement, hname, ok_bind, onSheet, Index.get?_rename Name.ofText_beq, get?_targets,
    contains_ofText, contains_pipelines, Element.classified_record element rfl]
  cases htarget : draft.evolveTarget? element.name with
  | none =>
    simp only [Option.map_none, Element.put_pipeline, unifyElement, htarget, Option.isSome_none,
      Bool.or_false, Option.none_or]
    rfl
  | some maturity =>
    simp only [Option.map_some, Element.put_evolving, Element.put_evolveMaturity,
      Element.put_pipeline, unifyElement, htarget, Option.isSome_some, Bool.or_true, Option.some_or]
    rfl

/-! ## Pipelines and evolutions -/

/-- A choice between numbers that is made on their documents. -/
theorem choose_number {choice : Document → Document → Option Document}
    {chosen : Number → Number → Number}
    (h : ∀ a b, choice (.number a) (.number b) = some (.number (chosen a b))) (first : Number)
    (others : List Number) :
    choose choice (.number first) (others.map Document.number) =
      .ok (.number (others.foldl chosen first)) := by
  have hfold := foldlM_map_eq_pure h others first
  rw [choose, hfold]
  rfl

/-- The lower of two cells that hold numbers is the lower number. -/
theorem lower?_number (a b : Number) :
    Document.lower? (.number a) (.number b) = some (.number (a.lower b)) := by
  show some (if b.below a then Document.number b else .number a) = some (.number (a.lower b))
  rw [Number.lower]
  split <;> rfl

/-- The higher of two cells that hold numbers is the higher number. -/
theorem upper?_number (a b : Number) :
    Document.upper? (.number a) (.number b) = some (.number (a.upper b)) := by
  show some (if a.below b then Document.number b else .number a) = some (.number (a.upper b))
  rw [Number.upper]
  split <;> rfl

/-- The extent of a record is the extent of its pipeline. -/
theorem extent_record (pipeline : Pipeline) :
    pipeline.record.extent =
      .ok (.number pipeline.extent.1, .number pipeline.extent.2) := by
  rcases pipeline with ⟨name, visibility, children, maturity1, maturity2, hidden, inertia, line⟩
  cases children with
  | nil => cases maturity1 <;> cases maturity2 <;> rfl
  | cons child others =>
    have hothers : (others.map PipelineChild.row).map (fun child => child.value "maturity") =
        (others.map PipelineChild.maturity).map Document.number := by
      rw [List.map_map, List.map_map]
      rfl
    show (do
      let lowest ← choose Document.lower? (.number child.maturity)
        ((others.map PipelineChild.row).map fun child => child.value "maturity")
      let highest ← choose Document.upper? (.number child.maturity)
        ((others.map PipelineChild.row).map fun child => child.value "maturity")
      pure (lowest, highest) : Except Fault (Document × Document)) = _
    rw [hothers, choose_number lower?_number, choose_number upper?_number]
    rfl

/-- A pipeline of a sheet is unified as the pipeline of the draft. -/
theorem unifyPipeline_record (pipeline : Pipeline) :
    Sheet.unifyPipeline pipeline.record = .ok (unifyPipeline pipeline).record := by
  rw [Sheet.unifyPipeline, extent_record]
  rfl

/-- An evolution of a sheet is unified as the evolution of the draft. -/
theorem unifyEvolved_record (evolved : Evolved) :
    evolved.record.withDecorators = (unifyEvolved evolved).record := by
  rcases evolved with ⟨name, maturity, override, label, line, decorators⟩
  cases decorators <;> rfl

/-! ## Sheets -/

/-- The elements of the sheet of a draft are its declared elements. -/
theorem elements_sheet : draft.sheet.elements = draft.declared.map Element.record := by
  rw [sheet, Map.elements_sheet]
  simp [unsorted, Map.elements, declared]

/-- The unified elements of a class on a sheet. -/
theorem filter_kind (kind : ElementKind) :
    ((draft.declared.map fun element => (draft.unifyElement element).record).filter
        fun element => element.kind == kind) =
      (draft.ofClass kind).map Element.record := by
  rw [ofClass, List.filter_map, List.filter_map, List.map_map]
  rfl

/-- The axis of a unified sheet is that of the unified draft. -/
theorem axis_sheet :
    (if (draft.sheet.records .evolution).length = 4 then draft.sheet.records .evolution
      else standardAxis) = draft.unify.evolution.map AxisLabel.record := by
  have hread : draft.sheet.records .evolution = (if draft.evolution.isEmpty then AxisLabel.standard
      else draft.evolution).map AxisLabel.record := rfl
  have hunified : draft.unify.evolution = if draft.evolution.length = 4 then draft.evolution
      else AxisLabel.standard := rfl
  rw [hread, hunified, List.length_map]
  cases hempty : draft.evolution.isEmpty with
  | true =>
    rw [List.isEmpty_iff.1 hempty]
    rfl
  | false =>
    rw [if_neg Bool.false_ne_true]
    split <;> rfl

/-- The sheet of a draft becomes the sheet of the map that the draft becomes. -/
theorem unify_sheet : draft.sheet.unify = .ok draft.unify.sheet := by
  have hnames : (draft.sheet.records .pipelines).mapM Record.name =
      .ok ((draft.pipelines.map Pipeline.name).map Name.ofText) := mapM_name (fun _ => rfl) _
  have helements := mapM_map_eq_ok draft.unifyElement_record draft.declared
  have hpipelines : (draft.sheet.records .pipelines).mapM Sheet.unifyPipeline =
      .ok (draft.unify.pipelines.map Pipeline.record) := by
    rw [unify, List.map_map]
    exact mapM_map_eq_ok unifyPipeline_record draft.pipelines
  have hevolved : (draft.sheet.records .evolved).map Record.withDecorators =
      draft.unify.evolved.map Evolved.record := by
    rw [unify, List.map_map]
    exact (List.map_map ..).trans (List.map_congr_left fun evolved _ => unifyEvolved_record evolved)
  rw [Sheet.unify, evolveTargets_sheet, ok_bind, hnames, ok_bind, elements_sheet, helements,
    ok_bind, hpipelines, ok_bind]
  simp only [axis_sheet, hevolved, filter_kind]
  refine congrArg Except.ok (ext_records rfl rfl fun collection => ?_)
  cases collection <;> rfl

end Draft
end Wardley
