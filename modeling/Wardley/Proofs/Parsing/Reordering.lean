import Wardley.Proofs.Construct.Settings
import Wardley.Proofs.Notation.Comments
import Wardley.Proofs.Parsing.Coverage
import Wardley.Proofs.Resolution.Reordering

/-!
# Lines of a text in another order

The lines of a text may stand in any order as long as nothing in the text is ambiguous: no
block and no comment spans lines, no two elements and no two evolutions share a name, and
no setting is written twice.  Elements, evolutions and pipelines then find each other
wherever they stand, so that the maps differ in the lines and the order of their records
only.

Main definitions:

- `Unambiguous`: the order of the lines of a text says nothing.

Main results:

- `draftOf_reorders`: the draft of lines in another order.
- `parse_perm`: the map of a text with its lines in another order.
-/

namespace Wardley

open Construct Notation Text

/-- The keywords of the settings. -/
def settingKeywords : List String := ["title", "style", "annotations", "size", "evolution"]

/-! ## Drafts -/

section Draft

variable (switches : Switches) {lines others : List (Nat × List Char)}
  (h : (lines.map Prod.snd).Perm (others.map Prod.snd))
  (hbraces : ∀ line ∈ lines, '{' ∉ line.2)
  (hnames : ((declaredElements lines).map Element.name).Nodup)
include h hbraces hnames

/-- The diagnostics of a kind, in any order. -/
theorem errors_contents_perm (kind : Kind) :
    ((kind.contents switches lines).2.map (Diagnostic.mapLine noLine)).Perm
      ((kind.contents switches others).2.map (Diagnostic.mapLine noLine)) := by
  cases kind with
  | evolution | links => exact List.Perm.refl _
  | title => exact (titles_reorders h).errors
  | presentation => exact (settings_reorders h).errors
  | elements | anchors | submaps => exact (elementsOf_reorders h hbraces _).errors
  | pipelines => exact (pipelines_reorders h hbraces hnames _).errors
  | attitudes => exact (attitudes_reorders h).errors
  | accelerators => exact (accelerators_reorders h _).errors
  | notes => exact (collect_reorders h (readNote_mapLine noLine) _).errors
  | annotations => exact (collect_reorders h (readAnnotation_mapLine noLine) _).errors
  | evolved => exact (collect_reorders h (readEvolution_mapLine noLine) _).errors
  | urls => exact (collect_reorders h (readUrl_mapLine noLine) _).errors
  | methods => exact (collect_reorders h (readMethod_mapLine noLine) _).errors

/-- The draft of lines in another order has the same records in another order. -/
theorem draftOf_reorders (hset : ∀ keyword ∈ settingKeywords, SetOnce keyword lines) :
    ((draftOf switches lines).mapLines noLine).Reorders
      ((draftOf switches others).mapLines noLine) where
  title := title_perm h (hset _ (by decide))
  evolution := axisLabels_perm h (hset _ (by decide))
  presentation := by
    refine presentation_perm h fun keyword hkeyword => hset keyword ?_
    exact (by decide : ["style", "annotations", "size"] ⊆ settingKeywords) hkeyword
  notes := (collect_reorders h (readNote_mapLine noLine) _).records
  annotations := (collect_reorders h (readAnnotation_mapLine noLine) _).records
  elements := (elementsOf_reorders h hbraces _).records
  pipelines := (pipelines_reorders h hbraces hnames _).records
  evolved := (collect_reorders h (readEvolution_mapLine noLine) _).records
  anchors := (elementsOf_reorders h hbraces _).records
  links := links_perm h _
  submaps := (elementsOf_reorders h hbraces _).records
  urls := (collect_reorders h (readUrl_mapLine noLine) _).records
  attitudes := (attitudes_reorders h).records
  accelerators := (accelerators_reorders h _).records
  methods := (collect_reorders h (readMethod_mapLine noLine) _).records
  errors := by
    simp only [Draft.mapLines, draftOf, List.map_flatMap]
    exact List.Perm.flatMap_left _ fun kind _ =>
      errors_contents_perm switches h hbraces hnames kind

end Draft

/-! ## Names -/

/-- The elements of a draft are those that any keyword declares. -/
theorem declared_draftOf_perm (switches : Switches) (lines : List (Nat × List Char)) :
    (draftOf switches lines).declared.Perm (declaredElements lines) := by
  have hwords := (declarations_elementWords_perm (linesOutsideBlocks lines)).filterMap
    fun d => (readDeclared d).toOption
  have hrecords (kinds : List ElementKind) : (elementsOf kinds lines).records =
      (declarations (kinds.map ElementKind.word) (linesOutsideBlocks lines)).filterMap
        fun d => (readDeclared d).toOption := records_collect _ _
  simp only [List.filterMap_append] at hwords
  simp only [Draft.declared, draftOf, elements, anchors, submaps, declaredElements, hrecords,
    List.append_assoc]
  exact hwords

/-- The elements of a map have the names of the declared ones. -/
theorem Draft.names_elements_unify (draft : Draft) :
    (draft.unify.elements.map Element.name).Perm (draft.declared.map Element.name) := by
  have hnames := draft.elements_unify_perm.map Element.name
  rw [List.map_map] at hnames
  exact hnames

/-! ## Texts -/

/-- The order of the lines of a text says nothing. -/
structure Unambiguous (text : String) : Prop where
  noBrace : ∀ line ∈ Text.lines text.toList, '{' ∉ line
  noBlockComment : ∀ line ∈ Text.lines text.toList, ¬ ['/', '*'] <:+: line
  /-- No two valid elements have the same name, whatever their keywords are. -/
  elements : ((declaredElements (numbered (cleanLines text.toList))).map Element.name).Nodup
  /-- No two valid evolutions have the same source. -/
  sources : ((evolutions (numbered (cleanLines text.toList))).records.map Evolved.name).Nodup
  /-- No two valid evolutions are drawn under the same name. -/
  displayNames :
    ((evolutions (numbered (cleanLines text.toList))).records.map Evolved.displayName).Nodup
  /-- Every setting has one line at most. -/
  settings : ∀ keyword ∈ settingKeywords,
    (Text.lines text.toList).countP (introduces [keyword]) ≤ 1

/-- The only item that satisfies a predicate is found once. -/
theorem eq_of_countP_le_one {α : Type} {items : List α} {p : α → Bool} (h : items.countP p ≤ 1)
    {first second : α} (hfirst : first ∈ items) (hsecond : second ∈ items)
    (hp : p first = true) (hp' : p second = true) : first = second := by
  rw [List.countP_eq_length_filter] at h
  have hmem : first ∈ items.filter p := List.mem_filter.2 ⟨hfirst, hp⟩
  have hmem' : second ∈ items.filter p := List.mem_filter.2 ⟨hsecond, hp'⟩
  match hfound : items.filter p with
  | [] => rw [hfound] at hmem; contradiction
  | [only] =>
      rw [hfound, List.mem_singleton] at hmem hmem'
      rw [hmem, hmem']
  | _ :: _ :: _ =>
      rw [hfound] at h
      simp at h

namespace Unambiguous

variable {text : String} (h : Unambiguous text)
include h

theorem cleanLines_eq :
    cleanLines text.toList = (Text.lines text.toList).map cutLineComment :=
  eraseLines_of_not_isInfix h.noBlockComment

/-- A line without comments is what is left of a line of the text. -/
theorem exists_whole {line : Nat × List Char} (hline : line ∈ numbered (cleanLines text.toList)) :
    ∃ whole ∈ Text.lines text.toList, cutLineComment whole = line.2 := by
  have hclean : line.2 ∈ cleanLines text.toList := by
    rw [← map_snd_numbered (cleanLines text.toList)]
    exact List.mem_map_of_mem hline
  rw [h.cleanLines_eq] at hclean
  exact List.mem_map.1 hclean

/-- A line without its comment has no brace either. -/
theorem not_mem_cleanLines : ∀ line ∈ numbered (cleanLines text.toList), '{' ∉ line.2 := by
  intro line hline hmem
  rcases h.exists_whole hline with ⟨whole, hwhole, heq⟩
  rw [← heq] at hmem
  exact h.noBrace whole hwhole ((cutLineComment_begins whole).subset hmem)

/-- A setting with one line is written once. -/
theorem setOnce : ∀ keyword ∈ settingKeywords,
    SetOnce keyword (numbered (cleanLines text.toList)) := by
  intro keyword hkeyword first hfirst second hsecond body other hbody hne hother hne'
  have hsolid : ∀ c ∈ keyword.toList, isSolid c :=
    List.all_eq_true.1 ((by decide : ∀ word ∈ settingKeywords, IsKeyword word) keyword hkeyword).2
  have hintroduced {whole found : List Char}
      (hfound : keywordBody? keyword.toList (cutLineComment whole) = some found)
      (hsome : found ≠ []) : introduces [keyword] whole = true := by
    rw [introduces, List.any_cons,
      isSome_keywordBody?_of_prefix hsolid (cutLineComment_begins whole) hfound hsome,
      Bool.true_or]
  rcases h.exists_whole hfirst with ⟨whole, hmem, heq⟩
  rcases h.exists_whole hsecond with ⟨whole', hmem', heq'⟩
  rw [← heq] at hbody
  rw [← heq'] at hother
  -- both are what is left of the only line that the keyword introduces
  have hsame := eq_of_countP_le_one (h.settings keyword hkeyword) hmem hmem'
    (hintroduced hbody hne) (hintroduced hother hne')
  rw [hsame, hother] at hbody
  exact (Option.some.inj hbody).symm

variable (switches : Switches)

/-- The elements of the map have different names. -/
theorem nodup_names : ((parse switches text).elements.map Element.name).Nodup := by
  rw [parse_eq_unify, (Draft.names_elements_unify _).nodup_iff,
    ((declared_draftOf_perm switches _).map Element.name).nodup_iff]
  exact h.elements

/-- The evolutions of the map are drawn under different names. -/
theorem nodup_displayNames :
    ((parse switches text).evolved.map Evolved.displayName).Nodup := by
  rw [parse_eq_unify, Draft.unify, List.map_map]
  exact h.displayNames

/-- The pipelines of the map have no children. -/
theorem children_eq_nil : ∀ pipeline ∈ (parse switches text).pipelines, pipeline.children = [] := by
  have hread : (parse switches text).pipelines =
      (pipelines switches.newPipelines (numbered (cleanLines text.toList))).records.map
        Draft.unifyPipeline := by
    rw [parse_eq_unify]
    rfl
  intro pipeline hpipeline
  rw [hread] at hpipeline
  rcases List.mem_map.1 hpipeline with ⟨declared, hdeclared, rfl⟩
  have hnil : declared.children = [] := children_eq_nil_of_not_mem h.not_mem_cleanLines hdeclared
  exact hnil

end Unambiguous

/-- The lines of an unambiguous text may stand in any order. -/
theorem parse_perm (switches : Switches) {text other : String}
    (hperm : (Text.lines text.toList).Perm (Text.lines other.toList)) (h : Unambiguous text) :
    (parse switches text).SameContent (parse switches other) := by
  have hother : ∀ line ∈ Text.lines other.toList, ¬ ['/', '*'] <:+: line :=
    fun line hline => h.noBlockComment line (hperm.mem_iff.2 hline)
  have hlines : ((numbered (cleanLines text.toList)).map Prod.snd).Perm
      ((numbered (cleanLines other.toList)).map Prod.snd) := by
    rw [map_snd_numbered, map_snd_numbered, h.cleanLines_eq, cleanLines,
      eraseLines_of_not_isInfix hother]
    exact hperm.map cutLineComment
  have hdraft := draftOf_reorders switches hlines h.not_mem_cleanLines h.elements h.setOnce
  have hsources : (((draftOf switches (numbered (cleanLines text.toList))).mapLines
      noLine).evolved.map Evolved.name).Nodup := by
    rw [Draft.mapLines, List.map_map]
    exact h.sources
  have hmap := hdraft.unify hsources
  rw [Draft.unify_mapLines, Draft.unify_mapLines, ← parse_eq_unify, ← parse_eq_unify] at hmap
  exact Map.sameContent_of_reorders hmap (h.nodup_names switches) (h.nodup_displayNames switches)
    (h.children_eq_nil switches)

/-- An evolution, a pipeline and a link before the component that they are about. -/
theorem parse_perm_component :
    Unambiguous "evolve A->C 1\npipeline A\nA->B\ncomponent A [0.6, 0.4]" ∧
      (parse .allOn "evolve A->C 1\npipeline A\nA->B\ncomponent A [0.6, 0.4]").SameContent
        (parse .allOn "component A [0.6, 0.4]\nA->B\npipeline A\nevolve A->C 1") := by
  have hunambiguous :
      Unambiguous "evolve A->C 1\npipeline A\nA->B\ncomponent A [0.6, 0.4]" := {
    noBrace := by decide
    noBlockComment := by
      simp only [← occurs_iff_isInfix]
      decide
    elements := by decide +kernel
    sources := by decide +kernel
    displayNames := by decide +kernel
    settings := by decide }
  exact ⟨hunambiguous, parse_perm .allOn (by decide) hunambiguous⟩

end Wardley
