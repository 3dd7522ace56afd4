import Mathlib.Data.List.Nodup
import Wardley.Proofs.Construct.BlockText
import Wardley.Proofs.Construct.Surroundings
import Wardley.Proofs.Notation.Replacement
import Wardley.Proofs.Parsing.HeaderLines
import Wardley.Proofs.Resolution.FirstDeclared

/-!
# Visibilities of pipelines

The reading of pipelines looks for the elements of a text on its own, in one pass over all
keywords, while components, anchors and submaps are read by three readings that know nothing
of each other.  Both agree: a pipeline has the visibility of the first element of its name
among those that the three readings return.  A line on which an element is declared but not
read counts for neither.

Main definitions:

- `returnedElements`: the elements of the three readings.
- `TakesVisibility`: the visibility that a name takes among elements.
- `isMalformed`, `isInert`: lines that declare an element without giving one, and lines that
  declare nothing.
- `AgreesOnVisibilities`: what the reading of pipelines has in common with the others.

Main results:

- `mem_returnedElements`: the three readings return the elements of the one pass.
- `takesVisibility_of_mem_pipelines`: the visibility of a pipeline.
- `declaredElements_replace`, `pipelines_replace`: a line that gives no element, replaced.
- `agreesOnVisibilities`: the readings of every list of lines agree.
-/

namespace Wardley

open Construct Notation Text

/-! ## The elements of three readings -/

/-- The elements that the readings of the positioned kinds return. -/
def returnedElements (switches : Switches) (lines : List (List Char)) : List Element :=
  Kind.positioned.flatMap fun kind => (kind.read switches lines).content.asElements

theorem returnedElements_eq (switches : Switches) (lines : List (List Char)) :
    returnedElements switches lines = (draftOf switches (numbered lines)).declared := by
  simp only [returnedElements, Kind.positioned, List.flatMap_cons, List.flatMap_nil,
    List.append_nil, Draft.declared, List.append_assoc]
  rfl

/-- The three readings return the elements that one pass over all keywords declares. -/
theorem mem_returnedElements {switches : Switches} {lines : List (List Char)}
    {element : Element} :
    element ∈ returnedElements switches lines ↔ element ∈ declaredElements (numbered lines) := by
  rw [returnedElements_eq, declared_draftOf_eq, List.mem_flatMap]
  constructor
  · rintro ⟨list, -, hmem⟩
    exact (List.mem_filter.1 hmem).1
  · intro hmem
    refine ⟨element.kind.draftList, ?_, List.mem_filter.2 ⟨hmem, by simp⟩⟩
    cases element.kind <;> decide

/-- The three readings return at most one element of a line. -/
theorem nodup_number_returnedElements (switches : Switches) (lines : List (List Char)) :
    ((returnedElements switches lines).map Element.number).Nodup := by
  have hlines := nodup_line_declared switches lines
  rw [returnedElements_eq]
  refine List.Nodup.map_on ?_ (List.Nodup.of_map _ hlines)
  intro first hfirst second hsecond hsame
  rcases isDeclared_draftOf hfirst with ⟨kind, line, hline, hread⟩
  rcases isDeclared_draftOf hsecond with ⟨kind', line', hline', hread'⟩
  rcases onLine_numbered hline with ⟨n, rfl, -⟩
  rcases onLine_numbered hline' with ⟨n', rfl, -⟩
  refine List.inj_on_of_nodup_map hlines hfirst hsecond ?_
  rw [Element.number, Element.number, hread.line_eq, hread'.line_eq] at hsame
  have hnumber : n = n' := hsame
  rw [hread.line_eq, hread'.line_eq, hnumber]

/-! ## The visibility of a name -/

/-- The visibility of a name: that of its first element, or that of a sketch if it has none. -/
inductive TakesVisibility (elements : List Element) (name : String) : Number → Prop
  | declared {first : Element} (h : IsFirst elements name first) :
      TakesVisibility elements name first.visibility
  | undeclared (h : ∀ element ∈ elements, element.name ≠ name) :
      TakesVisibility elements name sketchVisibility

section Pipelines

variable {switches : Switches} {lines : List (List Char)} {pipeline : Pipeline}

/-- The first element of a name does not depend on the order of the elements. -/
theorem isFirst_returnedElements {name : String} {first : Element}
    (h : IsFirst (declaredElements (numbered lines)) name first) :
    IsFirst (returnedElements switches lines) name first where
  mem := mem_returnedElements.2 h.mem
  name_eq := h.name_eq
  least := fun other hother => h.least other (mem_returnedElements.1 hother)

/-- The element of a name that is found in the order of the lines is the first one. -/
theorem isFirst_of_find? {name : String} {first : Element}
    (h : ((declaredElements (numbered lines)).find? fun element => element.name == name) =
      some first) : IsFirst (declaredElements (numbered lines)) name first := by
  have hordered := pairwise_number_declaredElements lines
  rcases List.find?_eq_some_iff_append.1 h with ⟨hname, before, behind, hsplit, hbefore⟩
  rw [hsplit] at hordered ⊢
  refine ⟨List.mem_append_right _ List.mem_cons_self, beq_iff_eq.1 hname, ?_⟩
  intro other hother hsame
  rw [List.map_append, List.map_cons, List.pairwise_append, List.pairwise_cons] at hordered
  rcases List.mem_append.1 hother with hmem | hmem
  · have hnot := hbefore other hmem
    rw [hsame, beq_self_eq_true] at hnot
    contradiction
  · rcases List.mem_cons.1 hmem with rfl | hmem
    · exact Nat.le_refl _
    · exact Nat.le_of_lt (hordered.2.1.1 _ (List.mem_map_of_mem hmem))

/-- A pipeline takes its visibility from the elements of the three readings. -/
theorem takesVisibility_of_mem_pipelines
    (h : pipeline ∈ (Kind.pipelines.read switches lines).content.asPipelines) :
    TakesVisibility (returnedElements switches lines) pipeline.name pipeline.visibility := by
  have hvisibility := visibility_of_mem_pipelines switches.newPipelines (numbered lines) h
  rw [firstVisibility?] at hvisibility
  cases hfind : (declaredElements (numbered lines)).find? fun element =>
      element.name == pipeline.name with
  | some first =>
      rw [hfind] at hvisibility
      rw [show pipeline.visibility = first.visibility from hvisibility]
      exact .declared (isFirst_returnedElements (isFirst_of_find? hfind))
  | none =>
      rw [hfind] at hvisibility
      rw [show pipeline.visibility = sketchVisibility from hvisibility]
      refine .undeclared fun element helement => ?_
      simpa using List.find?_eq_none.1 hfind element (mem_returnedElements.1 helement)

end Pipelines

/-! ## Lines that give no element -/

/-- The element that a line outside blocks gives, if it declares one that is read. -/
def elementOn? (line : Nat × List Char) : Option Element :=
  (declaration? elementWords line).bind fun declared => (readDeclared declared).toOption

/-- A keyword of elements introduces the line, but no element is read from it. -/
def isMalformed (line : Nat × List Char) : Bool :=
  (declaration? elementWords line).any fun declared => !(readDeclared declared).isOk

/-- The line has a first word that declares neither an element nor a pipeline nor a block. -/
def isInert (line : List Char) : Bool :=
  !introduces ("pipeline" :: elementWords) line && !isAllBlank line &&
    !startsWith ['{'] (trim line)

/-- A line that declares nothing is idle, and no element is declared on it. -/
theorem isInert_iff {line : List Char} :
    isInert line = true ↔ introduces elementWords line = false ∧ IsIdle line := by
  have hsplit : introduces ("pipeline" :: elementWords) line =
      (isHeader line || introduces elementWords line) := rfl
  simp only [isInert, IsIdle, hsplit, Bool.and_eq_true, Bool.not_eq_true',
    Bool.or_eq_false_iff]
  tauto

theorem elementOn?_of_isMalformed {line : Nat × List Char} (h : isMalformed line = true) :
    elementOn? line = none := by
  rw [isMalformed, Option.any_eq_true] at h
  rcases h with ⟨declared, hdeclared, hread⟩
  rw [elementOn?, hdeclared, Option.bind_some]
  cases hresult : readDeclared declared with
  | error fault => rfl
  | ok element =>
      rw [hresult] at hread
      contradiction

/-- A line that no keyword introduces declares nothing. -/
theorem declaration?_eq_none {keywords : List String} {line : Nat × List Char}
    (h : introduces keywords line.2 = false) : declaration? keywords line = none := by
  rw [← Option.not_isSome_iff_eq_none, isSome_declaration?, h]
  exact Bool.false_ne_true

theorem elementOn?_of_isInert {line : List Char} (h : isInert line = true) (number : Nat) :
    elementOn? (number, line) = none := by
  rw [elementOn?, declaration?_eq_none (isInert_iff.1 h).1]
  rfl

/-- A brace at the head of a line is at the head of its first word. -/
theorem head?_firstWord_of_brace {line : List Char} (h : startsWith ['{'] (trim line) = true) :
    (firstWord line).toList.head? = some '{' := by
  rcases Option.isSome_iff_exists.1 h with ⟨rest, hrest⟩
  have hsolid : isSolid '{' = true := by decide
  rw [firstWord, afterPrefix_eq_some.1 hrest, List.singleton_append,
    List.takeWhile_cons_of_pos hsolid, String.toList_ofList, List.head?_cons]

/-- A line with a keyword of elements is idle outside blocks. -/
theorem isIdle_of_isMalformed {line : Nat × List Char} (h : isMalformed line = true) :
    IsIdle line.2 := by
  rw [isMalformed, Option.any_eq_true] at h
  rcases h with ⟨declared, hdeclared, -⟩
  have hkeywords : ∀ keyword ∈ elementWords, IsKeyword keyword := by decide
  have hfirst : firstWord line.2 ∈ elementWords := by
    rw [← introduces_iff hkeywords, ← isSome_declaration? elementWords line, hdeclared]
    rfl
  refine ⟨?_, ?_, ?_⟩
  · rw [Bool.eq_false_iff, ne_eq, isHeader_iff]
    intro hpipeline
    rw [hpipeline] at hfirst
    exact absurd hfirst (by decide)
  · rw [Bool.eq_false_iff]
    intro hblank
    have hempty : trim line.2 = [] := trim_eq_nil_iff.2 (List.all_eq_true.1 hblank)
    rw [firstWord, hempty] at hfirst
    exact absurd hfirst (by decide)
  · rw [Bool.eq_false_iff]
    intro hbrace
    have hheads : ∀ word ∈ elementWords, word.toList.head? ≠ some '{' := by decide
    exact hheads _ hfirst (head?_firstWord_of_brace hbrace)

/-! ## A line replaced -/

theorem declaredElements_eq (lines : List (Nat × List Char)) :
    declaredElements lines = (linesOutsideBlocks lines).filterMap elementOn? := by
  rw [declaredElements, elementsOf, records_collect, declarations, List.filterMap_filterMap]
  rfl

/-- The blocks that a reading opens are among the blocks of the lines. -/
theorem mem_blocks_of_mem_openBlocks {readBlocks : Bool} {lines : List (List Char)} {block : Block}
    (h : block ∈ openBlocks readBlocks (numbered lines)) : block ∈ blocks lines := by
  rw [openBlocks, map_snd_numbered] at h
  split at h
  · exact h
  · contradiction

section Replaced

variable {before after : List (List Char)} {line other : List Char}

/-- Lines that give nothing may stand for each other. -/
theorem filterMap_replace {α : Type} {give : Nat × List Char → Option α}
    (hline : give (before.length + 1, line) = none)
    (hother : give (before.length + 1, other) = none) :
    (numbered (before ++ other :: after)).filterMap give =
      (numbered (before ++ line :: after)).filterMap give := by
  rw [numbered_around, numbered_around, List.filterMap_append, List.filterMap_append,
    List.filterMap_cons_none hline, List.filterMap_cons_none hother]

/-- A block has the same children, since it does not own the line that is replaced. -/
theorem childDeclarations_replace {block : Block}
    (houtside : isOwned (blocks (before ++ line :: after)) before.length = false)
    (hblock : block ∈ blocks (before ++ line :: after)) :
    childDeclarations block (numbered (before ++ other :: after)) =
      childDeclarations block (numbered (before ++ line :: after)) := by
  have hnot : block.owns before.length = false := by
    rw [isOwned, List.any_eq_false] at houtside
    simpa using houtside block hblock
  rw [childDeclarations, childDeclarations, ← List.filterMap_eq_filter]
  congr 1
  exact filterMap_replace (by simp [Option.guard, hnot]) (by simp [Option.guard, hnot])

variable (hline : IsIdle line) (hother : IsIdle other)
  (houtside : isOwned (blocks (before ++ line :: after)) before.length = false)
include hline hother houtside

/-- Lines that give no element may stand for each other in the reading of elements. -/
theorem declaredElements_replace (hnone : elementOn? (before.length + 1, line) = none)
    (hnone' : elementOn? (before.length + 1, other) = none) :
    declaredElements (numbered (before ++ other :: after)) =
      declaredElements (numbered (before ++ line :: after)) := by
  rw [declaredElements_eq, declaredElements_eq, linesOutsideBlocks, linesOutsideBlocks,
    map_snd_numbered, map_snd_numbered, blocks_replace hline hother houtside,
    List.filterMap_filter, List.filterMap_filter]
  exact filterMap_replace (by simp [hnone]) (by simp [hnone'])

/-- Lines that give no element may stand for each other in the reading of pipelines. -/
theorem pipelines_replace (readBlocks : Bool)
    (hdeclared : declaredElements (numbered (before ++ other :: after)) =
      declaredElements (numbered (before ++ line :: after))) :
    pipelines readBlocks (numbered (before ++ other :: after)) =
      pipelines readBlocks (numbered (before ++ line :: after)) := by
  have hopen : openBlocks readBlocks (numbered (before ++ other :: after)) =
      openBlocks readBlocks (numbered (before ++ line :: after)) := by
    rw [openBlocks, openBlocks, map_snd_numbered, map_snd_numbered,
      blocks_replace hline hother houtside]
  have hundeclared (text : List Char) (hidle : IsIdle text) :
      declaration? ["pipeline"] (before.length + 1, text) = none :=
    declaration?_eq_none ((introduces_pipeline text).trans hidle.1)
  have hheaders : headers readBlocks (numbered (before ++ other :: after)) =
      headers readBlocks (numbered (before ++ line :: after)) := by
    rw [headers, headers, hopen, declarations, declarations, List.filterMap_filter,
      List.filterMap_filter]
    exact filterMap_replace (by simp [hundeclared line hline]) (by simp [hundeclared other hother])
  have hread (header : Declaration) :
      readPipeline (declaredElements (numbered (before ++ line :: after)))
          (openBlocks readBlocks (numbered (before ++ line :: after)))
          (numbered (before ++ other :: after)) header =
        readPipeline (declaredElements (numbered (before ++ line :: after)))
          (openBlocks readBlocks (numbered (before ++ line :: after)))
          (numbered (before ++ line :: after)) header := by
    unfold readPipeline
    cases readHeader (declaredElements (numbered (before ++ line :: after))) header with
    | error fault => rfl
    | ok pipeline =>
        cases hfind : (openBlocks readBlocks (numbered (before ++ line :: after))).find?
            fun block => block.header == header.line - 1 with
        | none => rfl
        | some block =>
            have hblock : block ∈ blocks (before ++ line :: after) :=
              mem_blocks_of_mem_openBlocks (List.mem_of_find?_eq_some hfind)
            simp only [children, childDeclarations_replace houtside hblock]
  rw [pipelines_eq, pipelines_eq, hdeclared, hopen, hheaders]
  simp only [hread]

end Replaced

/-! ## Agreement -/

/-- The readings of the positioned kinds depend on the declared elements alone. -/
theorem content_positioned_congr (switches : Switches) {lines others : List (List Char)}
    (h : declaredElements (numbered others) = declaredElements (numbered lines)) :
    ∀ kind ∈ Kind.positioned,
      (kind.read switches others).content = (kind.read switches lines).content := by
  have hsame (kinds : List ElementKind) :
      (elementsOf kinds (numbered others)).records =
        (elementsOf kinds (numbered lines)).records := by
    rw [records_elementsOf, records_elementsOf, h]
  intro kind hkind
  simp only [Kind.positioned, List.mem_cons, List.not_mem_nil, or_false] at hkind
  rcases hkind with rfl | rfl | rfl <;> exact congrArg Content.elements (hsame _)

/-- What the reading of pipelines has in common with the readings of elements. -/
structure AgreesOnVisibilities (switches : Switches) (lines : List (List Char)) : Prop where
  /-- No two elements have the same line, so that the first one of a name is unique. -/
  apart : ((returnedElements switches lines).map Element.number).Nodup
  /-- A pipeline has the visibility of its name among the elements. -/
  visibility : ∀ pipeline ∈ (Kind.pipelines.read switches lines).content.asPipelines,
    TakesVisibility (returnedElements switches lines) pipeline.name pipeline.visibility
  /-- The children have the visibility of their pipeline. -/
  children : ∀ pipeline ∈ (Kind.pipelines.read switches lines).content.asPipelines,
    ∀ child ∈ pipeline.children, child.visibility = pipeline.visibility
  /--
  A line on which an element is declared but not read may say anything else that declares
  neither an element nor a pipeline: no reading returns other elements or pipelines.
  -/
  malformed : ∀ (before after : List (List Char)) (line other : List Char),
    lines = before ++ line :: after →
      isMalformed (before.length + 1, line) = true →
      isOwned (blocks lines) before.length = false → isInert other = true →
        (∀ kind ∈ Kind.positioned,
          (kind.read switches (before ++ other :: after)).content =
            (kind.read switches lines).content) ∧
        Kind.pipelines.read switches (before ++ other :: after) =
          Kind.pipelines.read switches lines

/-- The readings of pipelines and of elements agree on every list of lines. -/
theorem agreesOnVisibilities (switches : Switches) (lines : List (List Char)) :
    AgreesOnVisibilities switches lines where
  apart := nodup_number_returnedElements switches lines
  visibility := fun _ h => takesVisibility_of_mem_pipelines h
  children := fun _ h => (mem_pipelines h).childVisibility
  malformed := by
    rintro before after line other rfl hmalformed houtside hinert
    have hline := isIdle_of_isMalformed hmalformed
    have hother := (isInert_iff.1 hinert).2
    have hdeclared := declaredElements_replace hline hother houtside
      (elementOn?_of_isMalformed hmalformed) (elementOn?_of_isInert hinert _)
    have hpipelines := pipelines_replace hline hother houtside switches.newPipelines hdeclared
    refine ⟨content_positioned_congr switches hdeclared, ?_⟩
    simp only [Kind.read, Kind.contents, hpipelines]

/--
Of two components the first one has half a position only: the pipeline has the visibility of
the second one, as if the first were another word.
-/
theorem agreesOnVisibilities_tea :
    let faulty := "component Tea [0.6]".toList
    let rest := ["component Tea [0.4, 0.2]".toList, "pipeline Tea".toList]
    isMalformed (1, faulty) = true ∧ isOwned (blocks (faulty :: rest)) 0 = false ∧
      isInert "Tea".toList = true ∧
      (Kind.pipelines.read .allOn (faulty :: rest)).content.asPipelines.map
        Pipeline.visibility = [.float (.ofDecimal ⟨false, 4, -1⟩)] ∧
      Kind.pipelines.read .allOn ("Tea".toList :: rest) =
        Kind.pipelines.read .allOn (faulty :: rest) ∧
      AgreesOnVisibilities .allOn (faulty :: rest) := by
  intro faulty rest
  have hagrees := agreesOnVisibilities .allOn (faulty :: rest)
  have hmalformed : isMalformed (1, faulty) = true := by decide +kernel
  have houtside : isOwned (blocks (faulty :: rest)) 0 = false := by decide +kernel
  have hinert : isInert "Tea".toList = true := by decide +kernel
  refine ⟨hmalformed, houtside, hinert, by decide +kernel, ?_, hagrees⟩
  exact (hagrees.malformed [] rest faulty _ rfl hmalformed houtside hinert).2

end Wardley
