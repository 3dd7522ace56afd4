import Wardley.Proofs.Construct.PlainNames
import Wardley.Proofs.Construct.Reordering
import Wardley.Proofs.Parsing.Reordering
import Wardley.Proofs.Resolution.Precedence
import Wardley.Proofs.Text.Lines

/-!
# Names in two spellings

The element that a name declares has the collapsed name, since the search for decorators
collapses the body of a declaration.  A link keeps the names of its ends as they are
written.  A link from a name to itself is therefore drawn exactly if the words of the name
are separated by single spaces.

Main definitions:

- `spelledText`: the declaration of a name and a link from the name to itself.

Main results:

- `declaredElements_spelledLines`, `links_spelledLines`: what the two lines say.
- `position?_parse_spelledText`: only the collapsed name has a place.
- `parse_spelled`: when the link from a declared name to itself is drawn.
-/

namespace Wardley

open Construct Notation Text

/-! ## Texts -/

/-- A line without slashes has no line comment. -/
theorem cutLineComment_of_notMem {line : List Char} (h : '/' ∉ line) :
    cutLineComment line = line := by
  rw [cutLineComment, before, breakAt_eq_none List.mem_cons_self h]
  exact ite_self line

/-- Lines without slashes have no comments. -/
theorem eraseLines_of_notMem {lines : List (List Char)} (h : ∀ line ∈ lines, '/' ∉ line) :
    eraseLines false lines = lines := by
  rw [eraseLines_of_not_isInfix]
  · exact (List.map_congr_left fun line hline => cutLineComment_of_notMem (h line hline)).trans
      (List.map_id' lines)
  · intro line hline hpart
    exact h line hline (hpart.subset List.mem_cons_self)

/-- The two lines of a declaration and a link. -/
def spelledLines (name : List Char) : List (List Char) :=
  [declaringLine name, linkingLine name name]

section Texts

variable {name : List Char} (h : IsPlain name)
include h

/-- The lines that spell a name hold no other line, block or comment. -/
theorem notMem_spelledLines {c : Char} (hc : c ∈ ['\n', '{', '/']) :
    ∀ line ∈ spelledLines name, c ∉ line := by
  intro line hline
  have hsubset : ['\n', '{', '/'] ⊆ markup := by decide
  have harrow : ['\n', '{', '/'].all (· ∉ ['-', '>']) := by decide
  rcases List.mem_pair.1 hline with rfl | rfl
  · exact h.notMem_declaringLine hc
  · exact h.notMem_linkingLine h (hsubset hc) (List.all_iff_forall_prop.1 harrow c hc)

/-- The text of the two lines has these lines and no comments. -/
theorem cleanLines_spelledLines :
    cleanLines (List.intercalate ['\n'] (spelledLines name)) = spelledLines name := by
  have hne : spelledLines name ≠ [] := List.cons_ne_nil _ _
  rw [cleanLines, lines_intercalate hne (notMem_spelledLines h (by decide))]
  exact eraseLines_of_notMem (notMem_spelledLines h (by decide))

/-- Only component keywords declare something in the two lines. -/
theorem declarations_spelledLines {keywords : List String} (hsubset : keywords ⊆ reservedKeywords)
    (hcomponent : "component" ∉ keywords) :
    declarations keywords (numbered (spelledLines name)) = [] := by
  have hwords := fun keyword hkeyword => isKeyword_reservedKeywords keyword (hsubset hkeyword)
  refine declarations_eq_nil hwords ?_
  intro line hline
  rw [spelledLines, numbered, numberFrom_cons, numberFrom_cons, numberFrom_nil] at hline
  rcases List.mem_pair.1 hline with rfl | rfl
  · rwa [h.firstWord_declaringLine]
  · exact fun hmem => h.firstWord_linkingLine h (hsubset hmem)

/-- The element that the two lines declare. -/
def spelledElement (name : List Char) : Element where
  name := String.ofList (collapse name)
  maturity := .float half
  visibility := .float half
  line := some (.int 1)

/-- The lines that spell a name declare one component. -/
theorem declarations_elementWords_spelledLines :
    declarations elementWords (numbered (spelledLines name)) =
      [⟨1, "component", name ++ ' ' :: centre⟩] := by
  have hwords : ∀ keyword ∈ elementWords, IsKeyword keyword := by decide
  have hsubset : elementWords ⊆ reservedKeywords := by decide
  have hword : "component" ∈ elementWords := by decide
  have hdeclares : declaration? elementWords (1, declaringLine name) =
      some ⟨1, "component", name ++ ' ' :: centre⟩ :=
    (declaration?_eq_some_iff hwords).2 ⟨rfl, hword, h.keywordBody?_declaringLine⟩
  have hlinks : declarations elementWords [(2, linkingLine name name)] = [] := by
    refine declarations_eq_nil hwords fun line hline => ?_
    rw [List.mem_singleton.1 hline]
    exact fun hmem => h.firstWord_linkingLine h (hsubset hmem)
  rw [spelledLines, numbered, numberFrom_cons, declarations, List.filterMap_cons_some hdeclares]
  exact congrArg _ hlinks

/-- The lines that spell a name open no block. -/
theorem brace_notMem_numbered : ∀ line ∈ numbered (spelledLines name), '{' ∉ line.2 := by
  intro line hline
  exact notMem_spelledLines h (by decide) _ (snd_mem_of_mem_numberFrom hline)

/-- The name is declared once, in its collapsed form. -/
theorem declaredElements_spelledLines :
    declaredElements (numbered (spelledLines name)) = [spelledElement name] := by
  have hplain : ∀ c ∈ name, c ∉ ['(', '[', ']'] := by
    intro c hc hmem
    have hsubset : ['(', '[', ']'] ⊆ markup := by decide
    exact h.not_mem c hc (hsubset hmem)
  have hread : readDeclared ⟨1, "component", name ++ ' ' :: centre⟩ = .ok (spelledElement name) :=
    readElement_centre h.words_ne_nil hplain "component" .component (.int 1)
  rw [declaredElements, elementsOf, linesOutsideBlocks_of_not_mem (brace_notMem_numbered h)]
  change (collect readDeclared (declarations elementWords _)).records = _
  rw [declarations_elementWords_spelledLines h, records_collect, List.filterMap_cons, hread]
  rfl

/-- The link that the two lines hold. -/
def spelledLink (name : List Char) : Link where
  start := String.ofList name
  finish := String.ofList name
  line := some (.int 2)

/-- The lines that spell a name hold one link. -/
theorem links_spelledLines (keepContext : Bool) :
    links keepContext (numbered (spelledLines name)) = [spelledLink name] := by
  have hdeclaring : isReserved (declaringLine name) = true := by
    rw [isReserved_iff, h.firstWord_declaringLine]
    decide
  have hlinking : isReserved (linkingLine name name) = false := by
    rw [Bool.eq_false_iff, Ne, isReserved_iff]
    exact h.firstWord_linkingLine h
  simp [links, spelledLines, numbered, numberFrom_cons, hdeclaring, hlinking,
    h.readLink?_arrow h keepContext 2, spelledLink]

end Texts

/-! ## Maps -/

/-- The text of a declaration of a name and a link from the name to itself. -/
def spelledText (name : String) : String :=
  String.ofList (List.intercalate ['\n'] (spelledLines name.toList))

/-- The place in the centre of a map. -/
def centrePosition : Position := ⟨.float half, .float half, false⟩

section Maps

variable (switches : Switches) {name : String} (h : IsPlain name.toList)
include h

/-- The text that spells a name holds one link. -/
theorem links_parse_spelledText :
    (parse switches (spelledText name)).links = [spelledLink name.toList] := by
  rw [parse_eq_unify, spelledText, String.toList_ofList, cleanLines_spelledLines h]
  exact links_spelledLines h switches.linkContext

/-- Only the collapsed name has a place. -/
theorem position?_parse_spelledText (asked : String) :
    (parse switches (spelledText name)).position? asked =
      if String.ofList (collapse name.toList) = asked then some centrePosition else none := by
  rw [parse_eq_unify, spelledText, String.toList_ofList, cleanLines_spelledLines h,
    Map.position?_eq]
  let lines := numbered (spelledLines name.toList)
  let draft := draftOf switches lines
  have hevolved : (evolutions lines).records = [] := by
    rw [evolutions, declarations_spelledLines h (by decide) (by decide)]
    rfl
  have hpipelines : (pipelines switches.newPipelines lines).records = [] := by
    rw [pipelines_of_not_mem (brace_notMem_numbered h),
      declarations_spelledLines h (by decide) (by decide)]
    rfl
  have hprojections : draft.unify.projections = [] := by
    change ((evolutions lines).records.map Draft.unifyEvolved).filterMap _ = []
    rw [hevolved]
    rfl
  have hchildren : draft.unify.placedChildren = [] := by
    change ((pipelines switches.newPipelines lines).records.map Draft.unifyPipeline).flatMap _ = []
    rw [hpipelines]
    rfl
  have helements : draft.unify.elements = [draft.unifyElement (spelledElement name.toList)] := by
    have hperm := (Draft.elements_unify_perm draft).trans
      ((declared_draftOf_perm switches lines).map draft.unifyElement)
    rw [declaredElements_spelledLines h] at hperm
    exact List.perm_singleton.1 hperm
  have hplaced : (draft.unifyElement (spelledElement name.toList)).placed =
      (String.ofList (collapse name.toList), centrePosition) := rfl
  rw [hprojections, hchildren, helements, List.map_singleton, hplaced]
  by_cases hasked : String.ofList (collapse name.toList) = asked <;> simp [hasked]

/-- A link from a declared name to itself is drawn exactly if single spaces part its words. -/
theorem parse_spelled :
    (parse switches (spelledText name)).links = [spelledLink name.toList] ∧
      ((parse switches (spelledText name)).resolvedLinks =
          [⟨spelledLink name.toList, centrePosition, centrePosition⟩] ↔
        collapse name.toList = name.toList) ∧
      ((parse switches (spelledText name)).danglingLinks = [] ↔
        collapse name.toList = name.toList) := by
  let map := parse switches (spelledText name)
  change map.links = _ ∧ (map.resolvedLinks = _ ↔ _) ∧ (map.danglingLinks = [] ↔ _)
  have hlinks : map.links = [spelledLink name.toList] := links_parse_spelledText switches h
  have hname : String.ofList (collapse name.toList) = name ↔
      collapse name.toList = name.toList := by
    rw [← String.toList_inj, String.toList_ofList]
  have hplace : map.index.get? name =
      if collapse name.toList = name.toList then some centrePosition else none := by
    rw [← if_congr hname rfl rfl]
    exact position?_parse_spelledText switches h name
  have hstart : (spelledLink name.toList).start = name := String.ofList_toList
  have hfinish : (spelledLink name.toList).finish = name := String.ofList_toList
  refine ⟨hlinks, ?_, ?_⟩
  · rw [Map.resolvedLinks, hlinks]
    simp only [List.filterMap_cons, List.filterMap_nil, Link.resolve?, hstart, hfinish, hplace]
    by_cases hcollapse : collapse name.toList = name.toList <;> simp [hcollapse]
  · rw [Map.danglingLinks, hlinks]
    simp only [List.filter_cons, List.filter_nil, hstart, hfinish, hplace]
    by_cases hcollapse : collapse name.toList = name.toList <;> simp [hcollapse]

end Maps

/-- A name of two words with a single space between them is drawn. -/
theorem parse_spelled_single_space :
    let name := "hot - water"
    let map := parse .allOn (spelledText name)
    IsPlain name.toList ∧ map.links = [spelledLink name.toList] ∧
      (map.resolvedLinks = [⟨spelledLink name.toList, centrePosition, centrePosition⟩] ↔
        collapse name.toList = name.toList) ∧
      (map.danglingLinks = [] ↔ collapse name.toList = name.toList) := by
  intro name map
  have hplain : IsPlain name.toList := by decide
  exact ⟨hplain, parse_spelled .allOn hplain⟩

/-- A name of two words with two spaces between them is declared, but not drawn. -/
theorem double_space_dangles :
    let name := "hot  water"
    let map := parse .allOn (spelledText name)
    spelledText name = "component hot  water [0.5, 0.5]\nhot  water->hot  water" ∧
      IsPlain name.toList ∧ map.elements.map Element.name = ["hot water"] ∧
      map.resolvedLinks = [] ∧ map.danglingLinks = [spelledLink name.toList] := by
  decide +kernel

end Wardley
