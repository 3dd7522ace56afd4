import Wardley.Construct.Evolutions
import Wardley.Construct.Links
import Wardley.Construct.Methods
import Wardley.Construct.Pipelines
import Wardley.Construct.Regions
import Wardley.Construct.Remarks
import Wardley.Proofs.Notation.Declarations
import Wardley.Proofs.Success

/-!
# What declarations give

A declaration that is read without a fault gives a record that carries the number of
its line and, where the record has a name, a name that is not empty and trimmed.  For
every construct one lemma says what a successful reading guarantees.

Main results:

- `readElement_eq_ok`, `readHeader_eq_ok`, `readChild_eq_ok`: elements and pipelines.
- `readEvolution_eq_ok`, `readLink?_eq_some`: evolutions and links.
- `readNote_eq_ok`, `readAnnotation_eq_ok`, `readUrl_eq_ok`, `readRegion_eq_ok`,
  `readMethod_eq_ok`: markings.
-/

namespace Wardley
namespace Construct

open Notation Text

/-! ## Names within a body -/

/-- The name split off a place is trimmed. -/
theorem trim_name_of_splitPosition {body : List Char} {placement : Placement}
    (h : splitPosition body = .ok placement) : trim placement.name = placement.name := by
  unfold splitPosition at h
  split at h
  · cases h
    exact trim_trim body
  · split at h
    · cases h
    · rcases bind_eq_ok.1 h with ⟨position, -, hplacement⟩
      rcases pure_eq_ok.1 hplacement with rfl
      exact trim_trim _

/-- Dropping the word inertia off a trimmed text leaves a trimmed text. -/
theorem trim_dropInertia {text : List Char} (h : trim text = text) :
    trim (dropInertia text).1 = (dropInertia text).1 := by
  unfold dropInertia
  split
  · rfl
  · split
    · exact trim_trim _
    · exact h
  · exact h

/-- A trimmed text that is not empty is a name. -/
theorem isName_of_isEmpty {text : List Char} (hne : ¬ text.isEmpty = true)
    (htrim : trim text = text) : IsName (String.ofList text) :=
  isName_ofList (by simpa using hne) htrim

/-! ## Elements and pipelines -/

/-- An element as it is declared: named, on its line, and not related to anything yet. -/
structure IsDeclared (kind : ElementKind) (line : Number) (element : Element) : Prop where
  name : IsName element.name
  kind_eq : element.kind = kind
  line_eq : element.line = some line
  evolving_eq : element.evolving = false
  evolveMaturity_eq : element.evolveMaturity = none

/-- An element that is read is declared by its keyword on its line. -/
theorem readElement_eq_ok {keyword : String} {kind : ElementKind} {line : Number}
    {body : List Char} {element : Element}
    (h : readElement keyword kind line body = .ok element) : IsDeclared kind line element := by
  unfold readElement at h
  simp only [bind_eq_ok, guard_eq_ok, pure_eq_ok] at h
  rcases h with ⟨placement, hplacement, ⟨label, rest⟩, -, hne, rfl⟩
  have htrim := trim_name_of_splitPosition hplacement
  refine ⟨isName_of_isEmpty hne ?_, rfl, rfl, rfl, rfl⟩
  cases hposition : placement.position with
  | none => exact trim_dropInertia htrim
  | some position => exact htrim

/-- A pipeline header gives a named pipeline on the line of the header. -/
theorem readHeader_eq_ok {declared : List Element} {header : Declaration} {pipeline : Pipeline}
    (h : readHeader declared header = .ok pipeline) :
    IsName pipeline.name ∧ pipeline.line = some (.int header.line) ∧ pipeline.children = [] := by
  unfold readHeader at h
  simp only [bind_eq_ok, guard_eq_ok, pure_eq_ok] at h
  rcases h with ⟨placement, hplacement, hne, rfl⟩
  refine ⟨isName_of_isEmpty hne ?_, rfl, rfl⟩
  exact trim_dropInertia (trim_name_of_splitPosition hplacement)

/-- A child has the visibility of its pipeline. -/
theorem readChild_eq_ok {visibility : Number} {declared : Declaration} {child : PipelineChild}
    (h : readChild visibility declared = .ok child) :
    IsName child.name ∧ child.line = some (.int declared.line) ∧
      child.visibility = visibility := by
  unfold readChild at h
  split at h
  · cases h
  · simp only [bind_eq_ok, guard_eq_ok, pure_eq_ok] at h
    rcases h with ⟨hne, maturity, -, ⟨label, rest⟩, -, rfl⟩
    exact ⟨isName_of_isEmpty hne (trim_trim _), rfl, rfl⟩

/-! ## Evolutions -/

/-- An evolution that is read has a name and knows its line. -/
theorem readEvolution_eq_ok {declared : Declaration} {evolved : Evolved}
    (h : readEvolution declared = .ok evolved) :
    IsName evolved.name ∧ evolved.line = some (.int declared.line) := by
  unfold readEvolution at h
  rcases bind_eq_ok.1 h with ⟨⟨label, body⟩, -, h⟩
  dsimp only at h
  split at h
  · exact absurd h throw_ne_ok
  · rename_i target last htarget
    simp only [bind_eq_ok, guard_eq_ok, pure_eq_ok] at h
    rcases h with ⟨hne, maturity, -, rfl⟩
    refine ⟨isName_of_isEmpty hne ?_, rfl⟩
    split <;> exact trim_trim _

/-! ## Links -/

/-- An operator stands before the text behind it. -/
theorem operatorsAt_suffix {text finish : List Char} {operator : Operator}
    (h : (operator, finish) ∈ operatorsAt text) : finish <:+ text := by
  unfold operatorsAt at h
  split at h
  · simp only [List.mem_singleton, Prod.mk.injEq] at h
    rw [h.2]
    exact (List.suffix_cons _ _).trans (List.suffix_cons _ _)
  · rename_i rest
    have hquoted : (takeQuoted rest).2 <:+ rest := by
      unfold takeQuoted
      split
      · rename_i inner
        split
        · rename_i c after hdrop
          have hinner : c :: after <:+ inner := by
            rw [← hdrop]
            exact List.dropWhile_suffix _
          exact ((List.suffix_cons c after).trans hinner).trans (List.suffix_cons _ _)
        · exact List.suffix_refl _
      · exact List.suffix_refl _
    have hbehind : finish <:+ (takeQuoted rest).2 := by
      dsimp only at h
      split at h <;> rename_i hafter
      · simp only [List.mem_cons, Prod.mk.injEq, List.not_mem_nil, or_false] at h
        rcases h with h | h
        · rw [h.2, hafter]
          exact (List.suffix_cons _ _).trans (List.suffix_cons _ _)
        · rw [h.2, hafter]
          exact List.suffix_cons _ _
      · simp only [List.mem_singleton, Prod.mk.injEq] at h
        rw [h.2, hafter]
        exact List.suffix_cons _ _
      · simp only [List.mem_singleton, Prod.mk.injEq] at h
        rw [h.2, hafter]
        exact List.suffix_cons _ _
      · simp at h
    exact (hbehind.trans hquoted).trans (List.suffix_cons _ _)
  · simp at h

/-- What follows the operator of a link ends the text and is not empty. -/
theorem findOperator_suffix {text before finish : List Char} {operator : Operator}
    (h : findOperator text = some (before, operator, finish)) :
    finish <:+ text ∧ finish ≠ [] := by
  induction text generalizing before with
  | nil => simp [findOperator] at h
  | cons c rest ih =>
      unfold findOperator at h
      split at h
      · rename_i found tail hfind
        simp only [Option.some.injEq, Prod.mk.injEq] at h
        rcases h with ⟨-, -, rfl⟩
        refine ⟨operatorsAt_suffix (List.mem_of_find?_eq_some hfind), ?_⟩
        simpa using List.find?_some hfind
      · rcases Option.map_eq_some_iff.1 h with ⟨⟨b, o, f⟩, hrest, heq⟩
        simp only [Prod.mk.injEq] at heq
        rcases heq with ⟨-, rfl, rfl⟩
        rcases ih hrest with ⟨hsuffix, hne⟩
        exact ⟨hsuffix.trans (List.suffix_cons c rest), hne⟩

/-- A link that is read joins two names and knows its line. -/
theorem readLink?_eq_some {keepContext : Bool} {number : Nat} {line : List Char} {link : Link}
    (h : readLink? keepContext number line = some link) :
    IsName link.start ∧ IsName link.finish ∧ link.line = some (.int number) := by
  unfold readLink? at h
  dsimp only at h
  split at h
  · cases h
  · rename_i c rest htext
    split at h
    · cases h
    · rename_i before operator finish hfind
      cases h
      have htrim : trim (c :: rest) = c :: rest := by
        rw [← htext]
        exact trim_trim _
      rcases trim_eq_self_iff.1 htrim with ⟨hhead, hlast⟩
      rcases findOperator_suffix hfind with ⟨hsuffix, hne⟩
      refine ⟨isName_trim ?_, isName_trim ?_, rfl⟩
      · intro hnil
        have hblank := trim_eq_nil_iff.1 hnil c List.mem_cons_self
        simp [hhead c rfl] at hblank
      · intro hnil
        have hblank := trim_eq_nil_iff.1 hnil _ (List.getLast_mem hne)
        rcases hsuffix.trans (List.suffix_cons c rest) with ⟨start, hstart⟩
        have hsame : (c :: rest).getLast? = some (finish.getLast hne) := by
          rw [← hstart, List.getLast?_append_of_ne_nil _ hne, List.getLast?_eq_some_getLast hne]
        simp [hlast _ hsame] at hblank

/-! ## Markings -/

/-- A note that is read has a text and knows its line. -/
theorem readNote_eq_ok {declared : Declaration} {note : Note}
    (h : readNote declared = .ok note) :
    IsName note.text ∧ note.line = some (.int declared.line) := by
  unfold readNote at h
  split at h
  · exact absurd h throw_ne_ok
  · simp only [bind_eq_ok, guard_eq_ok, pure_eq_ok] at h
    rcases h with ⟨hne, position, -, rfl⟩
    exact ⟨isName_of_isEmpty hne (trim_trim _), rfl⟩

/-- An annotation marks at least one place. -/
theorem readAnnotation_eq_ok {declared : Declaration} {marked : Annotation}
    (h : readAnnotation declared = .ok marked) :
    marked.occurrences ≠ [] ∧ marked.line = some (.int declared.line) := by
  unfold readAnnotation at h
  simp only [bind_eq_ok, guard_eq_ok, pure_eq_ok] at h
  rcases h with ⟨-, number, -, -, ⟨places, text⟩, -, hne, occurrences, hplaces, rfl⟩
  refine ⟨?_, rfl⟩
  have hlength := (mapM_eq_ok_iff.1 hplaces).length_eq
  intro hnil
  simp_all

/-- An address that is read has a name and knows its line. -/
theorem readUrl_eq_ok {declared : Declaration} {url : Url}
    (hbody : trim declared.body = declared.body) (h : readUrl declared = .ok url) :
    IsName url.name ∧ url.line = some (.int declared.line) := by
  unfold readUrl at h
  split at h
  · rename_i name address hsplit
    by_cases hne : name.isEmpty
    · simp [hne] at h
    · simp only [hne] at h
      cases h
      refine ⟨isName_of_isEmpty hne ?_, rfl⟩
      unfold splitBrackets? at hsplit
      split at hsplit
      · split at hsplit
        · cases hsplit
        · simp only [Option.some.injEq, Prod.mk.injEq] at hsplit
          rw [← hsplit.1]
          apply trim_trimEnd
          intro c hc
          have hhead : c ∈ declared.body.head? := by
            rw [← List.takeWhile_append_dropWhile (p := isNoBracket) (l := declared.body)]
            exact List.mem_head?_append_of_mem_head? hc
          exact (trim_eq_self_iff.1 hbody).1 c hhead
      · cases hsplit
  · cases h

/-- A region that is read knows its line, and has a name where one is required. -/
theorem readRegion_eq_ok {options : RegionOptions} {declared : Declaration} {region : Region}
    (h : readRegion options declared = .ok region) :
    (options.requireName = true → IsName region.name) ∧ region.line = declared.line := by
  unfold readRegion at h
  split at h
  · exact absurd h throw_ne_ok
  · simp only [bind_eq_ok, guard_eq_ok] at h
    rcases h with ⟨hne, coordinates, -, h⟩
    have hname : ∀ name : List Char, options.requireName = true →
        ¬ (options.requireName && (trim name).isEmpty) = true →
        IsName (String.ofList (trim name)) := by
      intro name hrequire hkept
      exact isName_of_isEmpty (by simpa [hrequire] using hkept) (trim_trim name)
    -- the size is read only where the options admit one
    split at h
    all_goals
      rcases bind_eq_ok.1 h with ⟨size, -, hregion⟩
      rcases pure_eq_ok.1 hregion with rfl
      exact ⟨fun hrequire => hname _ hrequire hne, rfl⟩

/-- A method that is read has a name and knows its line. -/
theorem readMethod_eq_ok {declared : Declaration} {method : Method}
    (hbody : trim declared.body = declared.body) (h : readMethod declared = .ok method) :
    IsName method.name ∧ method.line = some (.int declared.line) := by
  unfold readMethod at h
  by_cases hne : declared.body.isEmpty
  · simp [hne] at h
  · simp only [hne] at h
    cases h
    exact ⟨isName_of_isEmpty hne hbody, rfl⟩

end Construct
end Wardley
