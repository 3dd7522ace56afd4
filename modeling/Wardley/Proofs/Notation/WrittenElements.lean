import Mathlib.Data.Bool.AllAny
import Wardley.Proofs.Notation.Clauses
import Wardley.Proofs.Notation.Numerals

/-!
# Written elements

A declared element is written as a name, perhaps its place, and clauses: a label, decorator
groups, the word `inertia` and an address.  A space stands before each clause, and a written
name, its place and the clauses that are kept have no other blanks to collapse.

Main definitions:

- `Clause`: the clauses behind the name and the place of an element.
- `WrittenElement`: a written element with its `body` and its `element`.
- `WrittenElement.IsReadable`: a written element whose parts can be told apart.

Main results:

- `words_kept`: the words that are left when addresses and groups are taken out.
- `IsReadable.isCollapsed_kept`: the name, the place and the kept clauses are collapsed.
- `kept_cases`: at most a label and the bare word are kept, in either order.
-/

namespace Wardley
namespace Notation

open Text

/-! ## Clauses -/

/-- What may be written behind the name and the place of an element. -/
inductive Clause where
  | label (x y : Numeral)
  | group (first : Mark) (others : List Mark)
  | inertia
  | url (name : List Char)

namespace Clause

/-- A clause as it is written. -/
def text : Clause → List Char
  | label x y => labelText (pairText x y)
  | group first others => groupText (first :: others)
  | inertia => "inertia".toList
  | url name => urlText name

/-- The text of a label clause. -/
@[simp] theorem text_label (x y : Numeral) : (label x y).text = labelText (pairText x y) := rfl

/-- The text of the inertia clause. -/
@[simp] theorem text_inertia : inertia.text = "inertia".toList := rfl

/-- The text of a reference to an address. -/
@[simp] theorem text_url (name : List Char) : (url name).text = urlText name := rfl

/-- The offset of a label. -/
def label? : Clause → Option Label
  | label x y => some ⟨.float x.value, .float y.value⟩
  | _ => none

/-- The marks of a group. -/
def marks : Clause → List Mark
  | group first others => first :: others
  | _ => []

/-- The clause is the bare word `inertia`. -/
def isInertia : Clause → Bool
  | inertia => true
  | _ => false

/-- The name of an address. -/
def url? : Clause → Option (List Char)
  | url name => some name
  | _ => none

/-- What is left of a clause without the address. -/
def bare : Clause → List Char
  | url _ => [' ']
  | clause => clause.text

/-- What is left of a clause without the address and the groups. -/
def remains : Clause → List Char
  | url _ => [' ']
  | group _ _ => [' ']
  | clause => clause.text

/-- The clause is neither an address nor a group. -/
def isKept : Clause → Bool
  | label _ _ => true
  | inertia => true
  | _ => false

end Clause

/-- Texts of clauses with a space before each. -/
def spaced (text : Clause → List Char) (clauses : List Clause) : List Char :=
  clauses.flatMap fun clause => ' ' :: text clause

/-- The coordinates behind a name. -/
def placeText : Option (Numeral × Numeral) → List Char
  | none => []
  | some (visibility, maturity) => ' ' :: '[' :: (pairText visibility maturity ++ [']'])

/-! ## Written elements -/

/-- The parts of a written element. -/
structure WrittenElement where
  name : List Char
  /-- Visibility and maturity. -/
  place : Option (Numeral × Numeral)
  clauses : List Clause

namespace WrittenElement

variable (written : WrittenElement)

/-- The name and the place. -/
def lead : List Char := written.name ++ placeText written.place

/-- The body of a written element. -/
def body : List Char := written.lead ++ spaced Clause.text written.clauses

/-- The marks of all groups. -/
def marks : List Mark := written.clauses.flatMap Clause.marks

/-- The element that is written on a line. -/
def element (kind : ElementKind) (line : Number) : Element where
  name := String.ofList written.name
  kind := kind
  visibility := (written.place.map fun place => .float place.1.value).getD sketchVisibility
  maturity := (written.place.map fun place => .float place.2.value).getD sketchMaturity
  label := (written.clauses.findSome? Clause.label?).getD .standard
  line := some line
  decorators := markedDecorators written.marks
  inertia := written.marks.contains .inertia || written.clauses.any Clause.isInertia
  url := (written.clauses.findSome? Clause.url?).map String.ofList

/-- The parts of a written element can be told apart. -/
structure IsReadable (written : WrittenElement) : Prop where
  name_ne_nil : written.name ≠ []
  collapse_name : collapse written.name = written.name
  plain_name : ∀ c ∈ written.name, c ∉ ['(', ')', '[', ']']
  one_label : written.clauses.countP (fun clause => clause.label?.isSome) ≤ 1
  one_inertia : written.clauses.countP Clause.isInertia ≤ 1
  one_url : written.clauses.countP (fun clause => clause.url?.isSome) ≤ 1
  plain_url : ∀ name, .url name ∈ written.clauses →
    name ≠ [] ∧ trim name = name ∧ ∀ c ∈ name, isNoParenthesis c = true
  /-- Without a place, nothing tells a label and the end of the name from other words. -/
  sketched : written.place = none → (∀ clause ∈ written.clauses, clause.label? = none) ∧
    ¬ EndsIn isSolid "inertia".toList written.name ∧ ¬ EndsIn isWord "url".toList written.name

end WrittenElement

/-! ## Coordinates -/

/-- A pair holds numeric characters, a comma and a blank only. -/
theorem not_mem_pairText {c : Char} (hc : Numeral.isNumeric c = false) (hcomma : c ∉ [',', ' '])
    (x y : Numeral) : c ∉ pairText x y := by
  rw [pairText, List.mem_append, List.mem_cons, List.mem_cons]
  simp only [List.mem_cons, List.not_mem_nil, or_false, not_or] at hcomma
  rintro (hmem | rfl | rfl | hmem)
  · exact x.not_mem_text hc hmem
  · exact hcomma.1 rfl
  · exact hcomma.2 rfl
  · exact y.not_mem_text hc hmem

/-- A pair holds no bracket. -/
theorem isNoBracket_of_mem_pairText (x y : Numeral) : ∀ c ∈ pairText x y, isNoBracket c = true :=
  forall_isNoBracket_iff.2 ⟨not_mem_pairText (by decide) (by decide) x y,
    not_mem_pairText (by decide) (by decide) x y⟩

/-- Coordinates in brackets are collapsed already. -/
theorem isCollapsed_brackets (x y : Numeral) : IsCollapsed ('[' :: (pairText x y ++ [']'])) := by
  have hsigns : isBlank '[' = false ∧ isBlank ',' = false ∧ isBlank ']' = false := by decide
  have htext : '[' :: (pairText x y ++ [']']) =
      ('[' :: (x.text ++ [','])) ++ ' ' :: (y.text ++ [']']) := by simp [pairText]
  rw [htext]
  refine .append_space (isCollapsed_of_solid (List.cons_ne_nil _ _) ?_)
    (isCollapsed_of_solid (List.append_ne_nil_of_left_ne_nil y.text_ne_nil _) ?_)
  · intro c hc
    rw [List.mem_cons, List.mem_append, List.mem_singleton] at hc
    rcases hc with rfl | hc | rfl
    · exact hsigns.1
    · exact x.isBlank_of_mem_text hc
    · exact hsigns.2.1
  · intro c hc
    rw [List.mem_append, List.mem_singleton] at hc
    rcases hc with hc | rfl
    · exact y.isBlank_of_mem_text hc
    · exact hsigns.2.2

/-- What stands behind a name is nothing or begins with a space. -/
theorem head?_placeText_append (place : Option (Numeral × Numeral)) {rest : List Char}
    (hrest : ∀ c ∈ rest.head?, c = ' ') : ∀ c ∈ (placeText place ++ rest).head?, c = ' ' := by
  cases place with
  | none => exact hrest
  | some place =>
      intro c hc
      exact (Option.some.inj hc).symm

/-! ## Spaced clauses -/

/-- Clauses written after others follow their text. -/
theorem spaced_append (text : Clause → List Char) (first second : List Clause) :
    spaced text (first ++ second) = spaced text first ++ spaced text second :=
  List.flatMap_append

/-- Only a reference to an address leaves something out of its bare text. -/
theorem Clause.bare_eq {clause : Clause} (h : clause.url? = none) : clause.bare = clause.text := by
  cases clause with
  | url name => cases h
  | label x y => rfl
  | group first others => rfl
  | inertia => rfl

/-- Clauses of which none refers to an address are written as they stand. -/
theorem spaced_bare {clauses : List Clause} (h : ∀ clause ∈ clauses, clause.url? = none) :
    spaced Clause.bare clauses = spaced Clause.text clauses := by
  refine List.flatMap_congr fun clause hclause => ?_
  rw [Clause.bare_eq (h clause hclause)]

/-- What clauses and a blank rest start with is a blank. -/
theorem head?_spaced_append (text : Clause → List Char) (clauses : List Clause) (rest : List Char)
    (hrest : ∀ c ∈ rest.head?, c = ' ') : ∀ c ∈ (spaced text clauses ++ rest).head?, c = ' ' := by
  cases clauses with
  | nil => exact hrest
  | cons clause others =>
      intro c hc
      exact (Option.some.inj hc).symm

/-- Behind a text, the words of spaced clauses follow one after the other. -/
theorem words_spaced (text : Clause → List Char) (clauses : List Clause) (front : List Char) :
    words (front ++ spaced text clauses) =
      words front ++ clauses.flatMap fun clause => words (text clause) := by
  induction clauses generalizing front with
  | nil => simp [spaced]
  | cons clause others ih =>
      have hspace : isBlank ' ' = true := by decide
      have hcons : front ++ spaced text (clause :: others) =
          (front ++ ' ' :: text clause) ++ spaced text others := by simp [spaced]
      rw [hcons, ih, words_append_blank hspace, List.flatMap_cons, List.append_assoc]

/-- Only labels and the bare word leave words behind. -/
theorem words_kept (clauses : List Clause) (front : List Char) :
    words (front ++ spaced Clause.remains clauses) =
      words (front ++ spaced Clause.text (clauses.filter Clause.isKept)) := by
  rw [words_spaced, words_spaced]
  congr 1
  induction clauses with
  | nil => rfl
  | cons clause others ih =>
      have hblank : words [' '] = [] := rfl
      cases clause with
      | label x y => rw [List.flatMap_cons, ih]; rfl
      | inertia => rw [List.flatMap_cons, ih]; rfl
      | group first more => rw [List.flatMap_cons, ih, Clause.remains, hblank]; rfl
      | url name => rw [List.flatMap_cons, ih, Clause.remains, hblank]; rfl

/-- Behind a collapsed text, collapsed clauses are collapsed already. -/
theorem isCollapsed_append_spaced {text : Clause → List Char} {clauses : List Clause}
    {front : List Char} (hfront : IsCollapsed front)
    (htext : ∀ clause ∈ clauses, IsCollapsed (text clause)) :
    IsCollapsed (front ++ spaced text clauses) := by
  induction clauses generalizing front with
  | nil => simpa [spaced] using hfront
  | cons clause others ih =>
      rcases List.forall_mem_cons.1 htext with ⟨hclause, hothers⟩
      have hcons : front ++ spaced text (clause :: others) =
          (front ++ ' ' :: text clause) ++ spaced text others := by simp [spaced]
      rw [hcons]
      exact ih (hfront.append_space hclause) hothers

/-- The only item in which something is found stands among items without it. -/
theorem exists_only {α β : Type} {items : List α} {find : α → Option β} {value : β}
    (hfind : items.findSome? find = some value)
    (hone : items.countP (fun item => (find item).isSome) ≤ 1) :
    ∃ before item after, items = before ++ item :: after ∧ find item = some value ∧
      (∀ other ∈ before, find other = none) ∧ ∀ other ∈ after, find other = none := by
  rcases List.findSome?_eq_some_iff.1 hfind with ⟨before, item, after, rfl, hitem, hbefore⟩
  have hsome : (find item).isSome = true := by
    rw [hitem]
    rfl
  rw [List.countP_append, List.countP_cons_of_pos (p := fun other => (find other).isSome) hsome]
    at hone
  have hcount : after.countP (fun other => (find other).isSome) = 0 := by omega
  refine ⟨before, item, after, rfl, hitem, hbefore, fun other hother => ?_⟩
  simpa using List.countP_eq_zero.1 hcount other hother

/-! ## Clauses that are kept -/

/-- Only kept clauses pass the filter. -/
theorem isKept_of_mem_filter (clauses : List Clause) :
    ∀ clause ∈ clauses.filter Clause.isKept, clause.isKept = true := fun _ hclause =>
  (List.mem_filter.1 hclause).2

/-- The text of a kept clause is collapsed already. -/
theorem Clause.isCollapsed_text {clause : Clause} (h : clause.isKept = true) :
    IsCollapsed clause.text := by
  cases clause with
  | label x y =>
      have hword : IsCollapsed "label".toList := ⟨by decide, by decide⟩
      exact hword.append_space (isCollapsed_brackets x y)
  | inertia => exact ⟨by decide, by decide⟩
  | group first others => cases h
  | url name => cases h

/-- Trimming kept clauses removes the blank before the first. -/
theorem trim_spaced_cons {clause : Clause} {others : List Clause}
    (hkept : ∀ c ∈ clause :: others, c.isKept = true) :
    trim (spaced Clause.text (clause :: others)) =
      clause.text ++ spaced Clause.text others := by
  rcases List.forall_mem_cons.1 hkept with ⟨hclause, hothers⟩
  have hcollapsed := isCollapsed_append_spaced (Clause.isCollapsed_text hclause)
    fun other hother => Clause.isCollapsed_text (hothers other hother)
  have hspace : ∀ c ∈ [' '], isBlank c = true := List.all_eq_true.1 (by decide)
  have hpadded : Padded (clause.text ++ spaced Clause.text others)
      (spaced Clause.text (clause :: others)) :=
    ⟨[' '], [], by simp [spaced], hspace, by simp⟩
  rw [hpadded.trim_eq, hcollapsed.trim_eq]

/-- Kept clauses stay on one line. -/
theorem not_mem_spaced {clauses : List Clause} (h : ∀ clause ∈ clauses, clause.isKept = true) :
    '\n' ∉ spaced Clause.text clauses := by
  rw [spaced, List.mem_flatMap]
  rintro ⟨clause, hclause, hmem⟩
  have hkept := h clause hclause
  cases clause with
  | label x y =>
      have hpair := not_mem_pairText (c := '\n') (by decide) (by decide) x y
      simp [labelText_eq, hpair] at hmem
  | inertia =>
      revert hmem
      decide
  | group first others => cases hkept
  | url name => cases hkept

/-- Every label clause is kept. -/
theorem findSome?_label_kept (clauses : List Clause) :
    (clauses.filter Clause.isKept).findSome? Clause.label? = clauses.findSome? Clause.label? := by
  induction clauses with
  | nil => rfl
  | cons clause others ih =>
      cases clause with
      | label x y => rfl
      | inertia => exact ih
      | group first more => exact ih
      | url name => exact ih

/-- Every inertia clause is kept. -/
theorem any_isInertia_kept (clauses : List Clause) :
    (clauses.filter Clause.isKept).any Clause.isInertia = clauses.any Clause.isInertia := by
  induction clauses with
  | nil => rfl
  | cons clause others ih =>
      cases clause with
      | inertia => rfl
      | label x y => exact ih
      | group first more => exact ih
      | url name => exact ih

/-- At most one label and one bare word are kept, in either order. -/
theorem kept_cases {kept : List Clause} (hkept : ∀ clause ∈ kept, clause.isKept = true)
    (hlabel : kept.countP (fun clause => clause.label?.isSome) ≤ 1)
    (hinertia : kept.countP Clause.isInertia ≤ 1) :
    kept = [] ∨ kept = [.inertia] ∨ ∃ x y, kept = [.label x y] ∨
      kept = [.label x y, .inertia] ∨ kept = [.inertia, .label x y] := by
  have hcase : ∀ clause ∈ kept, clause = .inertia ∨ ∃ x y, clause = .label x y := by
    intro clause hclause
    have := hkept clause hclause
    cases clause with
    | label x y => exact .inr ⟨x, y, rfl⟩
    | inertia => exact .inl rfl
    | group first others => cases this
    | url name => cases this
  have hother : kept.countP (fun clause => ¬ clause.isInertia = true) =
      kept.countP fun clause => clause.label?.isSome := by
    refine List.countP_congr fun clause hclause => ?_
    rcases hcase clause hclause with rfl | ⟨x, y, rfl⟩ <;> simp [Clause.isInertia, Clause.label?]
  have hlength : kept.length ≤ 2 := by
    rw [List.length_eq_countP_add_countP Clause.isInertia, hother]
    omega
  rcases kept with _ | ⟨first, _ | ⟨second, _ | ⟨third, others⟩⟩⟩
  · exact .inl rfl
  · rcases hcase first (by simp) with rfl | ⟨x, y, rfl⟩
    · exact .inr (.inl rfl)
    · exact .inr (.inr ⟨x, y, .inl rfl⟩)
  · rcases hcase first (by simp) with rfl | ⟨x, y, rfl⟩ <;>
      rcases hcase second (by simp) with rfl | ⟨x', y', rfl⟩
    · exact absurd hinertia (by decide)
    · exact .inr (.inr ⟨x', y', .inr (.inr rfl)⟩)
    · exact .inr (.inr ⟨x, y, .inr (.inl rfl)⟩)
    · simp [Clause.label?] at hlabel
  · simp only [List.length_cons] at hlength
    omega

/-! ## Readable elements -/

namespace WrittenElement.IsReadable

variable {written : WrittenElement} (h : written.IsReadable)
include h

/-- A readable name holds no bracket and no parenthesis. -/
theorem not_mem_name {c : Char} (hc : c ∈ ['(', ')', '[', ']']) : c ∉ written.name :=
  fun hmem => h.plain_name c hmem hc

/-- A readable name is a run of characters that are no brackets. -/
theorem isNoBracket_name : ∀ c ∈ written.name, isNoBracket c = true :=
  forall_isNoBracket_iff.2 ⟨h.not_mem_name (by decide), h.not_mem_name (by decide)⟩

/-- A readable name is collapsed already. -/
theorem isCollapsed_name : IsCollapsed written.name :=
  isCollapsed_of_ne_nil h.collapse_name h.name_ne_nil

/-- A readable name is trimmed. -/
theorem trim_name : trim written.name = written.name := h.isCollapsed_name.trim_eq

/-- The name and the place are collapsed already. -/
theorem isCollapsed_lead : IsCollapsed written.lead := by
  cases hplace : written.place with
  | none =>
      rw [lead, hplace, placeText, List.append_nil]
      exact h.isCollapsed_name
  | some place =>
      rw [lead, hplace, placeText]
      exact h.isCollapsed_name.append_space (isCollapsed_brackets place.1 place.2)

/-- The name, the place and the kept clauses are collapsed already. -/
theorem isCollapsed_kept :
    IsCollapsed (written.lead ++ spaced Clause.text (written.clauses.filter Clause.isKept)) :=
  isCollapsed_append_spaced h.isCollapsed_lead fun clause hclause =>
    Clause.isCollapsed_text (isKept_of_mem_filter _ clause hclause)

/-- The name and the place open no parenthesis. -/
theorem not_mem_lead : '(' ∉ written.lead := by
  rw [lead, List.mem_append, not_or]
  refine ⟨h.not_mem_name (by decide), ?_⟩
  cases written.place with
  | none => exact List.not_mem_nil
  | some place =>
      have hpair := not_mem_pairText (c := '(') (by decide) (by decide) place.1 place.2
      simp [placeText, hpair]

/-- The kept clauses hold at most one label and at most one inertia. -/
theorem countP_kept :
    (written.clauses.filter Clause.isKept).countP (fun clause => clause.label?.isSome) ≤ 1 ∧
      (written.clauses.filter Clause.isKept).countP Clause.isInertia ≤ 1 :=
  ⟨List.filter_sublist.countP_le.trans h.one_label,
    List.filter_sublist.countP_le.trans h.one_inertia⟩

/-- Without a place, at most the bare word is kept. -/
theorem kept_of_none (hplace : written.place = none) :
    written.clauses.filter Clause.isKept = [] ∨
      written.clauses.filter Clause.isKept = [.inertia] := by
  have hlabel (x y : Numeral) : .label x y ∉ written.clauses.filter Clause.isKept := by
    intro hmem
    cases (h.sketched hplace).1 _ (List.mem_filter.1 hmem).1
  rcases kept_cases (isKept_of_mem_filter _) h.countP_kept.1 h.countP_kept.2 with
    hnil | hinertia | ⟨x, y, hkept | hkept | hkept⟩
  · exact .inl hnil
  · exact .inr hinertia
  all_goals exact absurd (by simp [hkept]) (hlabel x y)

end WrittenElement.IsReadable

end Notation
end Wardley
