import Mathlib.Data.List.MinMax
import Wardley.Proofs.Parsing.Partition

/-!
# The order of the elements of a map

A map lists its elements by class, those of a class as they stand in the lists of the
draft, and those of a list by line.  So the elements come rank by rank, where the rank
tells class and list, and the first element with a property is the first one of the
least rank.

Main definitions:

- `Element.rank`: where an element comes in the order of the collections.

Main results:

- `find?_flatMap_filter`: the first of items that are listed key by key.
- `elements_unify_eq`: the elements of a map, rank by rank.
-/

namespace Wardley

open Construct Notation

/-! ## Items in the order of their keys -/

section Keys

variable {α : Type} {key : α → Nat}

/-- An item is the least one if its key is below those before it and at most those behind. -/
theorem argmin_append_cons {item : α} {before behind : List α}
    (hbefore : ∀ other ∈ before, key item < key other)
    (hbehind : ∀ other ∈ behind, key item ≤ key other) :
    (before ++ item :: behind).argmin key = some item := by
  induction before with
  | nil =>
      rw [List.nil_append, List.argmin_cons]
      cases hleast : behind.argmin key with
      | none => rfl
      | some least =>
          have hle := hbehind least (List.argmin_mem hleast)
          exact if_neg (Nat.not_lt.2 hle)
  | cons other rest ih =>
      have hrest := ih fun other hother => hbefore other (List.mem_cons_of_mem _ hother)
      rw [List.cons_append, List.argmin_cons, hrest]
      exact if_pos (hbefore other List.mem_cons_self)

/-- Among items that are listed key by key, the first is the first one of the least key. -/
theorem find?_flatMap_filter {keys : List Nat} (hkeys : keys.Pairwise (· < ·)) {p : α → Bool}
    {items : List α} (hmem : ∀ item ∈ items, p item = true → key item ∈ keys) :
    (keys.flatMap fun k => items.filter fun item => key item == k).find? p =
      (items.filter p).argmin key := by
  induction keys with
  | nil =>
      have hnone : items.filter p = [] := by
        rw [List.filter_eq_nil_iff]
        intro item hitem hp
        cases hmem item hitem hp
      rw [hnone]
      rfl
  | cons k rest ih =>
      rcases List.pairwise_cons.1 hkeys with ⟨hlt, hrest⟩
      have hkey (other : α) (hother : other ∈ items) (hp : p other = true) :
          key other = k ∨ key other ∈ rest := List.mem_cons.1 (hmem other hother hp)
      rw [List.flatMap_cons, List.find?_append, List.find?_filter]
      cases hfind : items.find? fun item => decide ((key item == k) = true ∧ p item = true) with
      | none =>
          rw [Option.none_or]
          refine ih hrest fun item hitem hp => (hkey item hitem hp).resolve_left fun hk => ?_
          simpa [hk, hp] using List.find?_eq_none.1 hfind item hitem
      | some item =>
          rw [Option.some_or]
          rcases List.find?_eq_some_iff_append.1 hfind with ⟨hitem, before, behind, rfl, hbefore⟩
          rw [decide_eq_true_eq, beq_iff_eq] at hitem
          rw [List.filter_append, List.filter_cons_of_pos hitem.2]
          refine (argmin_append_cons ?_ ?_).symm
          · intro other hother
            rcases List.mem_filter.1 hother with ⟨hother, hp⟩
            have hnot : key other ≠ k := fun hk => by simpa [hk, hp] using hbefore other hother
            rw [hitem.1]
            exact hlt _ ((hkey other (by simp [hother]) hp).resolve_left hnot)
          · intro other hother
            rcases List.mem_filter.1 hother with ⟨hother, hp⟩
            rw [hitem.1]
            rcases hkey other (by simp [hother]) hp with hk | hk
            · exact Nat.le_of_eq hk.symm
            · exact Nat.le_of_lt (hlt _ hk)

end Keys

/-! ## Elements by keyword -/

/-- The kind of a keyword is the one whose word it is. -/
theorem kindOf_word (kind : ElementKind) : kindOf kind.word = kind := by
  rw [kindOf, ElementKind.ofWord?_word]
  rfl

theorem word_kindOf : ∀ word ∈ elementWords, (kindOf word).word = word := by decide

/-- The elements of some kinds are the declared elements of these kinds. -/
theorem records_elementsOf (kinds : List ElementKind) (lines : List (Nat × List Char)) :
    (elementsOf kinds lines).records =
      (declaredElements lines).filter fun element => kinds.contains element.kind := by
  have hkeywords : ∀ keyword ∈ elementWords, IsKeyword keyword := by decide
  have hsubset : kinds.map ElementKind.word ⊆ elementWords := by
    intro word hword
    rcases List.mem_map.1 hword with ⟨kind, -, rfl⟩
    cases kind <;> decide
  rw [elementsOf, declaredElements, elementsOf, records_collect, records_collect,
    declarations_eq_filter hkeywords hsubset, List.filterMap_filter, List.filter_filterMap]
  refine List.filterMap_congr fun d hd => ?_
  rcases mem_declarations hd with ⟨-, -, hword, -⟩
  have hkind : d.keyword ∈ kinds.map ElementKind.word ↔ kindOf d.keyword ∈ kinds := by
    rw [List.mem_map]
    constructor
    · rintro ⟨kind, hkind, heq⟩
      rwa [← heq, kindOf_word]
    · intro hkind
      exact ⟨_, hkind, word_kindOf _ hword⟩
  cases hread : readDeclared d with
  | error fault => exact ite_self none
  | ok element =>
      have hsame : element.kind = kindOf d.keyword := (readElement_eq_ok hread).kind_eq
      simp [Except.toOption, Option.filter, hkind, hsame]

/-! ## Ranks -/

/-- The list of a draft in which the declarations of a kind stand. -/
def ElementKind.draftList : ElementKind → Nat
  | .component | .market | .ecosystem => 0
  | .anchor => 1
  | .submap => 2

/-- The rank of a class and a list: where the map has the elements of both. -/
def ElementKind.rankIn (kind : ElementKind) (list : Nat) : Nat := 3 * all.idxOf kind + list

/--
The rank of a declared element: first its class counts, in the order of the collections of
a map, then the list in which its keyword puts it.
-/
def Element.rank (element : Element) : Nat := element.declaredClass.rankIn element.kind.draftList

theorem ElementKind.rankIn_inj (kind other : ElementKind) :
    ∀ list < 3, ∀ list' < 3,
      kind.rankIn list = other.rankIn list' ↔ kind = other ∧ list = list' := by
  cases kind <;> cases other <;> decide

/-- The ranks in the order of the collections and the lists. -/
def ranks : List Nat := ElementKind.all.flatMap fun kind => [0, 1, 2].map kind.rankIn

theorem Element.rank_mem_ranks (element : Element) : element.rank ∈ ranks := by
  rw [Element.rank]
  cases element.declaredClass <;> cases element.kind <;> decide

/-- The declared elements of a draft are sorted into its lists. -/
theorem declared_draftOf_eq (switches : Switches) (lines : List (Nat × List Char)) :
    (draftOf switches lines).declared =
      [0, 1, 2].flatMap fun list =>
        (declaredElements lines).filter fun element => element.kind.draftList == list := by
  have hlist (kinds : List ElementKind) (list : Nat)
      (hkinds : ∀ kind : ElementKind, kinds.contains kind = (kind.draftList == list)) :
      (elementsOf kinds lines).records =
        (declaredElements lines).filter fun element => element.kind.draftList == list := by
    rw [records_elementsOf]
    exact List.filter_congr fun element _ => hkinds element.kind
  have helements := hlist [.component, .market, .ecosystem] 0 fun kind => by cases kind <;> rfl
  have hanchors := hlist [.anchor] 1 fun kind => by cases kind <;> rfl
  have hsubmaps := hlist [.submap] 2 fun kind => by cases kind <;> rfl
  simp only [Draft.declared, draftOf, elements, anchors, submaps, helements, hanchors, hsubmaps,
    List.flatMap_cons, List.flatMap_nil, List.append_nil, List.append_assoc]

/-- The elements of a map are the declared ones, rank by rank. -/
theorem elements_unify_eq (switches : Switches) (lines : List (Nat × List Char)) :
    (draftOf switches lines).unify.elements =
      (ranks.flatMap fun rank =>
        (declaredElements lines).filter fun element => element.rank == rank).map
          (draftOf switches lines).unifyElement := by
  have hrank (kind : ElementKind) : ∀ list ∈ [0, 1, 2], ∀ element : Element,
      (element.declaredClass == kind && element.kind.draftList == list) =
        (element.rank == kind.rankIn list) := by
    intro list hlist element
    have hlt : list < 3 := by
      simp only [List.mem_cons, List.not_mem_nil, or_false] at hlist
      omega
    have hlt' : element.kind.draftList < 3 := by cases element.kind <;> decide
    rw [Bool.eq_iff_iff, Bool.and_eq_true, beq_iff_eq, beq_iff_eq, beq_iff_eq, Element.rank,
      ElementKind.rankIn_inj _ _ _ hlt' _ hlt]
  rw [Map.elements_eq_flatMap, ranks, List.flatMap_assoc, List.map_flatMap]
  congr 1
  funext kind
  rw [Draft.collection_unify, Draft.ofClass_eq_map_filter, declared_draftOf_eq,
    List.filter_flatMap, List.flatMap_map]
  congr 1
  refine List.flatMap_congr fun list hlist => ?_
  rw [List.filter_filter]
  exact List.filter_congr fun element _ => hrank kind list hlist element

end Wardley
