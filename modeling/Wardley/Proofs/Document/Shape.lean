import Wardley.Document.Order

/-!
# Shapes of documents

Two properties of a document that sorting its mappings keeps: a property of all its
scalars, keys included, and that the keys of each mapping are texts of which no two are equal.

Main definitions:

- `Document.AllScalars`: a property of all scalars.
- `Scalar.NotNaN`, `Scalar.NotTimestamp`: the properties that this is used for.
- `Document.Keyed`: mappings have distinct textual keys.

Main results:

- `allScalars_sorted`, `Keyed.sorted`: sorting keeps both properties.
- `DistinctKeys.areOrdered`: the keys of such a mapping can be compared.
-/

namespace Wardley

/-- A scalar that is not a missing number. -/
def Scalar.NotNaN (found : Scalar) : Prop := ∀ payload, found ≠ .number (.float (.nan payload))

/-- A scalar of a kind that JSON has, which a timestamp is not. -/
def Scalar.NotTimestamp (found : Scalar) : Prop := ∀ value, found ≠ .timestamp value

namespace Document

/-! ## Induction -/

mutual

/-- Induction over documents: items and values of entries come before what they stand in. -/
@[elab_as_elim]
theorem inductionOn {motive : Document → Prop} (document : Document)
    (scalar : ∀ value, motive (scalar value))
    (list : ∀ items, (∀ item ∈ items, motive item) → motive (list items))
    (mapping : ∀ entries, (∀ entry ∈ entries, motive entry.2) → motive (mapping entries)) :
    motive document :=
  match document with
  | .scalar value => scalar value
  | .list items => list items (inductionOnItems items scalar list mapping)
  | .mapping entries => mapping entries (inductionOnEntries entries scalar list mapping)

/-- The induction over the items of a list. -/
theorem inductionOnItems {motive : Document → Prop} (items : List Document)
    (scalar : ∀ value, motive (scalar value))
    (list : ∀ items, (∀ item ∈ items, motive item) → motive (list items))
    (mapping : ∀ entries, (∀ entry ∈ entries, motive entry.2) → motive (mapping entries)) :
    ∀ item ∈ items, motive item :=
  match items with
  | [] => by simp
  | item :: rest => List.forall_mem_cons.2
      ⟨inductionOn item scalar list mapping, inductionOnItems rest scalar list mapping⟩

/-- The induction over the values of entries. -/
theorem inductionOnEntries {motive : Document → Prop} (entries : List (Scalar × Document))
    (scalar : ∀ value, motive (scalar value))
    (list : ∀ items, (∀ item ∈ items, motive item) → motive (list items))
    (mapping : ∀ entries, (∀ entry ∈ entries, motive entry.2) → motive (mapping entries)) :
    ∀ entry ∈ entries, motive entry.2 :=
  match entries with
  | [] => by simp
  | (_, value) :: rest => List.forall_mem_cons.2
      ⟨inductionOn value scalar list mapping, inductionOnEntries rest scalar list mapping⟩

end

/-! ## Scalars -/

mutual

/-- A property of all scalars of a document. -/
def AllScalars (p : Scalar → Prop) : Document → Prop
  | scalar value => p value
  | list items => ItemsScalars p items
  | mapping entries => EntriesScalars p entries

/-- A property of all scalars of items. -/
def ItemsScalars (p : Scalar → Prop) : List Document → Prop
  | [] => True
  | item :: rest => item.AllScalars p ∧ ItemsScalars p rest

/-- A property of all scalars of entries. -/
def EntriesScalars (p : Scalar → Prop) : List (Scalar × Document) → Prop
  | [] => True
  | (key, value) :: rest => p key ∧ value.AllScalars p ∧ EntriesScalars p rest

end

/-- The only scalar of a scalar is the scalar itself. -/
@[simp]
theorem allScalars_scalar (p : Scalar → Prop) (value : Scalar) :
    (scalar value).AllScalars p ↔ p value := by
  simp only [AllScalars]

/-- The scalars of items are those of each of them. -/
theorem itemsScalars_iff {p : Scalar → Prop} {items : List Document} :
    ItemsScalars p items ↔ ∀ item ∈ items, item.AllScalars p := by
  induction items with
  | nil => simp [ItemsScalars]
  | cons item rest ih => simp [ItemsScalars, ih]

/-- The scalars of entries are their keys and those of their values. -/
theorem entriesScalars_iff {p : Scalar → Prop} {entries : List (Scalar × Document)} :
    EntriesScalars p entries ↔ ∀ entry ∈ entries, p entry.1 ∧ entry.2.AllScalars p := by
  induction entries with
  | nil => simp [EntriesScalars]
  | cons entry rest ih => simp [EntriesScalars, ih, and_assoc]

/-- The scalars of a list are those of its items. -/
@[simp]
theorem allScalars_list (p : Scalar → Prop) (items : List Document) :
    (list items).AllScalars p ↔ ∀ item ∈ items, item.AllScalars p := by
  rw [AllScalars, itemsScalars_iff]

/-- The scalars of a mapping are its keys and those of its values. -/
@[simp]
theorem allScalars_mapping (p : Scalar → Prop) (entries : List (Scalar × Document)) :
    (mapping entries).AllScalars p ↔ ∀ entry ∈ entries, p entry.1 ∧ entry.2.AllScalars p := by
  rw [AllScalars, entriesScalars_iff]

/-- A property that texts have depends on the values of an object only. -/
theorem allScalars_object {p : Scalar → Prop} (htext : ∀ name, p (.text name))
    {fields : List (String × Document)} :
    (object fields).AllScalars p ↔ ∀ field ∈ fields, field.2.AllScalars p := by
  simp only [object, allScalars_mapping, List.forall_mem_map, htext, true_and]

/-- A property of all scalars implies a weaker one of all scalars. -/
theorem AllScalars.imp {p q : Scalar → Prop} (h : ∀ found, p found → q found) {document : Document}
    (hp : document.AllScalars p) : document.AllScalars q := by
  induction document using inductionOn with
  | scalar value => exact h value hp
  | list items ih =>
    rw [allScalars_list] at hp ⊢
    exact fun item hitem => ih item hitem (hp item hitem)
  | mapping entries ih =>
    rw [allScalars_mapping] at hp ⊢
    exact fun entry hentry =>
      ⟨h entry.1 (hp entry hentry).1, ih entry hentry (hp entry hentry).2⟩

/-- Two properties of all scalars hold together of all scalars. -/
theorem AllScalars.and {p q : Scalar → Prop} {document : Document}
    (hp : document.AllScalars p) (hq : document.AllScalars q) :
    document.AllScalars fun found => p found ∧ q found := by
  induction document using inductionOn with
  | scalar value => exact ⟨hp, hq⟩
  | list items ih =>
    rw [allScalars_list] at hp hq ⊢
    exact fun item hitem => ih item hitem (hp item hitem) (hq item hitem)
  | mapping entries ih =>
    rw [allScalars_mapping] at hp hq ⊢
    exact fun entry hentry =>
      ⟨⟨(hp entry hentry).1, (hq entry hentry).1⟩,
        ih entry hentry (hp entry hentry).2 (hq entry hentry).2⟩

/-- A document has a text when all of its scalars have. -/
theorem hasText_iff {document : Document} :
    document.hasText = true ↔ document.AllScalars fun found => found.hasText = true := by
  have hitems (items : List Document) :
      itemsHaveText items = true ↔ ∀ item ∈ items, item.hasText = true := by
    induction items with
    | nil => simp [itemsHaveText]
    | cons item items ih => simp [itemsHaveText, ih]
  have hentries (entries : List (Scalar × Document)) : entriesHaveText entries = true ↔
      ∀ entry ∈ entries, entry.1.hasText = true ∧ entry.2.hasText = true := by
    induction entries with
    | nil => simp [entriesHaveText]
    | cons entry entries ih => simp [entriesHaveText, ih]
  induction document using inductionOn with
  | scalar value => rfl
  | list items ih =>
    rw [hasText, hitems, allScalars_list]
    exact forall₂_congr ih
  | mapping entries ih =>
    rw [hasText, hentries, allScalars_mapping]
    exact forall₂_congr fun entry hentry => and_congr_right fun _ => ih entry hentry

/-! ## Keys -/

/-- Entries whose keys are texts, no two of them equal. -/
structure DistinctKeys (entries : List (Scalar × Document)) : Prop where
  text : ∀ key ∈ keys entries, ∃ name, key = .text name
  nodup : (keys entries).Nodup

mutual

/-- All mappings of a document have distinct textual keys. -/
def Keyed : Document → Prop
  | scalar _ => True
  | list items => ItemsKeyed items
  | mapping entries => DistinctKeys entries ∧ EntriesKeyed entries

/-- All mappings of items have distinct textual keys. -/
def ItemsKeyed : List Document → Prop
  | [] => True
  | item :: rest => item.Keyed ∧ ItemsKeyed rest

/-- All mappings within the values of entries have distinct textual keys. -/
def EntriesKeyed : List (Scalar × Document) → Prop
  | [] => True
  | (_, value) :: rest => value.Keyed ∧ EntriesKeyed rest

end

/-- A scalar has no mappings. -/
@[simp]
theorem keyed_scalar (value : Scalar) : (scalar value).Keyed := by
  simp only [Keyed]

/-- Items have distinct keys if each of them has. -/
theorem itemsKeyed_iff {items : List Document} :
    ItemsKeyed items ↔ ∀ item ∈ items, item.Keyed := by
  induction items with
  | nil => simp [ItemsKeyed]
  | cons item rest ih => simp [ItemsKeyed, ih]

/-- The values of entries have distinct keys if each of them has. -/
theorem entriesKeyed_iff {entries : List (Scalar × Document)} :
    EntriesKeyed entries ↔ ∀ entry ∈ entries, entry.2.Keyed := by
  induction entries with
  | nil => simp [EntriesKeyed]
  | cons entry rest ih => simp [EntriesKeyed, ih]

/-- A list has distinct keys if each of its items has. -/
@[simp]
theorem keyed_list (items : List Document) : (list items).Keyed ↔ ∀ item ∈ items, item.Keyed := by
  rw [Keyed, itemsKeyed_iff]

/-- A mapping has distinct keys if its own are distinct and each of its values has. -/
theorem keyed_mapping (entries : List (Scalar × Document)) :
    (mapping entries).Keyed ↔ DistinctKeys entries ∧ ∀ entry ∈ entries, entry.2.Keyed := by
  rw [Keyed, entriesKeyed_iff]

/-- The keys of an object are the names of its fields. -/
theorem keys_object (fields : List (String × Document)) :
    keys (fields.map fun field => (Scalar.text field.1, field.2)) =
      (fields.map Prod.fst).map .text := by
  simp [keys, Function.comp_def]

/-- An object has distinct keys when its names are distinct. -/
theorem keyed_object {fields : List (String × Document)} (hnodup : (fields.map Prod.fst).Nodup) :
    (object fields).Keyed ↔ ∀ field ∈ fields, field.2.Keyed := by
  have hkeys : DistinctKeys (fields.map fun field => (Scalar.text field.1, field.2)) := by
    constructor
    · intro key hkey
      rw [keys_object] at hkey
      rcases List.mem_map.1 hkey with ⟨name, -, rfl⟩
      exact ⟨name, rfl⟩
    · rw [keys_object]
      exact List.Pairwise.map _ (fun _ _ hne heq => hne (Scalar.text.inj heq)) hnodup
  simp only [object, keyed_mapping, hkeys, true_and, List.forall_mem_map]

/-- Keys are distinct texts in every order. -/
theorem DistinctKeys.perm {a b : List (Scalar × Document)} (h : DistinctKeys a) (hperm : a.Perm b) :
    DistinctKeys b where
  text key hkey := h.text key ((hperm.map Prod.fst).mem_iff.2 hkey)
  nodup := (hperm.map Prod.fst).nodup_iff.1 h.nodup

/-- Textual keys can be compared with each other. -/
theorem DistinctKeys.areOrdered {entries : List (Scalar × Document)} (h : DistinctKeys entries) :
    Scalar.areOrdered (keys entries) = true := by
  have htext := h.text
  cases hkeys : keys entries with
  | nil => rfl
  | cons first others =>
    rw [hkeys] at htext
    rw [Scalar.areOrdered, List.all_eq_true]
    intro other hother
    rcases htext first List.mem_cons_self with ⟨a, rfl⟩
    rcases htext other (List.mem_cons_of_mem _ hother) with ⟨b, rfl⟩
    rfl

/-! ## Sorting -/

/-- Items are sorted one by one. -/
theorem sortedItems_eq_map (items : List Document) : sortedItems items = items.map sorted := by
  induction items with
  | nil => rfl
  | cons item rest ih => rw [sortedItems, ih, List.map_cons]

/-- The values of entries are sorted one by one, under their keys. -/
theorem sortedValues_eq_map (entries : List (Scalar × Document)) :
    sortedValues entries = entries.map fun entry => (entry.1, entry.2.sorted) := by
  induction entries with
  | nil => rfl
  | cons entry rest ih => rw [sortedValues, ih, List.map_cons]

/-- Sorted entries are the given ones in another order. -/
theorem sortEntries_perm (entries : List (Scalar × Document)) :
    (sortEntries entries).Perm entries := by
  unfold sortEntries
  split
  · exact List.mergeSort_perm _ _
  · exact List.Perm.refl _

/-- Sorting neither adds an entry nor drops one. -/
theorem mem_sortEntries {entry : Scalar × Document} {entries : List (Scalar × Document)} :
    entry ∈ sortEntries entries ↔ entry ∈ entries :=
  (sortEntries_perm entries).mem_iff

/-- Sorting what entries hold leaves their keys as they are. -/
theorem keys_sortedValues (entries : List (Scalar × Document)) :
    keys (sortedValues entries) = keys entries := by
  simp [sortedValues_eq_map, keys, Function.comp_def]

/-- Sorting keeps a property of all scalars. -/
theorem allScalars_sorted {p : Scalar → Prop} {document : Document} :
    document.sorted.AllScalars p ↔ document.AllScalars p := by
  induction document using inductionOn with
  | scalar value => rfl
  | list items ih =>
    rw [sorted, sortedItems_eq_map, allScalars_list, List.forall_mem_map, allScalars_list]
    exact forall₂_congr ih
  | mapping entries ih =>
    simp only [sorted, allScalars_mapping, mem_sortEntries, sortedValues_eq_map,
      List.forall_mem_map]
    exact forall₂_congr fun entry hentry => and_congr_right fun _ => ih entry hentry

/-- A sorted document has a text exactly if the document has one. -/
@[simp]
theorem hasText_sorted (document : Document) : document.sorted.hasText = document.hasText := by
  rw [Bool.eq_iff_iff, hasText_iff, hasText_iff, allScalars_sorted]

/-- Sorting keeps keys textual and distinct. -/
theorem Keyed.sorted {document : Document} (h : document.Keyed) : document.sorted.Keyed := by
  induction document using inductionOn with
  | scalar value => exact h
  | list items ih =>
    rw [keyed_list] at h
    rw [Document.sorted, sortedItems_eq_map, keyed_list, List.forall_mem_map]
    exact fun item hitem => ih item hitem (h item hitem)
  | mapping entries ih =>
    rw [keyed_mapping] at h
    rw [Document.sorted, keyed_mapping]
    constructor
    · have hvalues : DistinctKeys (sortedValues entries) := by
        constructor
        · rw [keys_sortedValues]
          exact h.1.text
        · rw [keys_sortedValues]
          exact h.1.nodup
      exact hvalues.perm (sortEntries_perm _).symm
    · intro entry hentry
      rw [mem_sortEntries, sortedValues_eq_map] at hentry
      rcases List.mem_map.1 hentry with ⟨before, hbefore, rfl⟩
      exact ih before hbefore (h.2 before hbefore)

end Document
end Wardley
