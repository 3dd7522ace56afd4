import Wardley.Document.Reading
import Wardley.Proofs.Document.Shape

/-!
# Readers do not notice the order of entries

A record is read field by field, so a document may be rearranged, its leaves and the order
of items untouched, as long as every name still leads to its value.  Leaving a
document as it is and sorting its mappings are such rearrangements.  What a
reader takes out of a rearranged object is stated here once for each way to take a field.

Main definitions:

- `Rearrangement`: a function on documents that readers do not notice.
- `Rearrangement.unchanged`, `Rearrangement.sorting`: the two that texts make.

Main results:

- `require_object`, `field?_object`, `entriesOf_object`: fields of a rearranged object.
-/

namespace Wardley
namespace Document

/-! ## Entries under a name -/

/-- The entries of an object are found under the names of its fields. -/
theorem lookup_object (key : String) (fields : List (String × Document)) :
    lookup key (fields.map fun field => (Scalar.text field.1, field.2)) = fields.lookup key := by
  induction fields with
  | nil => rfl
  | cons field fields ih =>
    rcases field with ⟨name, value⟩
    by_cases h : name = key
    · simp [lookup, h]
    · have hne : (key == name) = false := beq_false_of_ne (Ne.symm h)
      simp [lookup, List.lookup_cons, h, hne, ih]

/-- Sorting what entries hold leaves every value under its name, sorted. -/
theorem lookup_sortedValues (key : String) (entries : List (Scalar × Document)) :
    lookup key (sortedValues entries) = (lookup key entries).map sorted := by
  induction entries with
  | nil => rfl
  | cons entry entries ih =>
    rcases entry with ⟨found, value⟩
    simp only [sortedValues, lookup, ih]
    split <;> rfl

/-- Among distinct keys the value under a name is the one of its entry. -/
theorem lookup_eq_some {key : String} {entries : List (Scalar × Document)}
    (h : (keys entries).Nodup) {value : Document} :
    lookup key entries = some value ↔ (Scalar.text key, value) ∈ entries := by
  induction entries with
  | nil => simp [lookup]
  | cons entry entries ih =>
    rcases entry with ⟨found, first⟩
    have hnodup := List.nodup_cons.1 h
    have hfresh : (found, value) ∉ entries := fun hmem =>
      hnodup.1 (List.mem_map.2 ⟨_, hmem, rfl⟩)
    rw [lookup, List.mem_cons, Prod.mk.injEq]
    by_cases hfound : found = .text key
    · rw [hfound] at hfresh
      simp [hfound, hfresh, eq_comm]
    · have hne : (found == Scalar.text key) = false := beq_false_of_ne hfound
      simp [hne, Ne.symm hfound, ih hnodup.2]

/-- The order of distinct keys does not matter. -/
theorem lookup_perm {key : String} {a b : List (Scalar × Document)} (h : (keys a).Nodup)
    (hperm : a.Perm b) : lookup key a = lookup key b := by
  have hnodup : (keys b).Nodup := (hperm.map Prod.fst).nodup_iff.1 h
  apply Option.ext
  intro value
  rw [lookup_eq_some h, lookup_eq_some hnodup, hperm.mem_iff]

/-! ## Rearrangements -/

/-- A function on documents that no reader of fields notices. -/
structure Rearrangement where
  apply : Document → Document
  apply_scalar : ∀ value, apply (scalar value) = scalar value
  apply_list : ∀ items, apply (list items) = list (items.map apply)
  apply_object : ∀ fields : List (String × Document), (fields.map Prod.fst).Nodup →
    ∃ entries, apply (object fields) = mapping entries ∧ entries.length = fields.length ∧
      ∀ key, lookup key entries = (fields.lookup key).map apply

namespace Rearrangement

instance : CoeFun Rearrangement fun _ => Document → Document := ⟨apply⟩

/-- A document as it is. -/
def unchanged : Rearrangement where
  apply := id
  apply_scalar _ := rfl
  apply_list items := by simp
  apply_object fields _ := by
    refine ⟨_, rfl, List.length_map _, fun key => ?_⟩
    rw [lookup_object, Option.map_id]
    rfl

/-- A document with its mappings sorted. -/
def sorting : Rearrangement where
  apply := sorted
  apply_scalar _ := rfl
  apply_list items := by rw [sorted, sortedItems_eq_map]
  apply_object fields hnodup := by
    let entries := fields.map fun field => (Scalar.text field.1, field.2)
    have hperm := sortEntries_perm (sortedValues entries)
    have hkeys : (keys (sortedValues entries)).Nodup := by
      rw [keys_sortedValues, keys_object]
      exact List.Pairwise.map _ (fun _ _ hne heq => hne (Scalar.text.inj heq)) hnodup
    refine ⟨sortEntries (sortedValues entries), by rw [object, sorted], ?_, fun key => ?_⟩
    · rw [hperm.length_eq, sortedValues_eq_map]
      simp [entries]
    · rw [← lookup_perm hkeys hperm.symm, lookup_sortedValues, lookup_object]

end Rearrangement

/-! ## Fields of rearranged objects -/

section Fields

variable (s : Rearrangement)

/-- A scalar has nothing to rearrange. -/
@[simp]
theorem rearranged_scalar (value : Scalar) : s (scalar value) = scalar value := s.apply_scalar value

/-- A list keeps the order of its items, which are rearranged one by one. -/
@[simp]
theorem rearranged_list (items : List Document) : s (list items) = list (items.map s) :=
  s.apply_list items

/-- A text is a scalar and stays as it is. -/
@[simp]
theorem rearranged_text (value : String) : s (text value) = text value := s.apply_scalar _

/-- A number is a scalar and stays as it is. -/
@[simp]
theorem rearranged_number (value : Number) : s (number value) = number value := s.apply_scalar _

/-- A boolean is a scalar and stays as it is. -/
@[simp]
theorem rearranged_bool (value : Bool) : s (bool value) = bool value := s.apply_scalar _

/-- Null is a scalar and stays as it is. -/
@[simp]
theorem rearranged_null : s null = null := s.apply_scalar _

variable {fields : List (String × Document)} (hnodup : (fields.map Prod.fst).Nodup)

include hnodup

/-- A required field of a rearranged object is the rearranged field, or it is missing by its name.
-/
@[simp]
theorem require_object (key : String) :
    (s (object fields)).require key =
      match fields.lookup key with
      | some value => .ok (s value)
      | none => .error (.missingField key) := by
  rcases s.apply_object fields hnodup with ⟨entries, heq, -, hlookup⟩
  rw [heq, require, hlookup]
  cases fields.lookup key <;> rfl

/-- An optional field of a rearranged object is the rearranged field, if the object has it. -/
@[simp]
theorem field?_object (key : String) :
    (s (object fields)).field? key = .ok ((fields.lookup key).map s) := by
  rcases s.apply_object fields hnodup with ⟨entries, heq, -, hlookup⟩
  rw [heq, field?, hlookup]

/-- A rearranged object counts as nothing exactly if the object has no fields. -/
@[simp]
theorem isEmpty_object : (s (object fields)).isEmpty = fields.isEmpty := by
  rcases s.apply_object fields hnodup with ⟨entries, heq, hlength, -⟩
  rw [heq, isEmpty]
  cases fields with
  | nil => rw [List.eq_nil_of_length_eq_zero hlength]; rfl
  | cons field fields =>
    rcases List.exists_cons_of_length_eq_add_one hlength with ⟨entry, others, rfl⟩
    rfl

/-- A rearranged object is not null. -/
@[simp]
theorem isNull_object : (s (object fields)).isNull = false := by
  rcases s.apply_object fields hnodup with ⟨entries, heq, -, -⟩
  rw [heq]
  rfl

/-- A field that is null when absent is taken out of a rearranged object. -/
@[simp]
theorem fieldOrNull_object (key : String) :
    (s (object fields)).fieldOrNull key = .ok (((fields.lookup key).map s).getD null) := by
  rw [fieldOrNull, field?_object s hnodup]
  rfl

/-- A field with a standard value is read from a rearranged object, or that value is given. -/
@[simp]
theorem fieldOr_object {α : Type} (key : String) (read : Document → Except ReadError α)
    (standard : α) :
    (s (object fields)).fieldOr key read standard =
      match fields.lookup key with
      | some value => read (s value)
      | none => .ok standard := by
  rw [fieldOr, field?_object s hnodup]
  cases fields.lookup key <;> rfl

/-- A required text is read from the rearranged field of its name. -/
@[simp]
theorem requireText_object (key : String) :
    (s (object fields)).requireText key =
      match fields.lookup key with
      | some value => readText (s value)
      | none => .error (.missingField key) := by
  rw [requireText, require_object s hnodup]
  cases fields.lookup key <;> rfl

/-- A required number is read from the rearranged field of its name. -/
@[simp]
theorem requireNumber_object (key : String) :
    (s (object fields)).requireNumber key =
      match fields.lookup key with
      | some value => readNumber (s value)
      | none => .error (.missingField key) := by
  rw [requireNumber, require_object s hnodup]
  cases fields.lookup key <;> rfl

/-- A flag is read from the rearranged field of its name; without one it is false. -/
@[simp]
theorem flag_object (key : String) :
    (s (object fields)).flag key =
      match fields.lookup key with
      | some value => readBool (s value)
      | none => .ok false := by
  rw [flag, fieldOr_object s hnodup]

/-- A text that may be null is read from the rearranged field of its name; without one there is
none. -/
@[simp]
theorem text?_object (key : String) :
    (s (object fields)).text? key =
      match fields.lookup key with
      | some value => readOptional readText (s value)
      | none => .ok none := by
  rw [text?, fieldOr_object s hnodup]

/-- A number that may be null is read from the rearranged field of its name; without one there is
none. -/
@[simp]
theorem number?_object (key : String) :
    (s (object fields)).number? key =
      match fields.lookup key with
      | some value => readOptional readNumber (s value)
      | none => .ok none := by
  rw [number?, fieldOr_object s hnodup]

/-- Entries are read from the items of the rearranged field of their name; without one there are
none. -/
@[simp]
theorem entriesOf_object {α : Type} (key : String) (read : Document → Except ReadError α) :
    (s (object fields)).entriesOf key read =
      match fields.lookup key with
      | some value => (s value).items >>= fun items => items.mapM read
      | none => .ok [] := by
  rw [entriesOf, field?_object s hnodup]
  cases fields.lookup key <;> rfl

end Fields

/-- The document of a text is read as the text. -/
@[simp]
theorem readText_text (value : String) : readText (text value) = .ok value := rfl

/-- The document of a number is read as the number. -/
@[simp]
theorem readNumber_number (value : Number) : readNumber (number value) = .ok value := rfl

/-- The document of a boolean is read as the boolean. -/
@[simp]
theorem readBool_bool (value : Bool) : readBool (bool value) = .ok value := rfl

/-- A text that may be absent is read back from its document, which is null without it. -/
@[simp]
theorem readOptional_text (s : Rearrangement) (value : Option String) :
    readOptional readText (s (optional text value)) = .ok value := by
  cases value <;> simp [optional] <;> rfl

/-- A number that may be absent is read back from its document, which is null without it. -/
@[simp]
theorem readOptional_number (s : Rearrangement) (value : Option Number) :
    readOptional readNumber (s (optional number value)) = .ok value := by
  cases value <;> simp [optional] <;> rfl

end Document
end Wardley
