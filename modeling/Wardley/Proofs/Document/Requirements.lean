import Wardley.Proofs.Document.ReadingBack

/-!
# Requirements on documents

A requirement says which documents are admitted, which required fields an admitted one lacks,
and what it is with the standard values of the fields that it leaves out.  Requirements are
put together like documents: from leaves, from lists of entries and from objects with fields.
A reader meets a requirement if it fails at the first field that is lacking, and otherwise
gives a value that has the completed document.

Main definitions:

- `Requirement`: what is required of a document.
- `Requirement.object`, and `required`, `optional`, `nullable`, `kind`, `part`, `entries`: the
  requirements on objects and on their fields.
- `Meets`: a reading that fails at the first lacking field.
- `Requirement.MetBy`, `Follows`: readers of documents, and of the fields of an object.

Main results:

- `Meets.bind`, `meets_mapM`: readings one after the other.
- `Follows.field`, `Follows.partOf`: the first field of an object.
- `meets_required`, and one such lemma for each sort of field.
-/

namespace Wardley

open Document

/-! ## Requirements -/

/-- The types of leaves. -/
inductive Leaf where
  | text
  | number
  | flag
  deriving DecidableEq, Repr

/-- The document is a leaf of a type. -/
def Leaf.admits : Leaf → Document → Bool
  | text, .scalar (.text _) => true
  | number, .scalar (.number _) => true
  | flag, .scalar (.bool _) => true
  | _, _ => false

/-- What is required of a document. -/
structure Requirement where
  /-- What is there is of the right type. -/
  admits : Document → Bool
  /-- The required fields that are lacking, in the order in which they are taken. -/
  missing : Document → List String
  /-- The document with standard values for what it leaves out. -/
  completed : Document → Document

/-- The document is an object. -/
def Document.isObject : Document → Bool
  | mapping _ => true
  | _ => false

/-- The document is the word of a kind. -/
def Document.isKind : Document → Bool
  | scalar (.text word) => ElementKind.all.any fun kind => kind.word == word
  | _ => false

/-- All items of a list satisfy a condition; no other document is a list. -/
def Document.isListOf (p : Document → Bool) : Document → Bool
  | list items => items.all p
  | _ => false

/-- The items of the list under a name. -/
def Document.entriesUnder (document : Document) (name : String) : List Document :=
  match document.get? name with
  | some (list items) => items
  | _ => []

namespace Requirement

/-- An object with fields, each of which meets a requirement on the object. -/
def object (fields : List (String × Requirement)) : Requirement where
  admits document := document.isObject && fields.all fun field => field.2.admits document
  missing document := fields.flatMap fun field => field.2.missing document
  completed document := .object (fields.map fun field => (field.1, field.2.completed document))

/-- An object is admitted exactly when the document has fields and each part admits it. -/
theorem admits_object {fields : List (String × Requirement)} {document : Document} :
    (object fields).admits document = true ↔
      document.isObject = true ∧ ∀ field ∈ fields, field.2.admits document = true := by
  rw [object, Bool.and_eq_true, List.all_eq_true]

/-! ## Fields -/

/-- A leaf that an object must have. -/
def required (leaf : Leaf) (name : String) : String × Requirement :=
  (name, {
    admits := fun document => (document.get? name).all leaf.admits
    missing := fun document => if (document.get? name).isSome then [] else [name]
    completed := fun document => (document.get? name).getD .null })

/-- A leaf with a standard value. -/
def optional (leaf : Leaf) (standard : Document) (name : String) : String × Requirement :=
  (name, {
    admits := fun document => (document.get? name).all leaf.admits
    missing := fun _ => []
    completed := fun document => (document.get? name).getD standard })

/-- A leaf that may be null, as it is when absent. -/
def nullable (leaf : Leaf) (name : String) : String × Requirement :=
  (name, {
    admits := fun document =>
      (document.get? name).all fun found => found.isNull || leaf.admits found
    missing := fun _ => []
    completed := fun document => (document.get? name).getD .null })

/-- A flag that is false when absent. -/
def flag (name : String) : String × Requirement := optional .flag (.bool false) name

/-- The kind of an element, which is a component when absent. -/
def kind : String × Requirement :=
  ("kind", {
    admits := fun document => (document.get? "kind").all isKind
    missing := fun _ => []
    completed := fun document => (document.get? "kind").getD (.text "component") })

/-- An object with a requirement of its own; what counts as absent is the standard one. -/
def part (absent : Document → Bool) (requirement : Requirement) (standard : Document)
    (name : String) : String × Requirement :=
  let given? (document : Document) := (document.get? name).filter fun found => !absent found
  (name, {
    admits := fun document => (given? document).all requirement.admits
    missing := fun document => (given? document).elim [] requirement.missing
    completed := fun document => (given? document).elim standard requirement.completed })

/-- A list of entries with a requirement of their own, empty when absent. -/
def entries (requirement : Requirement) (name : String) : String × Requirement :=
  (name, {
    admits := fun document => (document.get? name).all (isListOf requirement.admits)
    missing := fun document => (document.entriesUnder name).flatMap requirement.missing
    completed := fun document => .list ((document.entriesUnder name).map requirement.completed) })

end Requirement

/-! ## Readings -/

variable {α β : Type}

/-- A reading fails at the first of some missing fields; if none is missing, it gives a value. -/
def Meets (outcome : Except ReadError α) (missing : List String) (holds : α → Prop) : Prop :=
  match missing with
  | [] => ∃ value, outcome = .ok value ∧ holds value
  | name :: _ => outcome = .error (.missingField name)

theorem meets_ok {holds : α → Prop} {value : α} (h : holds value) :
    Meets (.ok value : Except ReadError α) [] holds := ⟨value, rfl, h⟩

/-- What the first reading misses comes before what the second one misses. -/
theorem Meets.bind {outcome : Except ReadError α} {missing : List String} {holds : α → Prop}
    {next : α → Except ReadError β} {later : List String} {holds' : β → Prop}
    (h : Meets outcome missing holds)
    (hnext : ∀ value, holds value → Meets (next value) later holds') :
    Meets (outcome >>= next) (missing ++ later) holds' := by
  cases missing with
  | nil =>
      rcases h with ⟨value, rfl, hvalue⟩
      exact hnext value hvalue
  | cons name rest =>
      obtain rfl : outcome = .error (.missingField name) := h
      rfl

theorem Meets.mono {outcome : Except ReadError α} {missing : List String} {holds holds' : α → Prop}
    (h : Meets outcome missing holds) (hmono : ∀ value, holds value → holds' value) :
    Meets outcome missing holds' := by
  cases missing with
  | nil =>
      rcases h with ⟨value, hvalue, hholds⟩
      exact ⟨value, hvalue, hmono value hholds⟩
  | cons name rest => exact h

/-- A reader meets a requirement: what it gives has the completed document. -/
def Requirement.MetBy (requirement : Requirement) (read : Document → Except ReadError α)
    (write : α → Document) : Prop :=
  ∀ document, requirement.admits document = true →
    Meets (read document) (requirement.missing document) fun value =>
      write value = requirement.completed document

/-- Entries are read one after the other. -/
theorem meets_mapM {requirement : Requirement} {read : Document → Except ReadError α}
    {write : α → Document} (h : requirement.MetBy read write) {items : List Document}
    (hitems : items.all requirement.admits = true) :
    Meets (items.mapM read) (items.flatMap requirement.missing) fun values =>
      values.map write = items.map requirement.completed := by
  induction items with
  | nil => exact meets_ok rfl
  | cons item rest ih =>
      rw [List.all_cons, Bool.and_eq_true] at hitems
      rw [List.mapM_cons, List.flatMap_cons]
      refine (h item hitems.1).bind fun value hvalue => ?_
      rw [← List.append_nil (rest.flatMap _)]
      refine (ih hitems.2).bind fun values hvalues => meets_ok ?_
      rw [List.map_cons, List.map_cons, hvalue, hvalues]

/-! ## Fields of an object -/

/-- A reading takes fields out of an object, one after the other. -/
def Follows (document : Document) (fields : List (String × Requirement))
    (outcome : Except ReadError α) (holds : α → Prop) : Prop :=
  (∀ field ∈ fields, field.2.admits document = true) →
    Meets outcome (fields.flatMap fun field => field.2.missing document) holds

section Fields

variable {document : Document} {first : String × Requirement}
  {fields : List (String × Requirement)} {holds : β → Prop}

/-- Reading no further part succeeds at once. -/
theorem follows_nil {value : β} (h : holds value) : Follows document [] (pure value) holds :=
  fun _ => meets_ok h

/-- The first field is taken before the others. -/
theorem Follows.field {outcome : Except ReadError α} {write : α → Document}
    {next : α → Except ReadError β}
    (hfirst : first.2.admits document = true →
      Meets outcome (first.2.missing document) fun value =>
        write value = first.2.completed document)
    (hrest : ∀ value, write value = first.2.completed document →
      Follows document fields (next value) holds) :
    Follows document (first :: fields) (outcome >>= next) holds := by
  intro hadmits
  rcases List.forall_mem_cons.1 hadmits with ⟨hhead, hfields⟩
  exact (hfirst hhead).bind fun value hvalue => hrest value hvalue hfields

/-- The first field is taken and its part is read before the others. -/
theorem Follows.partOf {γ : Type} {outcome : Except ReadError γ}
    {read : γ → Except ReadError α} {write : α → Document} {next : α → Except ReadError β}
    (hfirst : first.2.admits document = true →
      Meets (outcome >>= read) (first.2.missing document) fun value =>
        write value = first.2.completed document)
    (hrest : ∀ value, write value = first.2.completed document →
      Follows document fields (next value) holds) :
    Follows document (first :: fields) (outcome >>= fun found => read found >>= next) holds := by
  rw [← bind_assoc]
  exact Follows.field hfirst hrest

/-- A reader that takes the fields of an object out of it meets the requirement on the object. -/
theorem Requirement.metBy_object {read : Document → Except ReadError α} {write : α → Document}
    (h : ∀ document, document.isObject = true → Follows document fields (read document)
      fun value => write value =
        .object (fields.map fun field => (field.1, field.2.completed document))) :
    (object fields).MetBy read write := by
  intro document hadmits
  rcases admits_object.1 hadmits with ⟨hobject, hfields⟩
  exact h document hobject hfields

end Fields

/-! ## Sorts of fields -/

/-- A reader of leaves gives the value of every leaf of a type. -/
def Leaf.ReadBy (leaf : Leaf) (read : Document → Except ReadError α) (write : α → Document) :
    Prop :=
  ∀ document, leaf.admits document = true → ∃ value, read document = .ok value ∧
    write value = document

/-- A text is read by the text reader. -/
theorem readBy_text : Leaf.text.ReadBy readText Document.text
  | .scalar (.text value), _ => ⟨value, rfl, rfl⟩

/-- A number is read by the number reader. -/
theorem readBy_number : Leaf.number.ReadBy readNumber Document.number
  | .scalar (.number value), _ => ⟨value, rfl, rfl⟩

/-- A flag is read by the flag reader. -/
theorem readBy_flag : Leaf.flag.ReadBy readBool Document.bool
  | .scalar (.bool value), _ => ⟨value, rfl, rfl⟩

/-- A document with fields is not null. -/
theorem not_isNull_of_isObject {document : Document} (h : document.isObject = true) :
    ¬ document.isNull = true := by
  match document with
  | .mapping _ => exact Bool.false_ne_true

/-- A document that counts as null is null. -/
theorem eq_null_of_isNull {document : Document} (h : document.isNull = true) :
    document = .null := by
  match document with
  | .scalar .null => rfl

/-- A leaf that is admitted is not null. -/
theorem Leaf.isNull_of_admits {document : Document} (leaf : Leaf)
    (h : leaf.admits document = true) : document.isNull = false := by
  match document with
  | .scalar .null => cases leaf <;> cases h
  | .scalar (.bool _) | .scalar (.number _) | .scalar (.text _) | .scalar (.timestamp _) => rfl
  | .list _ | .mapping _ => rfl

/-- A document that is a kind is the word of a kind. -/
theorem exists_kind_of_isKind {document : Document} (h : document.isKind = true) :
    ∃ kind : ElementKind, document = .text kind.word := by
  match document with
  | .scalar (.text word) =>
      rcases List.any_eq_true.1 h with ⟨kind, -, hword⟩
      exact ⟨kind, by rw [← eq_of_beq hword, Document.text]⟩

section Sorts

variable {document : Document} (hobject : document.isObject = true)
include hobject

/-- Requiring a field of an object fails only where the field is absent. -/
theorem require_eq (name : String) :
    document.require name =
      match document.get? name with
      | some found => .ok found
      | none => .error (.missingField name) := by
  cases document with
  | mapping entries => rfl
  | scalar _ => cases hobject
  | list _ => cases hobject

/-- Asking an object for a field never fails. -/
theorem field?_eq (name : String) : document.field? name = .ok (document.get? name) := by
  cases document with
  | mapping entries => rfl
  | scalar _ => cases hobject
  | list _ => cases hobject

/-- Asking an object for a field, with null for an absent one, never fails. -/
theorem fieldOrNull_eq (name : String) :
    document.fieldOrNull name = .ok ((document.get? name).getD .null) := by
  rw [fieldOrNull, field?_eq hobject]
  rfl

variable {leaf : Leaf} {read : Document → Except ReadError α} {write : α → Document}
  {name : String}

/-- A required field of a leaf is read, or named as missing. -/
theorem meets_required (hleaf : leaf.ReadBy read write)
    (hadmits : (Requirement.required leaf name).2.admits document = true) :
    Meets (document.require name >>= read) ((Requirement.required leaf name).2.missing document)
      fun value => write value = (Requirement.required leaf name).2.completed document := by
  rw [require_eq hobject]
  simp only [Requirement.required] at hadmits ⊢
  cases hfound : document.get? name with
  | none => rfl
  | some found =>
      rw [hfound] at hadmits
      rcases hleaf found hadmits with ⟨value, hread, hwrite⟩
      exact ⟨value, hread, hwrite⟩

/-- A field with a default is read, and completed by the default. -/
theorem meets_optional (hleaf : leaf.ReadBy read write) {standard : α}
    (hadmits : (Requirement.optional leaf (write standard) name).2.admits document = true) :
    Meets (document.fieldOr name read standard)
      ((Requirement.optional leaf (write standard) name).2.missing document)
      fun value =>
        write value = (Requirement.optional leaf (write standard) name).2.completed document := by
  rw [fieldOr, field?_eq hobject]
  simp only [Requirement.optional] at hadmits ⊢
  cases hfound : document.get? name with
  | none => exact meets_ok rfl
  | some found =>
      rw [hfound] at hadmits
      exact hleaf found hadmits

/-- A field that may be null is read, and completed by null. -/
theorem meets_nullable (hleaf : leaf.ReadBy read write)
    (hadmits : (Requirement.nullable leaf name).2.admits document = true) :
    Meets (document.fieldOr name (readOptional read) none)
      ((Requirement.nullable leaf name).2.missing document) fun value =>
        Document.optional write value = (Requirement.nullable leaf name).2.completed document := by
  rw [fieldOr, field?_eq hobject]
  simp only [Requirement.nullable] at hadmits ⊢
  cases hfound : document.get? name with
  | none => exact meets_ok rfl
  | some found =>
      rw [hfound, Option.all_some, Bool.or_eq_true] at hadmits
      rcases hadmits with hnull | hadmits
      · obtain rfl := eq_null_of_isNull hnull
        exact meets_ok rfl
      · rcases hleaf found hadmits with ⟨value, hvalue, rfl⟩
        have hnull : (write value).isNull = false := leaf.isNull_of_admits hadmits
        refine ⟨some value, ?_, rfl⟩
        change readOptional read (write value) = _
        rw [readOptional, hnull, hvalue]
        rfl

/-- The kind is read, and completed by the word for a component. -/
theorem meets_kind (hadmits : Requirement.kind.2.admits document = true) :
    Meets (document.field? "kind" >>= fun found =>
        ElementKind.ofDocument (found.getD (.text "component")))
      (Requirement.kind.2.missing document)
      fun kind => Document.text kind.word = Requirement.kind.2.completed document := by
  rw [field?_eq hobject]
  simp only [Requirement.kind] at hadmits ⊢
  cases hfound : document.get? "kind" with
  | none => exact meets_ok rfl
  | some found =>
      rw [hfound] at hadmits
      rcases exists_kind_of_isKind hadmits with ⟨kind, rfl⟩
      exact ⟨kind, ElementKind.ofDocument_word kind, rfl⟩

/-- A list of entries is read entry by entry, and an absent one is empty. -/
theorem meets_entries {requirement : Requirement} (hread : requirement.MetBy read write)
    (hadmits : (Requirement.entries requirement name).2.admits document = true) :
    Meets (document.entriesOf name read)
      ((Requirement.entries requirement name).2.missing document) fun values =>
        Document.list (values.map write) =
          (Requirement.entries requirement name).2.completed document := by
  rw [entriesOf, field?_eq hobject]
  simp only [Requirement.entries, entriesUnder] at hadmits ⊢
  cases hfound : document.get? name with
  | none => exact meets_ok rfl
  | some found =>
      rw [hfound] at hadmits
      cases found with
      | list items => exact (meets_mapM hread hadmits).mono fun values => congrArg Document.list
      | scalar _ => cases hadmits
      | mapping _ => cases hadmits

/-- A part that is null when absent is read by a reader that tells null from objects. -/
theorem meets_part {requirement : Requirement} {standard : Document}
    (hread : requirement.MetBy read write)
    (hnull : ∃ value, read .null = .ok value ∧ write value = standard)
    (hadmits : (Requirement.part isNull requirement standard name).2.admits document = true) :
    Meets (document.fieldOrNull name >>= read)
      ((Requirement.part isNull requirement standard name).2.missing document) fun value =>
        write value = (Requirement.part isNull requirement standard name).2.completed document := by
  rw [fieldOrNull_eq hobject]
  simp only [Requirement.part] at hadmits ⊢
  cases hfound : document.get? name with
  | none => exact hnull
  | some found =>
      rw [hfound] at hadmits
      by_cases hfoundNull : found.isNull = true
      · obtain rfl := eq_null_of_isNull hfoundNull
        exact hnull
      · have hkept : Option.filter (fun found => !found.isNull) (some found) = some found := by
          simp [hfoundNull]
        rw [hkept] at hadmits ⊢
        exact hread found hadmits

end Sorts

end Wardley
