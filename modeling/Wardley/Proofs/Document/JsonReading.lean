import Wardley.Proofs.Document.JsonNumbers
import Wardley.Proofs.Document.JsonStrings
import Wardley.Proofs.Document.Shape

/-!
# Documents in JSON read back

A written document is read back whatever text follows it, as long as a number at its end
does not go on there.  The proof is by induction over the document: a value needs one step
more than its items or entries, and the length of its text is always enough.

Main results:

- `readsBack`: a written document with distinct textual keys is read back.
- `Document.json_eq`: a document has a JSON text when all of its numbers have one.
- `Document.ofJson_json`: the JSON text of a document is read as the sorted document.
-/

namespace Wardley

/-- A scalar that its JSON text keeps. -/
structure Scalar.Kept (leaf : Scalar) : Prop where
  hasText : leaf.hasText = true
  notNaN : leaf.NotNaN
  notTimestamp : leaf.NotTimestamp

/-- A leaf that is a number has a text exactly when the number has. -/
theorem Scalar.hasText_number (value : Number) :
    (Scalar.number value).hasText = value.hasText := rfl

namespace Json

/-! ## Leaves -/

/-- A value that starts as a leaf is read as a leaf. -/
theorem takeValue_of_leaf {c : Char} (hc : isLeafHead c) (fuel : Nat) (text : List Char) :
    takeValue (fuel + 1) (c :: text) =
      (takeLeaf (c :: text)).map fun found => (.scalar found.1, found.2) := by
  unfold takeValue
  split
  · rename_i heq
    injection heq with heq
    exact absurd (heq ▸ hc) (by decide)
  · rename_i heq
    injection heq with heq
    exact absurd (heq ▸ hc) (by decide)
  · rename_i heq
    injection heq with heq
    exact absurd (heq ▸ hc) (by decide)
  · rfl

/-- A digit starts a leaf. -/
theorem isLeafHead_of_isDigit {c : Char} (h : c.isDigit) : isLeafHead c := by
  simp [isLeafHead, Char.isAlphanum, h]

/-- A signed number starts as a leaf does. -/
theorem isLeafHead_signed (negative : Bool) {c : Char} (hc : c.isDigit) (text : List Char) :
    ∃ first others, signed negative (c :: text) = first :: others ∧ isLeafHead first := by
  cases negative with
  | true => exact ⟨'-', _, rfl, rfl⟩
  | false => exact ⟨c, _, rfl, isLeafHead_of_isDigit hc⟩

/-- A number starts with a digit, a sign or a word. -/
theorem isLeafHead_number (value : Number) :
    ∃ first others, (value.text .json).toList = first :: others ∧ isLeafHead first := by
  cases value with
  | int value =>
    rw [Number.text, toList_toString_int]
    rcases (isWhole_toDigits value.natAbs).exists_cons with ⟨c, digits, hcons, -⟩
    rw [hcons]
    exact isLeafHead_signed _ ((isWhole_toDigits value.natAbs).isDigit c (by simp [hcons])) _
  | float value =>
    rw [Number.text, FloatLayout.text, String.toList_ofList]
    cases value with
    | nan => exact ⟨'N', _, rfl, rfl⟩
    | ofRank negative rank =>
      by_cases hinfinite : rank.val = infinityRank
      · simp only [FloatLayout.chars, if_pos hinfinite]
        cases negative with
        | true => exact ⟨'-', _, rfl, rfl⟩
        | false => exact ⟨'I', _, rfl, rfl⟩
      · simp only [FloatLayout.chars, if_neg hinfinite]
        rcases digitsText_eq_cons .json (Double.shortest negative rank) with ⟨c, others, hcons, hc⟩
        rw [hcons]
        exact isLeafHead_signed negative hc others

/-- A leaf without quotes starts as a word or a number does. -/
theorem isLeafHead_writeScalar {leaf : Scalar} (htext : ∀ value, leaf ≠ .text value)
    (htimestamp : leaf.NotTimestamp) :
    ∃ c others, writeScalar leaf = c :: others ∧ isLeafHead c := by
  cases leaf with
  | null => exact ⟨'n', _, rfl, rfl⟩
  | bool value =>
    cases value with
    | true => exact ⟨'t', _, rfl, rfl⟩
    | false => exact ⟨'f', _, rfl, rfl⟩
  | number value => exact isLeafHead_number value
  | text value => exact absurd rfl (htext value)
  | timestamp value => exact absurd rfl (htimestamp value)

/-- A leaf that is no text is read back. -/
theorem takeLeaf_writeScalar {leaf : Scalar} (hkept : leaf.Kept)
    (htext : ∀ value, leaf ≠ .text value) {rest : List Char} (hrest : EndsNumber rest) :
    takeLeaf (writeScalar leaf ++ rest) = .ok (leaf, rest) := by
  cases leaf with
  | null => simp [takeLeaf, takeWord?, wordValues, writeScalar, Text.afterPrefix]
  | bool value =>
    cases value <;> simp [takeLeaf, takeWord?, wordValues, writeScalar, Text.afterPrefix]
  | number value =>
    cases value with
    | int value =>
      have htext := hkept.hasText
      rw [Scalar.hasText_number] at htext
      exact takeLeaf_int htext hrest
    | float value =>
      cases value with
      | nan payload => exact absurd rfl (hkept.notNaN payload)
      | ofRank negative rank => exact takeLeaf_ofRank negative rank hrest
  | text value => exact absurd rfl (htext value)
  | timestamp value => exact absurd rfl (hkept.notTimestamp value)

/-! ## Starts of values -/

/-- A character that is no space and ends neither a list nor a mapping. -/
structure IsValueHead (c : Char) : Prop where
  space : isSpace c = false
  bracket : c ≠ ']'
  brace : c ≠ '\x7d'

/-- What starts a leaf starts a value. -/
theorem isValueHead_of_leaf {c : Char} (h : isLeafHead c) : IsValueHead c := by
  constructor
  · unfold isSpace
    simp only [Bool.or_eq_false_iff, decide_eq_false_iff_not]
    refine ⟨⟨⟨?_, ?_⟩, ?_⟩, ?_⟩ <;>
      · rintro rfl
        exact absurd h (by decide)
  · rintro rfl
    exact absurd h (by decide)
  · rintro rfl
    exact absurd h (by decide)

/-- A written leaf starts as a value does. -/
theorem writeScalar_eq_cons (leaf : Scalar) :
    ∃ c others, writeScalar leaf = c :: others ∧ IsValueHead c := by
  have hquote : IsValueHead '"' := ⟨rfl, by decide, by decide⟩
  by_cases htext : ∃ value, leaf = .text value
  · rcases htext with ⟨value, rfl⟩
    exact ⟨'"', _, rfl, hquote⟩
  by_cases htimestamp : ∃ value, leaf = .timestamp value
  · rcases htimestamp with ⟨value, rfl⟩
    exact ⟨'"', _, rfl, hquote⟩
  obtain ⟨c, others, hcons, hc⟩ := isLeafHead_writeScalar
    (fun value h => htext ⟨value, h⟩) (fun value h => htimestamp ⟨value, h⟩)
  exact ⟨c, others, hcons, isValueHead_of_leaf hc⟩

/-- A written document starts as a value does. -/
theorem write_eq_cons (document : Document) :
    ∃ c others, write document = c :: others ∧ IsValueHead c := by
  match document with
  | .scalar leaf => exact writeScalar_eq_cons leaf
  | .list [] => exact ⟨'[', _, rfl, by decide, by decide, by decide⟩
  | .list (_ :: _) => exact ⟨'[', _, rfl, by decide, by decide, by decide⟩
  | .mapping [] => exact ⟨'\x7b', _, rfl, by decide, by decide, by decide⟩
  | .mapping (_ :: _) => exact ⟨'\x7b', _, rfl, by decide, by decide, by decide⟩

/-- No space is skipped in front of another character. -/
theorem skipSpace_cons {c : Char} (h : isSpace c = false) (text : List Char) :
    skipSpace (c :: text) = c :: text := by
  simp [skipSpace, h]

/-- A space is skipped. -/
theorem skipSpace_space (text : List Char) : skipSpace (' ' :: text) = skipSpace text := rfl

/-- No space stands in front of a written document. -/
theorem skipSpace_write (document : Document) (rest : List Char) :
    skipSpace (write document ++ rest) = write document ++ rest := by
  rcases write_eq_cons document with ⟨c, others, hcons, hc⟩
  rw [hcons]
  exact skipSpace_cons hc.space _

/-- The items or entries that follow end a number in front of them. -/
theorem endsNumber_cons {c : Char} (h : c = ',' ∨ c = ']' ∨ c = '\x7d') (text : List Char) :
    EndsNumber (c :: text) := by
  intro d hd
  rw [List.head?_cons, Option.mem_some_iff] at hd
  subst hd
  rcases h with rfl | rfl | rfl <;> decide

/-! ## Lists -/

/-- A written document is read back in as many steps as its text has characters. -/
def ReadsBack (document : Document) : Prop :=
  ∀ (fuel : Nat) (rest : List Char), (write document).length < fuel → EndsNumber rest →
    takeValue fuel (write document ++ rest) = .ok (document, rest)

/-- The first item is read, and then what follows it decides. -/
theorem takeItems_step {item : Document} (hitem : ReadsBack item) {fuel : Nat}
    (hfuel : (write item).length < fuel) {after : List Char} (hafter : EndsNumber after) :
    takeItems (fuel + 1) (write item ++ after) =
      match skipSpace after with
      | ']' :: rest => pure ([item], rest)
      | ',' :: more => do
        let (items, rest) ← takeItems fuel (skipSpace more)
        pure (item :: items, rest)
      | _ => throw .malformed := by
  rw [takeItems, hitem fuel after hfuel hafter]
  rfl

/-- The items of a written list are read back one after the other. -/
theorem takeItems_write {items : List Document} : ∀ {item : Document} {fuel : Nat},
    (∀ read ∈ item :: items, ReadsBack read) →
    (write item ++ writeItems items).length < fuel → ∀ rest : List Char,
    takeItems fuel (write item ++ (writeItems items ++ rest)) = .ok (item :: items, rest) := by
  induction items with
  | nil =>
    intro item fuel hread hfuel rest
    simp only [writeItems, List.length_append, List.length_singleton] at hfuel
    obtain ⟨fuel, rfl⟩ : ∃ n, fuel = n + 1 := ⟨fuel - 1, by omega⟩
    exact takeItems_step (hread item List.mem_cons_self) (by omega)
      (endsNumber_cons (.inr (.inl rfl)) rest)
  | cons next items ih =>
    intro item fuel hread hfuel rest
    simp only [writeItems, List.length_append, List.length_cons] at hfuel
    obtain ⟨fuel, rfl⟩ : ∃ n, fuel = n + 1 := ⟨fuel - 1, by omega⟩
    have hlength : (write next ++ writeItems items).length < fuel := by
      rw [List.length_append]
      omega
    have hstep := takeItems_step (hread item List.mem_cons_self)
      (show (write item).length < fuel by omega)
      (endsNumber_cons (.inl rfl) (' ' :: (write next ++ (writeItems items ++ rest))))
    have hrest := ih (fun read hmem => hread read (List.mem_cons_of_mem item hmem)) hlength rest
    simp only [skipSpace_cons (c := ',') rfl, skipSpace_space, skipSpace_write, hrest] at hstep
    simp only [writeItems, List.cons_append, List.append_assoc]
    exact hstep

/-! ## Mappings -/

/-- Two text keys are the same when their texts are. -/
theorem same_text (a b : String) : Scalar.same (.text a) (.text b) = (a == b) := by
  rw [Bool.eq_iff_iff]
  simp [Scalar.same, Scalar.asNumber?]

/-- An entry with a new key is put behind the others. -/
theorem put_fresh {name : String} {seen : List (Scalar × Document)} (value : Document)
    (htext : ∀ key ∈ Document.keys seen, ∃ other, key = .text other)
    (hfresh : Scalar.text name ∉ Document.keys seen) :
    Document.put (.text name) value seen = seen ++ [(.text name, value)] := by
  induction seen with
  | nil => rfl
  | cons entry seen ih =>
    rcases entry with ⟨key, found⟩
    rcases htext key List.mem_cons_self with ⟨other, rfl⟩
    have hne : (other == name) = false := by
      rw [beq_eq_false_iff_ne]
      rintro rfl
      exact hfresh List.mem_cons_self
    rw [Document.put, same_text, hne,
      ih (fun key hkey => htext key (List.mem_cons_of_mem _ hkey))
        (fun hmem => hfresh (List.mem_cons_of_mem _ hmem))]
    rfl

/-- A key not seen before is put behind the others. -/
theorem put_of_distinct {name : String} {value : Document}
    {seen others : List (Scalar × Document)}
    (h : Document.DistinctKeys (seen ++ (.text name, value) :: others)) :
    Document.put (.text name) value seen = seen ++ [(.text name, value)] := by
  have hkeys : Document.keys (seen ++ (.text name, value) :: others) =
      Document.keys seen ++ .text name :: Document.keys others := by
    simp [Document.keys]
  have htext := h.text
  have hnodup := h.nodup
  rw [hkeys] at htext hnodup
  apply put_fresh
  · exact fun key hkey => htext key (List.mem_append_left _ hkey)
  · intro hmem
    exact (List.nodup_append.1 hnodup).2.2 _ hmem _ List.mem_cons_self rfl

/-- A written string, in front of a text. -/
theorem writeString_append (text rest : List Char) :
    writeString text ++ rest = '"' :: (text.flatMap writeChar ++ '"' :: rest) := by
  simp [writeString]

/-- The first entry is read, and then what follows it decides. -/
theorem takeEntries_step {value : Document} (hvalue : ReadsBack value) (name : String)
    (seen : List (Scalar × Document)) {fuel : Nat} (hfuel : (write value).length < fuel)
    {after : List Char} (hafter : EndsNumber after) :
    takeEntries (fuel + 1) seen (writeString name.toList ++ ':' :: ' ' :: (write value ++ after)) =
      match skipSpace after with
      | '\x7d' :: rest => .ok (Document.put (.text name) value seen, rest)
      | ',' :: more => takeEntries fuel (Document.put (.text name) value seen) (skipSpace more)
      | _ => .error .malformed := by
  simp only [writeString_append, takeEntries, takeString_written, bind, Except.bind,
    skipSpace_cons (c := ':') rfl, skipSpace_space, skipSpace_write,
    hvalue fuel after hfuel hafter, String.ofList_toList]
  rfl

/-- The entries of a written mapping are read back one after the other. -/
theorem takeEntries_write {entries : List (Scalar × Document)} :
    ∀ {name : String} {value : Document} {seen : List (Scalar × Document)} {fuel : Nat},
    (∀ entry ∈ (.text name, value) :: entries, ReadsBack entry.2) →
    Document.DistinctKeys (seen ++ (.text name, value) :: entries) →
    (writeString name.toList ++ ':' :: ' ' :: (write value ++ writeEntries entries)).length < fuel →
    ∀ rest : List Char,
    takeEntries fuel seen
        (writeString name.toList ++ ':' :: ' ' :: (write value ++ (writeEntries entries ++ rest))) =
      .ok (seen ++ (.text name, value) :: entries, rest) := by
  induction entries with
  | nil =>
    intro name value seen fuel hread hkeys hfuel rest
    simp only [writeEntries, List.length_append, List.length_cons] at hfuel
    obtain ⟨fuel, rfl⟩ : ∃ n, fuel = n + 1 := ⟨fuel - 1, by omega⟩
    have hstep := takeEntries_step (hread _ List.mem_cons_self) name seen
      (show (write value).length < fuel by omega) (endsNumber_cons (.inr (.inr rfl)) rest)
    rw [put_of_distinct hkeys] at hstep
    exact hstep
  | cons next entries ih =>
    intro name value seen fuel hread hkeys hfuel rest
    rcases next with ⟨key, found⟩
    rcases hkeys.text key (by simp [Document.keys]) with ⟨other, rfl⟩
    simp only [writeEntries, keyText, List.length_append, List.length_cons] at hfuel
    obtain ⟨fuel, rfl⟩ : ∃ n, fuel = n + 1 := ⟨fuel - 1, by omega⟩
    have hlength : (writeString other.toList ++
        ':' :: ' ' :: (write found ++ writeEntries entries)).length < fuel := by
      simp only [List.length_append, List.length_cons]
      omega
    have hnext : Document.DistinctKeys
        (seen ++ [(.text name, value)] ++ (.text other, found) :: entries) := by
      simpa using hkeys
    have hrest :=
      ih (fun entry hmem => hread entry (List.mem_cons_of_mem _ hmem)) hnext hlength rest
    let after := writeString other.toList ++
      ':' :: ' ' :: (write found ++ (writeEntries entries ++ rest))
    have hspace : skipSpace after = after := skipSpace_cons (c := '"') rfl _
    have hstep := takeEntries_step (hread _ List.mem_cons_self) name seen
      (show (write value).length < fuel by omega) (endsNumber_cons (.inl rfl) (' ' :: after))
    simp only [put_of_distinct hkeys, skipSpace_cons (c := ',') rfl, skipSpace_space,
      hspace] at hstep
    rw [hrest, List.append_assoc, List.singleton_append] at hstep
    simpa only [writeEntries, keyText, List.cons_append, List.append_assoc] using hstep

/-! ## Documents -/

/-- A written string is read back. -/
theorem takeValue_string (fuel : Nat) (value : String) (rest : List Char) :
    takeValue (fuel + 1) (writeString value.toList ++ rest) = .ok (.text value, rest) := by
  simp only [writeString_append, takeValue, takeString_written, bind, Except.bind,
    String.ofList_toList]
  rfl

/-- What an opening bracket starts is a list of the items behind it. -/
theorem takeValue_bracket {fuel : Nat} {text rest : List Char} {items : List Document} {c : Char}
    {others : List Char} (htext : text = c :: others) (hc : IsValueHead c)
    (hitems : takeItems fuel text = .ok (items, rest)) :
    takeValue (fuel + 1) ('[' :: text) = .ok (.list items, rest) := by
  subst htext
  simp only [takeValue, skipSpace_cons hc.space]
  split
  · rename_i heq
    injection heq with heq
    exact absurd heq hc.bracket
  · rw [hitems]
    rfl

/-- What an opening brace starts is a mapping of the entries behind it. -/
theorem takeValue_brace {fuel : Nat} {text rest : List Char} {entries : List (Scalar × Document)}
    {c : Char} {others : List Char} (htext : text = c :: others) (hc : IsValueHead c)
    (hentries : takeEntries fuel [] text = .ok (entries, rest)) :
    takeValue (fuel + 1) ('\x7b' :: text) = .ok (.mapping entries, rest) := by
  subst htext
  simp only [takeValue, skipSpace_cons hc.space]
  split
  · rename_i heq
    injection heq with heq
    exact absurd heq hc.brace
  · rw [hentries]
    rfl

/-- A leaf that JSON keeps is read back. -/
theorem readsBack_scalar {leaf : Scalar} (hkept : leaf.Kept) : ReadsBack (.scalar leaf) := by
  intro fuel rest hfuel hrest
  obtain ⟨fuel, rfl⟩ : ∃ n, fuel = n + 1 := ⟨fuel - 1, by omega⟩
  by_cases htext : ∃ value, leaf = .text value
  · rcases htext with ⟨value, rfl⟩
    exact takeValue_string fuel value rest
  · have hother : ∀ value, leaf ≠ .text value := fun value h => htext ⟨value, h⟩
    have hread := takeLeaf_writeScalar hkept hother hrest
    rcases isLeafHead_writeScalar hother hkept.notTimestamp with ⟨c, others, hcons, hc⟩
    rw [write]
    rw [hcons] at hread ⊢
    rw [List.cons_append, takeValue_of_leaf hc, ← List.cons_append, hread]
    rfl

/-- A written document with distinct textual keys is read back. -/
theorem readsBack {document : Document} (hkeyed : document.Keyed)
    (hkept : document.AllScalars Scalar.Kept) : ReadsBack document := by
  induction document using Document.inductionOn with
  | scalar leaf => exact readsBack_scalar ((Document.allScalars_scalar _ leaf).1 hkept)
  | list items ih =>
    intro fuel rest hfuel hrest
    obtain ⟨fuel, rfl⟩ : ∃ n, fuel = n + 1 := ⟨fuel - 1, by omega⟩
    rw [Document.keyed_list] at hkeyed
    rw [Document.allScalars_list] at hkept
    cases items with
    | nil => rfl
    | cons item items =>
      have hread := takeItems_write
        (fun read hmem => ih read hmem (hkeyed read hmem) (hkept read hmem))
        (Nat.lt_of_succ_lt_succ hfuel) rest
      rcases write_eq_cons item with ⟨c, others, hcons, hc⟩
      have htext : write item ++ (writeItems items ++ rest) =
          c :: (others ++ (writeItems items ++ rest)) := by
        rw [hcons]
        rfl
      have hwrite : write (.list (item :: items)) ++ rest =
          '[' :: (write item ++ (writeItems items ++ rest)) := by
        simp only [write, List.cons_append, List.append_assoc]
      rw [hwrite]
      exact takeValue_bracket htext hc hread
  | mapping entries ih =>
    intro fuel rest hfuel hrest
    obtain ⟨fuel, rfl⟩ : ∃ n, fuel = n + 1 := ⟨fuel - 1, by omega⟩
    rw [Document.keyed_mapping] at hkeyed
    rw [Document.allScalars_mapping] at hkept
    cases entries with
    | nil => rfl
    | cons entry entries =>
      rcases entry with ⟨key, value⟩
      rcases hkeyed.1.text key List.mem_cons_self with ⟨name, rfl⟩
      have hkeys : Document.DistinctKeys ([] ++ (.text name, value) :: entries) := hkeyed.1
      have hread := takeEntries_write
        (fun entry hmem => ih entry hmem (hkeyed.2 entry hmem) (hkept entry hmem).2)
        hkeys (Nat.lt_of_succ_lt_succ hfuel) rest
      have hwrite : write (.mapping ((.text name, value) :: entries)) ++ rest =
          '\x7b' :: (writeString name.toList ++
            ':' :: ' ' :: (write value ++ (writeEntries entries ++ rest))) := by
        simp only [write, keyText, List.cons_append, List.append_assoc]
      rw [hwrite]
      exact takeValue_brace (writeString_append _ _) ⟨rfl, by decide, by decide⟩ hread

/-! ## Texts -/

/-- Writing a leaf that is no timestamp fails only for want of a text. -/
theorem scalarError?_eq {leaf : Scalar} (h : leaf.NotTimestamp) :
    scalarError? leaf = if leaf.hasText then none else some .tooManyDigits := by
  cases leaf with
  | number value => rw [scalarError?, Scalar.hasText_number]
  | timestamp value => exact absurd rfl (h value)
  | null | bool | text => rfl

/-- The first of two errors of one kind is that error unless both parts succeed. -/
theorem or_ite_error (a b : Bool) (error : WriteError) :
    (if a then none else some error).or (if b then none else some error) =
      if a && b then none else some error := by
  cases a <;> cases b <;> rfl

/-- Writing items fails only where an item has no text. -/
theorem itemsError?_eq {items : List Document}
    (h : ∀ item ∈ items, error? item = if item.hasText then none else some .tooManyDigits) :
    itemsError? items = if Document.itemsHaveText items then none else some .tooManyDigits := by
  induction items with
  | nil => rfl
  | cons item items ih =>
    rw [itemsError?, h item List.mem_cons_self,
      ih fun read hmem => h read (List.mem_cons_of_mem item hmem), or_ite_error,
      Document.itemsHaveText]

/-- Writing entries fails only where a value has no text. -/
theorem entriesError?_eq {entries : List (Scalar × Document)}
    (hkeys : ∀ entry ∈ entries, entry.1.NotTimestamp)
    (h : ∀ entry ∈ entries,
      error? entry.2 = if entry.2.hasText then none else some .tooManyDigits) :
    entriesError? entries =
      if Document.entriesHaveText entries then none else some .tooManyDigits := by
  induction entries with
  | nil => rfl
  | cons entry entries ih =>
    rcases entry with ⟨key, value⟩
    have hkey := scalarError?_eq (hkeys _ List.mem_cons_self)
    have hvalue := h _ List.mem_cons_self
    have hrest := ih (fun read hmem => hkeys read (List.mem_cons_of_mem _ hmem))
      (fun read hmem => h read (List.mem_cons_of_mem _ hmem))
    simp only at hkey hvalue
    rw [entriesError?, hkey, hvalue, hrest, or_ite_error, or_ite_error, Document.entriesHaveText,
      Bool.and_assoc]

/-- The one reason for which a document without timestamps cannot be written. -/
theorem error?_eq {document : Document} (hkeyed : document.Keyed)
    (htimestamp : document.AllScalars Scalar.NotTimestamp) :
    error? document = if document.hasText then none else some .tooManyDigits := by
  induction document using Document.inductionOn with
  | scalar leaf => exact scalarError?_eq ((Document.allScalars_scalar _ leaf).1 htimestamp)
  | list items ih =>
    rw [Document.keyed_list] at hkeyed
    rw [Document.allScalars_list] at htimestamp
    rw [error?, Document.hasText]
    exact itemsError?_eq fun item hmem => ih item hmem (hkeyed item hmem) (htimestamp item hmem)
  | mapping entries ih =>
    rw [Document.keyed_mapping] at hkeyed
    rw [Document.allScalars_mapping] at htimestamp
    rw [error?, if_pos hkeyed.1.areOrdered, Document.hasText]
    exact entriesError?_eq (fun entry hmem => (htimestamp entry hmem).1)
      (fun entry hmem => ih entry hmem (hkeyed.2 entry hmem) (htimestamp entry hmem).2)

end Json

namespace Document

/-- A document without timestamps has a JSON text when all of its numbers have one. -/
theorem json_eq {document : Document} (hkeyed : document.Keyed)
    (htimestamp : document.AllScalars Scalar.NotTimestamp) :
    document.json = if document.hasText then .ok (String.ofList (Json.write document.sorted))
      else .error .tooManyDigits := by
  rw [json, Json.error?_eq hkeyed.sorted (allScalars_sorted.2 htimestamp), hasText_sorted]
  cases document.hasText <;> rfl

/-- The JSON text of a document is read as the sorted document. -/
theorem ofJson_json {document : Document} (hkeyed : document.Keyed)
    (htimestamp : document.AllScalars Scalar.NotTimestamp)
    (hnan : document.AllScalars Scalar.NotNaN) (htext : document.hasText = true) :
    ∃ text, document.json = .ok text ∧ ofJson text = .ok document.sorted := by
  have hkept : document.AllScalars Scalar.Kept :=
    ((hasText_iff.1 htext).and (hnan.and htimestamp)).imp fun _ h => ⟨h.1, h.2.1, h.2.2⟩
  refine ⟨String.ofList (Json.write document.sorted), ?_, ?_⟩
  · rw [json_eq hkeyed htimestamp, if_pos htext]
  · have hread := Json.readsBack hkeyed.sorted (allScalars_sorted.2 hkept) _ []
      (Nat.lt_succ_self _) (by simp [Json.EndsNumber])
    have hspace := Json.skipSpace_write document.sorted []
    rw [List.append_nil] at hread hspace
    rw [ofJson, String.toList_ofList, Json.read, hspace, hread]
    rfl

end Document
end Wardley
