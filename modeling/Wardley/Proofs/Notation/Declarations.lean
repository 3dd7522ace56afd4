import Wardley.Notation.Fault
import Wardley.Proofs.Text.Trimming

/-!
# Lines that keywords introduce

A keyword without blanks introduces a line exactly when it is the first word of the
line, so that no two keywords introduce the same line.  Declarations therefore stand
for the introduced lines one by one, and reading them splits them into those that give a
record and those that give a diagnostic.

Main results:

- `keywordBody?_eq_some_iff`: the keyword of a line is its first word.
- `introduces_iff`: a line is introduced by its first word.
- `eq_of_introduces`: a line has at most one keyword.
- `declaration?_eq_some_iff`, `declarations_eq_filter`: what keywords declare.
- `map_line_declarations`: declarations have the numbers of the introduced lines.
- `mem_records_collect`, `mem_errors_collect`: where records and diagnostics come from.
-/

namespace Wardley
namespace Notation

open Text

/-! ## Keywords -/

/-- A character that may stand in a word. -/
def isSolid (c : Char) : Bool := !isBlank c

/-- A blank stands where a word ends. -/
theorem isBlank_head?_dropWhile_isSolid {text : List Char} {c : Char}
    (h : c ∈ (text.dropWhile isSolid).head?) : isBlank c = true := by
  have hstop := List.head?_dropWhile_not isSolid text
  rw [Option.mem_def.1 h] at hstop
  simpa [isSolid] using hstop

/-- A text that begins with no blank begins with a word. -/
theorem exists_word {c : Char} (hc : isBlank c = false) (tail : List Char) :
    ∃ word rest, c :: tail = word ++ rest ∧ word ≠ [] ∧ (∀ d ∈ word, isBlank d = false) ∧
      ∀ d ∈ rest.head?, isBlank d = true := by
  refine ⟨(c :: tail).takeWhile isSolid, (c :: tail).dropWhile isSolid,
    List.takeWhile_append_dropWhile.symm, by simp [isSolid, hc], ?_,
    fun _ => isBlank_head?_dropWhile_isSolid⟩
  intro d hd
  simpa [isSolid] using List.mem_takeWhile_imp hd

/-- A line is introduced by a keyword exactly when its first word is the keyword. -/
theorem keywordBody?_eq_some_iff {keyword line body : List Char}
    (hsolid : ∀ c ∈ keyword, isSolid c) :
    keywordBody? keyword line = some body ↔
      (trim line).takeWhile isSolid = keyword ∧ trim ((trim line).dropWhile isSolid) = body := by
  constructor
  · intro h
    unfold keywordBody? at h
    split at h
    · cases h
    · rename_i hafter
      have hline : trim line = keyword := by
        simpa using afterPrefix_eq_some.1 hafter
      cases h
      rw [hline, List.takeWhile_eq_self_iff.2 hsolid, List.dropWhile_eq_nil_iff.2 hsolid]
      simp
    · rename_i c rest hafter
      have hline : trim line = keyword ++ c :: rest := afterPrefix_eq_some.1 hafter
      by_cases hc : isBlank c
      · simp only [hc, if_true, Option.some.injEq] at h
        subst h
        have hstop : isSolid c = false := by simp [isSolid, hc]
        rw [hline, List.takeWhile_append_of_pos hsolid, List.dropWhile_append_of_pos hsolid]
        simp [hstop, trim, trimStart, hc]
      · simp [hc] at h
  · rintro ⟨hkeyword, hbody⟩
    have hline : trim line = keyword ++ (trim line).dropWhile isSolid := by
      rw [← hkeyword, List.takeWhile_append_dropWhile]
    unfold keywordBody?
    rw [afterPrefix_eq_some.2 hline]
    cases hrest : (trim line).dropWhile isSolid with
    | nil =>
        rw [hrest] at hbody
        simpa using hbody
    | cons c rest =>
        have hc : isBlank c := by
          have := List.head_dropWhile_not isSolid (l := trim line) (by simp [hrest])
          simpa [hrest, isSolid] using this
        rw [hrest] at hbody
        simpa [hc, trim, trimStart] using hbody

/-- The body of a declaration is trimmed. -/
theorem trim_keywordBody? {keyword line body : List Char}
    (h : keywordBody? keyword line = some body) : trim body = body := by
  unfold keywordBody? at h
  split at h
  · cases h
  · cases h
    rfl
  · split at h
    · cases h
      exact trim_trim _
    · cases h

/-- No keyword but the empty one introduces a blank line. -/
theorem keywordBody?_of_blank {keyword line : List Char} (hne : keyword ≠ [])
    (hblank : trim line = []) : keywordBody? keyword line = none := by
  unfold keywordBody?
  rw [hblank]
  cases keyword with
  | nil => contradiction
  | cons c rest => rfl

/-- One of the keywords introduces the line. -/
def introduces (keywords : List String) (line : List Char) : Bool :=
  keywords.any fun keyword => (keywordBody? keyword.toList line).isSome

/-- A keyword that can be told from its line: a word. -/
def IsKeyword (keyword : String) : Prop :=
  keyword.toList.isEmpty = false ∧ keyword.toList.all isSolid = true

instance (keyword : String) : Decidable (IsKeyword keyword) :=
  inferInstanceAs (Decidable (_ ∧ _))

/-- A line has at most one keyword. -/
theorem eq_of_introduces {first second : String} {line firstBody secondBody : List Char}
    (hfirst : IsKeyword first) (hsecond : IsKeyword second)
    (h₁ : keywordBody? first.toList line = some firstBody)
    (h₂ : keywordBody? second.toList line = some secondBody) : first = second := by
  have hword₁ := ((keywordBody?_eq_some_iff (List.all_eq_true.1 hfirst.2)).1 h₁).1
  have hword₂ := ((keywordBody?_eq_some_iff (List.all_eq_true.1 hsecond.2)).1 h₂).1
  exact String.toList_injective (hword₁.symm.trans hword₂)

/-- The first word of a line. -/
def firstWord (line : List Char) : String := String.ofList ((trim line).takeWhile isSolid)

/-- A line is introduced by its first word. -/
theorem introduces_iff {keywords : List String} (hwords : ∀ keyword ∈ keywords, IsKeyword keyword)
    {line : List Char} : introduces keywords line = true ↔ firstWord line ∈ keywords := by
  rw [introduces, List.any_eq_true]
  constructor
  · rintro ⟨keyword, hkeyword, hsome⟩
    rcases Option.isSome_iff_exists.1 hsome with ⟨body, hbody⟩
    have hsolid := List.all_eq_true.1 (hwords keyword hkeyword).2
    rw [firstWord, ((keywordBody?_eq_some_iff hsolid).1 hbody).1]
    simpa using hkeyword
  · intro hmem
    have hsolid := List.all_eq_true.1 (hwords _ hmem).2
    refine ⟨_, hmem, Option.isSome_iff_exists.2 ⟨_, (keywordBody?_eq_some_iff hsolid).2 ⟨?_, rfl⟩⟩⟩
    simp [firstWord]

theorem isKeyword_reservedKeywords : ∀ keyword ∈ reservedKeywords, IsKeyword keyword := by decide

/-- A line is reserved by its first word. -/
theorem isReserved_iff {line : List Char} :
    isReserved line = true ↔ firstWord line ∈ reservedKeywords :=
  introduces_iff isKeyword_reservedKeywords

/-! ## Declarations -/

theorem declaration?_eq_some {keywords : List String} {line : Nat × List Char}
    {declared : Declaration} (h : declaration? keywords line = some declared) :
    declared.line = line.1 ∧ declared.keyword ∈ keywords ∧
      keywordBody? declared.keyword.toList line.2 = some declared.body := by
  rcases List.exists_of_findSome?_eq_some h with ⟨keyword, hmem, hmap⟩
  rcases Option.map_eq_some_iff.1 hmap with ⟨body, hbody, rfl⟩
  exact ⟨rfl, hmem, hbody⟩

theorem isSome_declaration? (keywords : List String) (line : Nat × List Char) :
    (declaration? keywords line).isSome = introduces keywords line.2 := by
  rw [Bool.eq_iff_iff]
  simp [declaration?, introduces, List.findSome?_isSome_iff]

theorem mem_declarations {keywords : List String} {lines : List (Nat × List Char)}
    {declared : Declaration} (h : declared ∈ declarations keywords lines) :
    ∃ line, (declared.line, line) ∈ lines ∧ declared.keyword ∈ keywords ∧
      keywordBody? declared.keyword.toList line = some declared.body := by
  rcases List.mem_filterMap.1 h with ⟨line, hmem, hdeclared⟩
  rcases declaration?_eq_some hdeclared with ⟨hline, hkeyword, hbody⟩
  refine ⟨line.2, ?_, hkeyword, hbody⟩
  rw [hline]
  exact hmem

theorem trim_body_of_mem_declarations {keywords : List String}
    {lines : List (Nat × List Char)} {declared : Declaration}
    (h : declared ∈ declarations keywords lines) : trim declared.body = declared.body := by
  rcases mem_declarations h with ⟨line, -, -, hbody⟩
  exact trim_keywordBody? hbody

/-- Declarations have the numbers of the introduced lines. -/
theorem map_line_declarations (keywords : List String) (lines : List (Nat × List Char)) :
    (declarations keywords lines).map Declaration.line =
      (lines.filter fun line => introduces keywords line.2).map Prod.fst := by
  induction lines with
  | nil => rfl
  | cons line rest ih =>
      have hsome := isSome_declaration? keywords line
      unfold declarations at ih ⊢
      cases hdeclared : declaration? keywords line with
      | none =>
          rw [hdeclared] at hsome
          rw [List.filterMap_cons_none hdeclared, List.filter_cons_of_neg (by simp [← hsome]), ih]
      | some declared =>
          rw [hdeclared] at hsome
          rw [List.filterMap_cons_some hdeclared, List.filter_cons_of_pos (by simp [← hsome])]
          simp [ih, (declaration?_eq_some hdeclared).1]

/-- Declarations stand in the order of their lines. -/
theorem pairwise_line_declarations (keywords : List String) {lines : List (Nat × List Char)}
    (hlines : (lines.map Prod.fst).Pairwise (· < ·)) :
    ((declarations keywords lines).map Declaration.line).Pairwise (· < ·) := by
  rw [map_line_declarations]
  exact hlines.sublist (List.filter_sublist.map _)

section Keywords

variable {few keywords : List String} (hwords : ∀ keyword ∈ keywords, IsKeyword keyword)
include hwords

/-- A line declares what the only keyword that introduces it says. -/
theorem declaration?_eq_some_iff {line : Nat × List Char} {declared : Declaration} :
    declaration? keywords line = some declared ↔
      declared.line = line.1 ∧ declared.keyword ∈ keywords ∧
        keywordBody? declared.keyword.toList line.2 = some declared.body := by
  refine ⟨declaration?_eq_some, ?_⟩
  rintro ⟨hline, hkeyword, hbody⟩
  have hsome : (declaration? keywords line).isSome = true := by
    rw [isSome_declaration?, introduces, List.any_eq_true]
    exact ⟨declared.keyword, hkeyword, by rw [hbody]; rfl⟩
  rcases Option.isSome_iff_exists.1 hsome with ⟨other, hother⟩
  rcases declaration?_eq_some hother with ⟨hline', hkeyword', hbody'⟩
  have hsame : other.keyword = declared.keyword :=
    eq_of_introduces (hwords _ hkeyword') (hwords _ hkeyword) hbody' hbody
  rw [hsame, hbody, Option.some.injEq] at hbody'
  rw [hother, Option.some.injEq]
  cases other
  cases declared
  simp_all

/-- What few keywords declare is what all of them declare with one of the few. -/
theorem declarations_eq_filter (hsubset : few ⊆ keywords) (lines : List (Nat × List Char)) :
    declarations few lines =
      (declarations keywords lines).filter fun d => few.contains d.keyword := by
  rw [declarations, declarations, List.filter_filterMap]
  congr 1
  funext line
  apply Option.ext
  intro declared
  rw [Option.filter_eq_some_iff, declaration?_eq_some_iff hwords,
    declaration?_eq_some_iff fun keyword hkeyword => hwords keyword (hsubset hkeyword)]
  constructor
  · rintro ⟨hline, hkeyword, hbody⟩
    exact ⟨⟨hline, hsubset hkeyword, hbody⟩, List.contains_iff_mem.2 hkeyword⟩
  · rintro ⟨⟨hline, -, hbody⟩, hkeyword⟩
    exact ⟨hline, List.contains_iff_mem.1 hkeyword, hbody⟩

/-- Lines of which no first word is one of the keywords declare nothing. -/
theorem declarations_eq_nil {lines : List (Nat × List Char)}
    (h : ∀ line ∈ lines, firstWord line.2 ∉ keywords) : declarations keywords lines = [] := by
  rw [declarations, List.filterMap_eq_nil_iff]
  intro line hline
  rw [← Option.not_isSome_iff_eq_none, isSome_declaration?, introduces_iff hwords]
  exact h line hline

end Keywords

/-! ## Numbered lines -/

@[simp] theorem map_snd_numbered (lines : List (List Char)) :
    (numbered lines).map Prod.snd = lines :=
  map_snd_numberFrom 1 lines

/-- A numbered line is one of the lines. -/
theorem snd_mem_of_mem_numberFrom {first : Nat} {lines : List (List Char)}
    {line : Nat × List Char} (h : line ∈ numberFrom first lines) : line.2 ∈ lines :=
  List.mem_of_getElem? (mem_numberFrom.1 h).2

/-- Lines are numbered in increasing order. -/
theorem pairwise_numbered (lines : List (List Char)) :
    ((numbered lines).map Prod.fst).Pairwise (· < ·) := by
  rw [numbered, map_fst_numberFrom]
  exact List.pairwise_lt_range'

/-- Lines are numbered from one to their count. -/
theorem number_of_mem_numbered {lines : List (List Char)} {line : Nat × List Char}
    (h : line ∈ numbered lines) : 1 ≤ line.1 ∧ line.1 ≤ lines.length := by
  have hmem : line.1 ∈ (numberFrom 1 lines).map Prod.fst := List.mem_map_of_mem h
  rw [map_fst_numberFrom, List.mem_range'_1] at hmem
  omega

/-! ## Outcomes -/

variable {α : Type}

theorem records_collect (read : Declaration → Except Fault α) (declared : List Declaration) :
    (collect read declared).records = declared.filterMap fun d => (read d).toOption := by
  induction declared with
  | nil => rfl
  | cons first rest ih =>
      cases hread : read first <;> simp [collect, Outcome.add, hread, ih, Except.toOption]

/-- The diagnostic that a declaration gives, if its reading fails. -/
def diagnostic? (read : Declaration → Except Fault α) (declared : Declaration) :
    Option Diagnostic :=
  match read declared with
  | .ok _ => none
  | .error fault => some (fault.diagnostic declared.line)

theorem errors_collect (read : Declaration → Except Fault α) (declared : List Declaration) :
    (collect read declared).errors = declared.filterMap (diagnostic? read) := by
  induction declared with
  | nil => rfl
  | cons first rest ih =>
      cases hread : read first <;> simp [collect, Outcome.add, hread, ih, diagnostic?]

/-- The records stand on the lines of the declarations that are read. -/
theorem map_line_records {β : Type} {read : Declaration → Except Fault α} {line : α → β}
    {f : Nat → β} {declared : List Declaration}
    (hline : ∀ d ∈ declared, ∀ record, read d = .ok record → line record = f d.line) :
    (collect read declared).records.map line =
      (declared.filter fun d => (read d).isOk).map fun d => f d.line := by
  induction declared with
  | nil => rfl
  | cons first rest ih =>
      have hrest := ih fun d hd => hline d (List.mem_cons_of_mem _ hd)
      cases hread : read first with
      | error fault =>
          simpa [collect, Outcome.add, hread, Except.isOk, Except.toBool] using hrest
      | ok record =>
          have hfirst := hline first List.mem_cons_self record hread
          simpa [collect, Outcome.add, hread, Except.isOk, Except.toBool, hfirst] using hrest

/-- The diagnostics stand on the lines of the declarations that are not read. -/
theorem map_line_errors (read : Declaration → Except Fault α) (declared : List Declaration) :
    (collect read declared).errors.map Diagnostic.line =
      (declared.filter fun d => !(read d).isOk).map fun d => .int d.line := by
  induction declared with
  | nil => rfl
  | cons first rest ih =>
      cases hread : read first with
      | error fault =>
          simpa [collect, Outcome.add, hread, Except.isOk, Except.toBool, Fault.diagnostic]
            using ih
      | ok record => simpa [collect, Outcome.add, hread, Except.isOk, Except.toBool] using ih

/-- A record is what one of the declarations gives. -/
theorem mem_records_collect {read : Declaration → Except Fault α}
    {declared : List Declaration} {record : α} :
    record ∈ (collect read declared).records ↔ ∃ d ∈ declared, read d = .ok record := by
  rw [records_collect, List.mem_filterMap]
  constructor
  · rintro ⟨d, hd, hrecord⟩
    refine ⟨d, hd, ?_⟩
    cases hread : read d <;> simp_all [Except.toOption]
  · rintro ⟨d, hd, hread⟩
    exact ⟨d, hd, by simp [hread, Except.toOption]⟩

/-- A diagnostic has the line of a declaration whose reading fails. -/
theorem mem_errors_collect {read : Declaration → Except Fault α}
    {declared : List Declaration} {error : Diagnostic} :
    error ∈ (collect read declared).errors ↔
      ∃ d ∈ declared, ∃ fault, read d = .error fault ∧ fault.diagnostic d.line = error := by
  rw [errors_collect, List.mem_filterMap]
  constructor
  · rintro ⟨d, hd, herror⟩
    refine ⟨d, hd, ?_⟩
    cases hread : read d <;> simp_all [diagnostic?]
  · rintro ⟨d, hd, fault, hread, rfl⟩
    exact ⟨d, hd, by simp [diagnostic?, hread]⟩

end Notation
end Wardley
