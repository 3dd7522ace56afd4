import Wardley.Proofs.Parsing.Consistency
import Wardley.Proofs.Parsing.HeaderLines

/-!
# Diagnosed lines

A line is read by one kind of construct at most: the one that has its first word, or as
a link if that word is not reserved.  Each kind makes a record or a diagnostic of a line
that it reads, never both.  Only the children of pipelines stand on lines that
something else is read from, so that a diagnosed line contributes to the map exactly
where such a child has another outcome than the rest of its line.

Main definitions:

- `Kind.reads`: a line belongs to a kind.
- `Kind.ownErrors`: the diagnostics of a kind, those of children apart.
- `Map.DividesLine`: a child has another outcome than something else on its line.

Main results:

- `eq_of_reads`: a line belongs to one kind at most.
- `not_mem_lines_of_mem_ownErrors`: diagnostics and records stand on different lines.
- `errors_apart_iff`: when no diagnosed line contributes to the map of a text.
-/

namespace Wardley

open Construct Notation

/-! ## Lines of kinds -/

namespace Kind

/-- The words that introduce the lines of a kind; links have none. -/
def words : Kind → List String
  | title => ["title"]
  | evolution => ["evolution"]
  | presentation => ["style", "annotations", "size"]
  | pipelines => ["pipeline"]
  | kind => kind.keywords .allOn

/-- The kind whose lines a word introduces. -/
def ofWord? (word : String) : Option Kind := all.find? fun kind => kind.words.contains word

/-- The words of a kind are read as the kind. -/
theorem ofWord?_words (kind : Kind) : ∀ word ∈ kind.words, ofWord? word = some kind := by
  cases kind <;> decide

/-- The words of a kind are keywords. -/
theorem isKeyword_words (kind : Kind) : ∀ word ∈ kind.words, IsKeyword word := by
  cases kind <;> decide

/-- The words of a kind are reserved. -/
theorem words_subset_reservedKeywords (kind : Kind) : kind.words ⊆ reservedKeywords := by
  cases kind <;> decide

/-- The keywords of a kind are among its words. -/
theorem keywords_subset_words (switches : Switches) (kind : Kind) :
    kind.keywords switches ⊆ kind.words := by
  cases kind with
  | accelerators =>
      rw [keywords]
      split
      · exact List.Subset.refl _
      · exact List.nil_subset _
  | _ => simp [keywords, words]

/-- A line belongs to a kind: one of its words introduces it, or for links no reserved one. -/
def reads (line : List Char) : Kind → Bool
  | links => !isReserved line
  | kind => introduces kind.words line

end Kind

/-- A line introduces a kind exactly when its first word is one of the words. -/
theorem introduces_words_iff {kind : Kind} {line : List Char} :
    introduces kind.words line = true ↔ firstWord line ∈ kind.words :=
  introduces_iff kind.isKeyword_words

/-- A line that one of the words of a kind introduces is no link. -/
theorem reads_links_of_introduces {kind : Kind} {line : List Char}
    (h : introduces kind.words line = true) : Kind.links.reads line = false := by
  have hreserved : isReserved line = true :=
    isReserved_iff.2 (kind.words_subset_reservedKeywords (introduces_words_iff.1 h))
  simp [Kind.reads, hreserved]

/-- A line belongs to one kind at most. -/
theorem eq_of_reads {kind other : Kind} {line : List Char} (h : kind.reads line = true)
    (hother : other.reads line = true) : kind = other := by
  have hwords {found : Kind} (hreads : found.reads line = true) :
      found = .links ∨ introduces found.words line = true := by
    cases found with
    | links => exact .inl rfl
    | _ => exact .inr hreads
  rcases hwords h with rfl | hfirst <;> rcases hwords hother with rfl | hsecond
  · rfl
  · simp [reads_links_of_introduces hsecond] at h
  · simp [reads_links_of_introduces hfirst] at hother
  · have hkind := kind.ofWord?_words _ (introduces_words_iff.1 hfirst)
    rw [other.ofWord?_words _ (introduces_words_iff.1 hsecond)] at hkind
    exact (Option.some.inj hkind).symm

/-! ## Readings of single kinds -/

/-- The diagnostics of a kind, for pipelines those of their headers. -/
def Kind.ownErrors (switches : Switches) (lines : List (Nat × List Char)) :
    Kind → List Diagnostic
  | .pipelines => (headerOutcome switches.newPipelines lines).errors
  | kind => (kind.contents switches lines).2

/-- A line with a number belongs to a kind. -/
def Kind.ReadsNumber (lines : List (List Char)) (kind : Kind) (number : Nat) : Prop :=
  ∃ line, (number, line) ∈ numbered lines ∧ kind.reads line = true

/-- Records and diagnostics stand on lines of a kind, and no two of them on the same one. -/
structure Apart (lines : List (List Char)) (kind : Kind) (records : List (Option Number))
    (errors : List Number) : Prop where
  record : ∀ line ∈ records, ∃ n : Nat, line = some (.int n) ∧ kind.ReadsNumber lines n
  error : ∀ line ∈ errors, ∃ n : Nat, line = .int n ∧ kind.ReadsNumber lines n
  apart : ∀ line ∈ errors, some line ∉ records

variable {lines : List (List Char)}

/-- What accounts for lines of a kind is apart. -/
theorem apart_of_accounts {kind : Kind} {records : List (Option Number)} {errors : List Number}
    {numbers : List Nat} (h : Accounts records errors numbers)
    (hreads : ∀ n ∈ numbers, kind.ReadsNumber lines n) : Apart lines kind records errors := by
  rcases h with ⟨read, faulty, rfl, rfl, -, -, hperm, hnodup⟩
  have hdisjoint := (List.nodup_append.1 hnodup).2.2
  constructor
  · intro line hline
    rcases List.mem_map.1 hline with ⟨n, hn, rfl⟩
    exact ⟨n, rfl, hreads n (hperm.subset (List.mem_append_left _ hn))⟩
  · intro line hline
    rcases List.mem_map.1 hline with ⟨n, hn, rfl⟩
    exact ⟨n, rfl, hreads n (hperm.subset (List.mem_append_right _ hn))⟩
  · intro line hline hrecord
    rcases List.mem_map.1 hline with ⟨n, hn, rfl⟩
    rcases List.mem_map.1 hrecord with ⟨m, hm, heq⟩
    rw [Option.some.injEq, Number.int.injEq, Int.natCast_inj] at heq
    exact hdisjoint m hm n hn heq

/-- Diagnostics of declarations are apart where there are no records. -/
theorem apart_errors_collect {α : Type} {kind : Kind} {keywords : List String}
    (read : Declaration → Except Fault α)
    (hreads : ∀ line, introduces keywords line = true → kind.reads line = true) :
    Apart lines kind []
      ((collect read (declarations keywords (numbered lines))).errors.map Diagnostic.line) where
  record := by simp
  apart := by simp
  error := by
    intro line hline
    rcases List.mem_map.1 hline with ⟨error, herror, rfl⟩
    rcases mem_errors_collect.1 herror with ⟨d, hd, fault, -, rfl⟩
    rcases mem_declarations hd with ⟨text, hmem, hkeyword, hbody⟩
    refine ⟨d.line, rfl, text, hmem, hreads text ?_⟩
    exact List.any_eq_true.2 ⟨d.keyword, hkeyword, by rw [hbody]; rfl⟩

/-- Links stand on the lines that no reserved keyword introduces. -/
theorem apart_links (keepContext : Bool) :
    Apart lines .links ((links keepContext (numbered lines)).map Link.line) [] where
  error := by simp
  apart := by simp
  record := by
    intro line hline
    rcases List.mem_map.1 hline with ⟨link, hlink, rfl⟩
    rcases List.mem_filterMap.1 hlink with ⟨⟨n, text⟩, hmem, hread⟩
    rcases List.mem_filter.1 hmem with ⟨hmem, hreserved⟩
    exact ⟨n, (readLink?_eq_some hread).2.2, text, hmem, hreserved⟩

/-- A kind reads its own lines. -/
theorem readsNumber_of_mem_lineNumbers {switches : Switches} {kind : Kind} (h : kind ≠ .links)
    {n : Nat} (hn : n ∈ kind.lineNumbers switches lines) : kind.ReadsNumber lines n := by
  rcases List.mem_map.1 hn with ⟨⟨number, text⟩, hmem, rfl⟩
  rcases List.mem_filter.1 hmem with ⟨hmem, hintroduces⟩
  have hwords : introduces kind.words text = true := by
    rcases List.any_eq_true.1 (Bool.and_eq_true_iff.1 hintroduces).1 with ⟨word, hword, hbody⟩
    exact List.any_eq_true.2 ⟨word, kind.keywords_subset_words switches hword, hbody⟩
  refine ⟨text, hmem, ?_⟩
  cases kind with
  | links => contradiction
  | _ => exact hwords

/-- Pipelines are read on the lines of their headers. -/
theorem readsNumber_of_mem_headerNumbers {readBlocks : Bool} {n : Nat}
    (hn : n ∈ headerNumbers readBlocks lines) : Kind.pipelines.ReadsNumber lines n := by
  rcases List.mem_map.1 hn with ⟨⟨number, text⟩, hmem, rfl⟩
  rcases List.mem_filter.1 hmem with ⟨hmem, hheader⟩
  refine ⟨text, hmem, ?_⟩
  change introduces ["pipeline"] text = true
  rw [introduces_pipeline]
  exact (Bool.and_eq_true_iff.1 hheader).1

/-- A kind makes records and diagnostics of lines of its own, and never both of one. -/
theorem apart_contents (switches : Switches) (kind : Kind) :
    Apart lines kind (kind.contents switches (numbered lines)).1.lines
      ((kind.ownErrors switches (numbered lines)).map Diagnostic.line) := by
  have listed (h : kind ∈ Kind.listed) (hlinks : kind ≠ .links) :=
    apart_of_accounts (contents_accounts switches lines h)
      fun n hn => readsNumber_of_mem_lineNumbers hlinks hn
  cases kind with
  | title => exact apart_errors_collect readTitle fun _ h => h
  | evolution =>
      -- an axis is neither a record nor diagnosed
      constructor <;> simp [Kind.ownErrors, Kind.contents, Content.lines]
  | presentation => exact apart_errors_collect readSetting fun _ h => h
  | pipelines =>
      exact apart_of_accounts (accounts_headers switches.newPipelines lines)
        fun n hn => readsNumber_of_mem_headerNumbers hn
  | links => exact apart_links switches.linkContext
  | _ => exact listed (by decide) (by decide)

/-- The lines of diagnostics and those of records differ, whatever kinds they are of. -/
theorem not_mem_lines_of_mem_ownErrors {switches : Switches} {kind : Kind} {error : Diagnostic}
    (h : error ∈ kind.ownErrors switches (numbered lines)) (other : Kind) :
    some error.line ∉ (other.contents switches (numbered lines)).1.lines := by
  intro hrecord
  have hkind : Apart lines kind _ _ := apart_contents switches kind
  rcases hkind.error _ (List.mem_map_of_mem h) with ⟨n, hn, text, hmem, hreads⟩
  rcases (apart_contents switches other).record _ hrecord with ⟨m, hm, text', hmem', hreads'⟩
  have hnumber : n = m := by
    rw [hn, Option.some.injEq, Number.int.injEq, Int.natCast_inj] at hm
    exact hm
  subst hnumber
  obtain rfl : text = text' := eq_of_mem_numbered hmem hmem'
  obtain rfl : kind = other := eq_of_reads hreads hreads'
  exact hkind.apart _ (List.mem_map_of_mem h) hrecord

/-! ## Maps -/

section Maps

variable {switches : Switches}

/-- The diagnostics of a map are those of the kinds and those of children. -/
theorem mem_errors_unify {error : Diagnostic} :
    error ∈ (draftOf switches (numbered lines)).unify.errors ↔
      (∃ kind : Kind, error ∈ kind.ownErrors switches (numbered lines)) ∨
        ∃ child ∈ declaredChildren switches.newPipelines (numbered lines),
          childDiagnostic? child = some error := by
  have hpipelines := @mem_errors_pipelines switches.newPipelines (numbered lines) error
  have hother {kind : Kind} (h : kind ≠ .pipelines) :
      (kind.contents switches (numbered lines)).2 = kind.ownErrors switches (numbered lines) := by
    cases kind with
    | pipelines => contradiction
    | _ => rfl
  change error ∈ (Kind.all.flatMap fun kind => (kind.contents switches (numbered lines)).2) ↔ _
  rw [List.mem_flatMap]
  constructor
  · rintro ⟨kind, -, herror⟩
    by_cases hkind : kind = .pipelines
    · subst hkind
      exact (hpipelines.1 herror).imp_left fun hown => ⟨.pipelines, hown⟩
    · exact .inl ⟨kind, hother hkind ▸ herror⟩
  · rintro (⟨kind, herror⟩ | hchild)
    · by_cases hkind : kind = .pipelines
      · subst hkind
        exact ⟨.pipelines, Kind.mem_all _, hpipelines.2 (.inl herror)⟩
      · exact ⟨kind, kind.mem_all, (hother hkind).symm ▸ herror⟩
    · exact ⟨.pipelines, Kind.mem_all _, hpipelines.2 (.inr hchild)⟩

/-- The records of a map stand on the lines of what the kinds read and of children. -/
theorem mem_recordLines_unify {line : Option Number} :
    line ∈ (draftOf switches (numbered lines)).unify.recordLines ↔
      (∃ kind : Kind, line ∈ (kind.contents switches (numbered lines)).1.lines) ∨
        ∃ child ∈ declaredChildren switches.newPipelines (numbered lines),
          ∃ record, readInherited child = .ok record ∧ record.line = line := by
  let draft := draftOf switches (numbered lines)
  have helements : line ∈ draft.unify.elements.map Element.line ↔
      line ∈ draft.declared.map Element.line := by
    rw [((Draft.elements_unify_perm draft).map Element.line).mem_iff, List.map_map]
    rfl
  have hchildren :
      line ∈ (draft.unify.pipelines.flatMap Pipeline.children).map PipelineChild.line ↔
      ∃ child ∈ declaredChildren switches.newPipelines (numbered lines),
        ∃ record, readInherited child = .ok record ∧ record.line = line := by
    have hkept : draft.unify.pipelines.flatMap Pipeline.children =
        (pipelines switches.newPipelines (numbered lines)).records.flatMap Pipeline.children :=
      List.flatMap_map _ _ _
    rw [hkept, List.mem_map]
    simp only [mem_children_pipelines]
    constructor
    · rintro ⟨record, ⟨child, hchild, hread⟩, hline⟩
      exact ⟨child, hchild, record, hread, hline⟩
    · rintro ⟨child, hchild, record, hread, hline⟩
      exact ⟨record, ⟨child, hchild, hread⟩, hline⟩
  have hevolved : draft.unify.evolved.map Evolved.line = draft.evolved.map Evolved.line := by
    rw [Draft.unify, List.map_map]
    rfl
  have hpipelines : draft.unify.pipelines.map Pipeline.line =
      draft.pipelines.map Pipeline.line := by
    rw [Draft.unify, List.map_map]
    rfl
  have hkinds : (∃ kind : Kind, line ∈ (kind.contents switches (numbered lines)).1.lines) ↔
      ∃ kind ∈ Kind.all, line ∈ (kind.contents switches (numbered lines)).1.lines :=
    exists_congr fun kind => (and_iff_right kind.mem_all).symm
  change line ∈ draft.unify.recordLines ↔ _
  simp only [Map.recordLines, List.mem_append, helements, hevolved, hpipelines, hchildren, hkinds,
    Kind.all, List.exists_mem_cons_iff, List.not_mem_nil, false_and, exists_false, or_false]
  simp only [Draft.declared, List.map_append, List.mem_append, Kind.contents, fromOutcome,
    Content.lines, List.not_mem_nil, false_or, draft, draftOf, Draft.unify]
  -- both sides list the same lines, in the order of the records and in that of the kinds
  grind only

/--
A declared child divides its line in a map: either it is read and something else on the
line is diagnosed, or it is diagnosed and something else on the line is read.
-/
def Map.DividesLine (map : Map) (child : Number × Declaration) : Prop :=
  match readInherited child with
  | .ok _ => .int child.2.line ∈ map.errors.map Diagnostic.line
  | .error _ => some (.int child.2.line) ∈ map.recordLines

/-- A child that is read divides its line if there is a diagnostic of that line. -/
theorem dividesLine_of_ok {map : Map} {child : Number × Declaration} {record : PipelineChild}
    (hread : readInherited child = .ok record) {error : Diagnostic}
    (herror : error ∈ map.errors) (hline : some error.line = record.line) :
    map.DividesLine child := by
  rw [(readChild_eq_ok hread).2.1, Option.some.injEq] at hline
  rw [Map.DividesLine, hread, ← hline]
  exact List.mem_map_of_mem herror

/-- A child is diagnosed exactly when it cannot be read. -/
theorem childDiagnostic?_eq_some_iff {child : Number × Declaration} {error : Diagnostic} :
    childDiagnostic? child = some error ↔
      ∃ fault, readInherited child = .error fault ∧ fault.diagnostic child.2.line = error := by
  rw [childDiagnostic?, diagnostic?, readInherited]
  cases readChild child.1 child.2 <;> simp

/-- Diagnosed lines contribute nothing to a map exactly when no child divides its line. -/
theorem errors_apart_unify_iff :
    let map := (draftOf switches (numbered lines)).unify
    (∀ error ∈ map.errors, some error.line ∉ map.recordLines) ↔
      ∀ child ∈ declaredChildren switches.newPipelines (numbered lines),
        ¬ map.DividesLine child := by
  intro map
  constructor
  · intro hapart child hchild hdivides
    cases hread : readInherited child with
    | ok record =>
        rw [Map.DividesLine, hread] at hdivides
        rcases List.mem_map.1 hdivides with ⟨error, herror, hline⟩
        have hrecord : record.line = some error.line := by
          rw [(readChild_eq_ok hread).2.1, hline]
        exact hapart error herror
          (mem_recordLines_unify.2 (.inr ⟨child, hchild, record, hread, hrecord⟩))
    | error fault =>
        rw [Map.DividesLine, hread] at hdivides
        exact hapart (fault.diagnostic child.2.line) (mem_errors_unify.2 (.inr
          ⟨child, hchild, childDiagnostic?_eq_some_iff.2 ⟨fault, hread, rfl⟩⟩)) hdivides
  · intro hundivided error herror hrecord
    rcases mem_recordLines_unify.1 hrecord with
      ⟨kind, hkind⟩ | ⟨child, hchild, record, hread, hline⟩
    · rcases mem_errors_unify.1 herror with ⟨other, hother⟩ | ⟨child, hchild, hdiagnostic⟩
      · exact not_mem_lines_of_mem_ownErrors hother kind hkind
      · rcases childDiagnostic?_eq_some_iff.1 hdiagnostic with ⟨fault, hread, rfl⟩
        refine hundivided child hchild ?_
        rw [Map.DividesLine, hread]
        exact hrecord
    · exact hundivided child hchild (dividesLine_of_ok hread herror hline.symm)

end Maps

/-- Diagnosed lines contribute nothing to a map exactly when no child divides its line. -/
theorem parse_errors_apart_iff (switches : Switches) (text : String) :
    let map := parse switches text
    (∀ error ∈ map.errors, some error.line ∉ map.recordLines) ↔
      ∀ child ∈ declaredChildren switches.newPipelines (numbered (cleanLines text.toList)),
        ¬ map.DividesLine child := by
  intro map
  have hmap : map = (draftOf switches (numbered (cleanLines text.toList))).unify :=
    parse_eq_unify switches text
  rw [hmap]
  exact errors_apart_unify_iff

/-- A child without maturity is diagnosed on the line of a child that the map holds. -/
theorem divided_line :
    let map := parse .allOn
      "pipeline Tea\n\x7b\ncomponent Green [0.3] component Black\n\x7d"
    map.errors.map Diagnostic.line = [.int 3] ∧
      (map.pipelines.flatMap Pipeline.children).map PipelineChild.line = [some (.int 3)] ∧
      some (.int 3) ∈ map.recordLines := by
  decide +kernel

end Wardley
