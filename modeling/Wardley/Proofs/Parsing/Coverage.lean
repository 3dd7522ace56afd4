import Wardley.Proofs.Construct.Merging
import Wardley.Proofs.Parsing.Draft

/-!
# Every declaration is accounted for

Ten kinds of constructs list one record for each line that one of their keywords
introduces, or one diagnostic if the line is faulty.  Positioned elements are declared
outside the blocks of pipelines only.  No such line is lost on the way into the map of
a text, and none is read twice.

Main results:

- `contents_accounts`: records and diagnostics of a kind share out its lines.
- `elements_unify_perm`: the collections of a map share out its declared elements.
- `parse_complete`: the map of every text is complete.
-/

namespace Wardley

open Construct Notation

/-! ## Lines of kinds -/

/-- The kinds that list one record for each line of their keywords. -/
def Kind.listed : List Kind :=
  [.notes, .annotations, .elements, .anchors, .submaps, .evolved, .urls, .attitudes,
   .accelerators, .methods]

/-- The keywords of a listed kind. -/
def Kind.keywords (switches : Switches) : Kind → List String
  | .notes => ["note"]
  | .annotations => ["annotation"]
  | .elements => ["component", "market", "ecosystem"]
  | .anchors => ["anchor"]
  | .submaps => ["submap"]
  | .evolved => ["evolve"]
  | .urls => ["url"]
  | .attitudes => ["pioneers", "settlers", "townplanners"]
  | .accelerators => if switches.accelerators then ["accelerator", "deaccelerator"] else []
  | .methods => ["build", "buy", "outsource"]
  | .title | .evolution | .presentation | .pipelines | .links => []

/-- The kinds that declare positioned elements. -/
def Kind.positioned : List Kind := [.elements, .anchors, .submaps]

/-- A line counts for a kind: for the positioned ones, if it lies outside every block. -/
def Kind.countsLine (kind : Kind) (lines : List (List Char)) (number : Nat) : Bool :=
  !(Kind.positioned.contains kind && isOwned (blocks lines) (number - 1))

/-- The numbers of the lines that declare something of a kind. -/
def Kind.lineNumbers (switches : Switches) (lines : List (List Char)) (kind : Kind) : List Nat :=
  ((numbered lines).filter fun line =>
    introduces (kind.keywords switches) line.2 && kind.countsLine lines line.1).map Prod.fst

/-- The lines of the records of a content. -/
def Content.lines : Content → List (Option Number)
  | notes found => found.map Note.line
  | annotations found => found.map Annotation.line
  | elements found => found.map Element.line
  | pipelines found => found.map Pipeline.line
  | evolved found => found.map Evolved.line
  | links found => found.map Link.line
  | urls found => found.map Url.line
  | attitudes found => found.map Attitude.line
  | accelerators found => found.map Accelerator.line
  | methods found => found.map Method.line
  | title _ | axis _ | presentation _ => []

/-! ## Accounts -/

/--
Records and diagnostics account for lines: both stand in the order of their lines, and
together they have each of the given lines exactly once.
-/
def Accounts (records : List (Option Number)) (errors : List Number) (lines : List Nat) : Prop :=
  ∃ read faulty : List Nat,
    records = read.map (fun n => some (.int n)) ∧ errors = faulty.map (fun n => .int n) ∧
    read.Pairwise (· < ·) ∧ faulty.Pairwise (· < ·) ∧
    (read ++ faulty).Perm lines ∧ (read ++ faulty).Nodup

variable {α : Type}

/-- Reading declarations one by one accounts for their lines. -/
theorem accounts_collect {read : Declaration → Except Fault α} {line : α → Option Number}
    {declared : List Declaration}
    (hline : ∀ d ∈ declared, ∀ record, read d = .ok record → line record = some (.int d.line))
    (hordered : (declared.map Declaration.line).Pairwise (· < ·)) :
    Accounts ((collect read declared).records.map line)
      ((collect read declared).errors.map Diagnostic.line) (declared.map Declaration.line) := by
  let good := declared.filter fun d => (read d).isOk
  let bad := declared.filter fun d => !(read d).isOk
  have hperm : (good.map Declaration.line ++ bad.map Declaration.line).Perm
      (declared.map Declaration.line) := by
    rw [← List.map_append]
    exact (List.filter_append_perm _ _).map _
  refine ⟨good.map Declaration.line, bad.map Declaration.line, ?_, ?_, ?_, ?_, hperm, ?_⟩
  · rw [map_line_records (f := fun n => some (.int n)) hline, List.map_map]
    rfl
  · rw [map_line_errors, List.map_map]
    rfl
  · exact hordered.sublist (List.filter_sublist.map _)
  · exact hordered.sublist (List.filter_sublist.map _)
  · exact (hperm.nodup_iff).2 (hordered.imp Nat.ne_of_lt)

/-- Where nothing is read, there is no line to account for. -/
theorem accounts_nil : Accounts [] [] [] :=
  ⟨[], [], rfl, rfl, .nil, .nil, .nil, .nil⟩

/-! ## Readings -/

section Readings

variable (switches : Switches) (lines : List (List Char))

/-- Kinds without positions are read on all lines. -/
theorem lineNumbers_eq {kind : Kind} (h : Kind.positioned.contains kind = false) :
    kind.lineNumbers switches lines =
      (declarations (kind.keywords switches) (numbered lines)).map Declaration.line := by
  rw [map_line_declarations, Kind.lineNumbers]
  simp only [Kind.countsLine, h, Bool.false_and, Bool.not_false, Bool.and_true]

/-- Kinds with positions are read outside blocks. -/
theorem lineNumbers_eq_of_positioned {kind : Kind} (h : Kind.positioned.contains kind = true) :
    kind.lineNumbers switches lines =
      (declarations (kind.keywords switches) (linesOutsideBlocks (numbered lines))).map
        Declaration.line := by
  rw [map_line_declarations, linesOutsideBlocks, List.filter_filter, Kind.lineNumbers]
  simp only [Kind.countsLine, h, Bool.true_and, map_snd_numbered]

/-- The lines outside blocks stay in order. -/
theorem pairwise_linesOutsideBlocks :
    ((linesOutsideBlocks (numbered lines)).map Prod.fst).Pairwise (· < ·) :=
  (pairwise_numbered lines).sublist (List.filter_sublist.map _)

/-- A reading of all lines accounts for those that its keywords introduce. -/
theorem accounts_of_read (kind : Kind) {read : Declaration → Except Fault α}
    {line : α → Option Number} (hkind : Kind.positioned.contains kind = false)
    (hline : ∀ d, Text.trim d.body = d.body → ∀ record, read d = .ok record →
      line record = some (.int d.line)) :
    Accounts
      ((collect read (declarations (kind.keywords switches) (numbered lines))).records.map line)
      ((collect read (declarations (kind.keywords switches) (numbered lines))).errors.map
        Diagnostic.line) (kind.lineNumbers switches lines) := by
  rw [lineNumbers_eq switches lines hkind]
  refine accounts_collect ?_ (pairwise_line_declarations _ (pairwise_numbered lines))
  intro d hd
  exact hline d (trim_body_of_mem_declarations hd)

/-- A reading of elements accounts for the lines outside blocks that its words introduce. -/
theorem accounts_elementsOf {kind : Kind} {kinds : List ElementKind}
    (hkind : Kind.positioned.contains kind = true)
    (hwords : kind.keywords switches = kinds.map ElementKind.word) :
    Accounts ((elementsOf kinds (numbered lines)).records.map Element.line)
      ((elementsOf kinds (numbered lines)).errors.map Diagnostic.line)
      (kind.lineNumbers switches lines) := by
  rw [lineNumbers_eq_of_positioned switches lines hkind, hwords]
  refine accounts_collect ?_ (pairwise_line_declarations _ (pairwise_linesOutsideBlocks lines))
  intro d _ element hread
  exact (readElement_eq_ok hread).line_eq

/-- A reading keyword by keyword accounts for the lines that its keywords introduce. -/
theorem accounts_regions (kind : Kind) {keywords : List String} {options : RegionOptions}
    {line : α → Option Number} {f : Region → α} (hkind : Kind.positioned.contains kind = false)
    (hkeywords : kind.keywords switches = keywords) (hnodup : keywords.Nodup)
    (hwords : ∀ keyword ∈ keywords, IsKeyword keyword)
    (hline : ∀ region, line (f region) = some (.int region.line)) :
    Accounts ((mapRecords f (regions keywords options (numbered lines))).records.map line)
      ((mapRecords f (regions keywords options (numbered lines))).errors.map Diagnostic.line)
      (kind.lineNumbers switches lines) := by
  rw [regions_eq_collect hnodup hwords options (pairwise_numbered lines), mapRecords,
    List.map_map, ← hkeywords]
  refine accounts_of_read switches lines kind hkind ?_
  intro d _ region hread
  rw [Function.comp, hline, line_of_readRegion hread]

/-- The records and the diagnostics of a kind share out the lines that declare it. -/
theorem contents_accounts {kind : Kind} (h : kind ∈ Kind.listed) :
    Accounts (kind.contents switches (numbered lines)).1.lines
      ((kind.contents switches (numbered lines)).2.map Diagnostic.line)
      (kind.lineNumbers switches lines) := by
  cases kind with
  | title | evolution | presentation | pipelines | links => simp [Kind.listed] at h
  | notes =>
      exact accounts_of_read switches lines .notes rfl
        fun _ _ _ hread => (readNote_eq_ok hread).2
  | annotations =>
      exact accounts_of_read switches lines .annotations rfl
        fun _ _ _ hread => (readAnnotation_eq_ok hread).2
  | evolved =>
      exact accounts_of_read switches lines .evolved rfl
        fun _ _ _ hread => (readEvolution_eq_ok hread).2
  | urls =>
      exact accounts_of_read switches lines .urls rfl
        fun _ hbody _ hread => (readUrl_eq_ok hbody hread).2
  | methods =>
      exact accounts_of_read switches lines .methods rfl
        fun _ hbody _ hread => (readMethod_eq_ok hbody hread).2
  | elements => exact accounts_elementsOf switches lines rfl rfl
  | anchors => exact accounts_elementsOf switches lines rfl rfl
  | submaps => exact accounts_elementsOf switches lines rfl rfl
  | attitudes =>
      exact accounts_regions switches lines .attitudes rfl rfl (by decide) (by decide)
        fun _ => rfl
  | accelerators =>
      simp only [Kind.contents, accelerators]
      split
      · rename_i henabled
        exact accounts_regions switches lines .accelerators rfl
          (by rw [Kind.keywords, if_pos henabled]) (by decide) (by decide) fun _ => rfl
      · rename_i henabled
        rw [lineNumbers_eq switches lines rfl, Kind.keywords, if_neg henabled]
        have hnone : declarations [] (numbered lines) = [] := by simp [declarations, declaration?]
        rw [hnone]
        exact accounts_nil

end Readings

/-! ## Positioned elements -/

/-- The words that declare positioned elements. -/
def elementWords : List String := ["component", "market", "ecosystem", "anchor", "submap"]

/-- The declarations of the positioned kinds together are those of all their words. -/
theorem declarations_elementWords_perm (lines : List (Nat × List Char)) :
    (declarations ["component", "market", "ecosystem"] lines ++
      (declarations ["anchor"] lines ++ declarations ["submap"] lines)).Perm
      (declarations elementWords lines) := by
  have hall : (elementWords.flatMap fun word => declarations [word] lines).Perm
      (declarations elementWords lines) := declarations_perm (by decide) (by decide) lines
  have hthree : (["component", "market", "ecosystem"].flatMap fun word =>
      declarations [word] lines).Perm
      (declarations ["component", "market", "ecosystem"] lines) :=
    declarations_perm (by decide) (by decide) lines
  refine (hthree.symm.append_right _).trans (List.Perm.trans ?_ hall)
  simp [elementWords]

/-- Each declared element stands on a line of its own. -/
theorem nodup_line_declared (switches : Switches) (lines : List (List Char)) :
    ((draftOf switches (numbered lines)).declared.map Element.line).Nodup := by
  let outside := linesOutsideBlocks (numbered lines)
  have hsublist (kinds : List ElementKind) :
      ((elementsOf kinds (numbered lines)).records.map Element.line).Sublist
        ((declarations (kinds.map ElementKind.word) outside).map fun d => some (.int d.line)) := by
    rw [elementsOf, map_line_records (f := fun n => some (.int n))]
    · exact List.filter_sublist.map _
    · intro d _ element hread
      exact (readElement_eq_ok hread).line_eq
  have hwords : ((declarations elementWords outside).map
      fun d => (some (.int d.line) : Option Number)).Nodup := by
    have hlines := pairwise_line_declarations elementWords (pairwise_linesOutsideBlocks lines)
    have hpairwise := List.pairwise_map.1 hlines
    refine List.pairwise_map.2 (hpairwise.imp ?_)
    intro a b hlt heq
    simp only [Option.some.injEq, Number.int.injEq, Int.natCast_inj] at heq
    omega
  have hall := ((declarations_elementWords_perm outside).map
    fun d => (some (.int d.line) : Option Number)).nodup_iff.2 hwords
  rw [List.map_append, List.map_append] at hall
  rw [Draft.declared, List.append_assoc, List.map_append, List.map_append]
  exact hall.sublist ((hsublist _).append ((hsublist [.anchor]).append (hsublist [.submap])))

namespace Draft

/-- The five collections of a map share out the declared elements. -/
theorem elements_unify_perm (draft : Draft) :
    draft.unify.elements.Perm (draft.declared.map draft.unifyElement) := by
  rw [Map.elements_eq_flatMap, funext draft.collection_unify]
  unfold ofClass
  induction draft.declared.map draft.unifyElement with
  | nil => simp
  | cons element rest ih =>
      have hcons (kind : ElementKind) : ((element :: rest).filter fun e => e.kind == kind) =
          (if element.kind == kind then [element] else []) ++
            rest.filter fun e => e.kind == kind := by
        rw [List.filter_cons]
        split <;> rfl
      have hfirst : (ElementKind.all.flatMap fun kind =>
          if element.kind == kind then [element] else []) = [element] := by
        cases element.kind <;> rfl
      simp only [hcons]
      refine (List.flatMap_append_perm _ _ _).symm.trans ?_
      rw [hfirst]
      exact ih.cons element

end Draft

/-- In a list with distinct keys, an entry is the only one of its key. -/
theorem filter_key_eq {β : Type} [DecidableEq β] {key : α → β} {entries : List α} {entry : α}
    (hnodup : (entries.map key).Nodup) (h : entry ∈ entries) :
    (entries.filter fun other => key other = key entry) = [entry] := by
  induction entries with
  | nil => cases h
  | cons first rest ih =>
      rcases List.nodup_cons.1 hnodup with ⟨hfirst, hrest⟩
      rcases List.mem_cons.1 h with rfl | hmem
      · have hnone : (rest.filter fun other => key other = key entry) = [] := by
          refine List.filter_eq_nil_iff.2 fun other hother => ?_
          intro heq
          exact hfirst (of_decide_eq_true heq ▸ List.mem_map_of_mem hother)
        rw [List.filter_cons_of_pos (by simp), hnone]
      · have hne : key first ≠ key entry := by
          intro heq
          exact hfirst (heq ▸ List.mem_map_of_mem hmem)
        rw [List.filter_cons_of_neg (by simpa using hne), ih hrest hmem]

/-! ## Complete maps -/

/-- What a map holds of a kind; the positioned kinds share the elements of the map. -/
def Map.content (map : Map) : Kind → Content
  | .title => .title map.title
  | .evolution => .axis map.evolution
  | .presentation => .presentation map.presentation
  | .notes => .notes map.notes
  | .annotations => .annotations map.annotations
  | .elements | .anchors | .submaps => .elements map.elements
  | .pipelines => .pipelines map.pipelines
  | .evolved => .evolved map.evolved
  | .links => .links map.links
  | .urls => .urls map.urls
  | .attitudes => .attitudes map.attitudes
  | .accelerators => .accelerators map.accelerators
  | .methods => .methods map.methods

/-- A content with its evolutions in unified form. -/
def Content.unified : Content → Content
  | .evolved found => .evolved (found.map Draft.unifyEvolved)
  | content => content

/-- A map that accounts for every line of a text that declares something. -/
structure Map.Complete (switches : Switches) (lines : List (List Char)) (map : Map) : Prop where
  /-- Each declaring line gives one record or one diagnostic of its kind. -/
  accounts : ∀ kind ∈ Kind.listed,
    Accounts (kind.contents switches (numbered lines)).1.lines
      ((kind.contents switches (numbered lines)).2.map Diagnostic.line)
      (kind.lineNumbers switches lines)
  /-- The records of a kind without positions are what the map holds of it. -/
  content_eq : ∀ kind ∈ Kind.listed, kind ∉ Kind.positioned →
    map.content kind = (kind.contents switches (numbered lines)).1.unified
  /-- An element that is read stands once in one collection and in no other. -/
  collection_eq : ∀ kind ∈ Kind.positioned,
    ∀ element ∈ (kind.contents switches (numbered lines)).1.asElements,
      let unified := (draftOf switches (numbered lines)).unifyElement element
      ∀ other, ((map.collection other).filter fun e => e.line = element.line) =
        if other = unified.kind then [unified] else []
  /-- No two records of a kind stand on the same line. -/
  nodup_lines : ∀ kind ∈ Kind.listed, (map.content kind).lines.Nodup
  /-- Elements and their diagnostics are as many as the lines that declare elements. -/
  length_elements : map.elements.length +
      (Kind.positioned.flatMap fun kind => (kind.contents switches (numbered lines)).2).length =
    ((numbered lines).filter fun line =>
      introduces elementWords line.2 && !isOwned (blocks lines) (line.1 - 1)).length

/-- Unifying does not change the lines of content. -/
@[simp] theorem lines_unified (content : Content) : content.unified.lines = content.lines := by
  cases content with
  | evolved found => simp [Content.unified, Content.lines, Draft.unifyEvolved, Function.comp_def]
  | _ => rfl

/-- Lines that account for records each tell one record. -/
theorem nodup_of_accounts {records : List (Option Number)} {errors : List Number}
    {lines : List Nat} (h : Accounts records errors lines) : records.Nodup := by
  rcases h with ⟨read, faulty, rfl, -, hread, -⟩
  refine List.pairwise_map.2 (hread.imp ?_)
  intro a b hlt heq
  simp only [Option.some.injEq, Number.int.injEq, Int.natCast_inj] at heq
  omega

section Complete

variable (switches : Switches) (lines : List (List Char))

/-- A unified map keeps the content of the other kinds. -/
theorem content_unify {kind : Kind} (h : kind ∈ Kind.listed) (hplace : kind ∉ Kind.positioned) :
    (draftOf switches (numbered lines)).unify.content kind =
      (kind.contents switches (numbered lines)).1.unified := by
  cases kind with
  | title | evolution | presentation | pipelines | links => simp [Kind.listed] at h
  | elements | anchors | submaps => simp [Kind.positioned] at hplace
  | _ => rfl

/-- What a positioned kind reads is declared. -/
theorem asElements_subset {kind : Kind} (h : kind ∈ Kind.positioned) :
    (kind.contents switches (numbered lines)).1.asElements ⊆
      (draftOf switches (numbered lines)).declared := by
  intro element helement
  simp only [Draft.declared, List.mem_append]
  cases kind with
  | elements => exact .inl (.inl helement)
  | anchors => exact .inl (.inr helement)
  | submaps => exact .inr helement
  | _ => simp [Kind.positioned] at h

/-- Exactly one collection holds the element of a line. -/
theorem collection_filter_line {element : Element}
    (h : element ∈ (draftOf switches (numbered lines)).declared) (other : ElementKind) :
    let unified := (draftOf switches (numbered lines)).unifyElement element
    (((draftOf switches (numbered lines)).unify.collection other).filter
        fun e => e.line = element.line) = if other = unified.kind then [unified] else [] := by
  intro unified
  let draft := draftOf switches (numbered lines)
  have honly : ((draft.declared.map draft.unifyElement).filter
      fun e => e.line = element.line) = [unified] := by
    rw [List.filter_map]
    exact congrArg (List.map draft.unifyElement)
      (filter_key_eq (nodup_line_declared switches lines) h)
  rw [Draft.collection_unify, Draft.ofClass, List.filter_comm, honly]
  by_cases hkind : other = unified.kind
  · simp [hkind]
  · simp [hkind, Ne.symm hkind]

/-- Elements and their diagnostics are as many as the element lines outside blocks. -/
theorem length_elements_unify :
    (draftOf switches (numbered lines)).unify.elements.length +
        (Kind.positioned.flatMap fun kind => (kind.contents switches (numbered lines)).2).length =
      ((numbered lines).filter fun line =>
        introduces elementWords line.2 && !isOwned (blocks lines) (line.1 - 1)).length := by
  let outside := linesOutsideBlocks (numbered lines)
  have hread (kinds : List ElementKind) : (elementsOf kinds (numbered lines)).records.length +
      (elementsOf kinds (numbered lines)).errors.length =
        (declarations (kinds.map ElementKind.word) outside).length := length_collect _ _
  have helements := hread [.component, .market, .ecosystem]
  have hanchors := hread [.anchor]
  have hsubmaps := hread [.submap]
  have hwords := (declarations_elementWords_perm outside).length_eq
  have hlines := congrArg List.length (map_line_declarations elementWords outside)
  have houtside : ((numbered lines).filter fun line =>
      introduces elementWords line.2 && !isOwned (blocks lines) (line.1 - 1)) =
        outside.filter fun line => introduces elementWords line.2 := by
    simp only [outside, linesOutsideBlocks, List.filter_filter, map_snd_numbered]
  rw [houtside, (Draft.elements_unify_perm _).length_eq, List.length_map]
  simp only [List.length_append, List.length_map] at hwords hlines
  simp only [Draft.declared, draftOf, Kind.positioned, Kind.contents, fromOutcome, elements,
    anchors, submaps, List.flatMap_cons, List.flatMap_nil, List.append_nil, List.length_append]
  simp only [List.map_cons, List.map_nil, ElementKind.word] at helements hanchors hsubmaps
  omega

/-- The map of numbered lines is complete. -/
theorem complete_unify : (draftOf switches (numbered lines)).unify.Complete switches lines where
  accounts := fun kind hkind => contents_accounts switches lines hkind
  content_eq := fun kind hkind hplace => content_unify switches lines hkind hplace
  collection_eq := by
    intro kind hkind element helement
    exact collection_filter_line switches lines (asElements_subset switches lines hkind helement)
  nodup_lines := by
    intro kind hkind
    by_cases hplace : kind ∈ Kind.positioned
    · have hperm := (Draft.elements_unify_perm (draftOf switches (numbered lines))).map Element.line
      rw [List.map_map] at hperm
      have hnodup := hperm.nodup_iff.2 (nodup_line_declared switches lines)
      cases kind with
      | elements | anchors | submaps => exact hnodup
      | _ => simp [Kind.positioned] at hplace
    · rw [content_unify switches lines hkind hplace, lines_unified]
      exact nodup_of_accounts (contents_accounts switches lines hkind)
  length_elements := length_elements_unify switches lines

end Complete

/-- The map of every text accounts for every declaring line of the text. -/
theorem parse_complete (switches : Switches) (text : String) :
    (parse switches text).Complete switches (cleanLines text.toList) := by
  rw [parse_eq_unify]
  exact complete_unify switches _

end Wardley
