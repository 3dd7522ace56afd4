import Wardley.Proofs.Construct.SettingGrammar
import Wardley.Proofs.Notation.CommentOrder
import Wardley.Proofs.Parsing.Draft
import Wardley.Proofs.Resolution.Places

/-!
# Lines that write settings

Each setting of a map is written by the lines of one keyword whose bodies have its form: the
first of them counts for the title, the last one for every other setting.  A line of another
body writes nothing, so that it may stand anywhere; it costs one diagnostic, or none if its
keyword is that of the evolution axis.

Main definitions:

- `FirstWins`, `LastWins`: which of the lines that write a value counts.
- `Writes`, `IsFaulty`: the lines that write a setting, and those that fail to.
- `Diagnoses`: the lines that are diagnosed, each once and in order.
- `AgreeOn`: lines whose bodies give the same settings.
- `AddsLines`: lines with others among them.
- `Map.ObeysLines`: the settings of a map are those of lines.

Main results:

- `firstWins_filterMap`, `lastWins_filterMap`: what counts among the values that are read.
- `title_numbered`, `style_numbered`, `annotations_numbered`, `size_numbered`,
  `axisLabels_numbered`, `parse_obeysLines`: the settings of lines.
- `title_congr`, `axisLabels_congr`, `presentation_congr`: lines that agree give the same settings.
- `diagnoses_collect`: the diagnostics of declarations.
- `sameSettings_of_addsLines`: lines that write nothing may be added.
- `parse_obeysSettings`: the settings of every text.
-/

namespace Wardley

open Construct Notation Text

/-! ## Precedence -/

section Precedence

variable {α β : Type}

/-- The first entry that writes a value decides, else the standard value stands. -/
def FirstWins (writes : α → β → Prop) (entries : List α) (standard value : β) : Prop :=
  (∃ entry, FirstOf (fun entry => ∃ written, writes entry written) entries entry ∧
    writes entry value) ∨
  (∀ entry ∈ entries, ∀ written, ¬ writes entry written) ∧ value = standard

/-- The last entry that writes a value decides, else the standard value stands. -/
def LastWins (writes : α → β → Prop) (entries : List α) (standard value : β) : Prop :=
  (∃ entry, LastOf (fun entry => ∃ written, writes entry written) entries entry ∧
    writes entry value) ∨
  (∀ entry ∈ entries, ∀ written, ¬ writes entry written) ∧ value = standard

variable {writes : α → β → Prop} {entries : List α} {standard value : β}

/-- The last entry decides if it is the first one from behind that decides. -/
theorem lastWins_iff_reverse :
    LastWins writes entries standard value ↔ FirstWins writes entries.reverse standard value := by
  simp only [LastWins, FirstWins, lastOf_iff_reverse, List.mem_reverse]

section Reading

variable {read : α → Option β} (h : ∀ entry value, read entry = some value ↔ writes entry value)
include h

/-- The first value that is read is that of the first entry that writes one. -/
theorem firstWins_filterMap (entries : List α) (standard : β) :
    FirstWins writes entries standard ((entries.filterMap read).head?.getD standard) := by
  rw [List.head?_filterMap]
  cases hfind : entries.findSome? read with
  | none =>
      refine .inr ⟨fun entry hentry written hwrites => ?_, rfl⟩
      have hnone := List.findSome?_eq_none_iff.1 hfind entry hentry
      rw [(h entry written).2 hwrites] at hnone
      cases hnone
  | some found =>
      rcases List.findSome?_eq_some_iff.1 hfind with ⟨before, entry, behind, rfl, hentry, hbefore⟩
      have hwrites := (h entry found).1 hentry
      refine .inl ⟨entry, ⟨before, behind, rfl, ⟨found, hwrites⟩, ?_⟩, hwrites⟩
      rintro other hother ⟨written, hother'⟩
      rw [← h, hbefore other hother] at hother'
      cases hother'

/-- The last value that is read is that of the last entry that writes one. -/
theorem lastWins_filterMap (entries : List α) (standard : β) :
    LastWins writes entries standard ((entries.filterMap read).getLast?.getD standard) := by
  rw [lastWins_iff_reverse, ← List.head?_reverse, ← List.filterMap_reverse]
  exact firstWins_filterMap h entries.reverse standard

end Reading

/-- A function that keeps what is written acts on the standard value alone. -/
theorem LastWins.map_standard (hwins : LastWins writes entries standard value) {f : β → β}
    (hf : ∀ entry written, writes entry written → f written = written) :
    LastWins writes entries (f standard) (f value) := by
  rcases hwins with ⟨entry, hlast, hvalue⟩ | ⟨hnone, rfl⟩
  · rw [hf entry value hvalue]
    exact .inl ⟨entry, hlast, hvalue⟩
  · exact .inr ⟨hnone, rfl⟩

end Precedence

/-! ## Lines of a keyword -/

/-- The line writes a value for the setting of a keyword. -/
def Writes {α : Type} (keyword : String) (gives : List Char → α → Prop) (line : List Char)
    (value : α) : Prop :=
  ∃ body, keywordBody? keyword.toList line = some body ∧ gives body value

/-- The keyword introduces the line, but the body does not write the setting. -/
def IsFaulty (keyword : String) (line : List Char) : Prop :=
  ∃ body, keywordBody? keyword.toList line = some body ∧ ¬ IsSettingBody keyword body

/-- The keywords of all settings. -/
def settingWords : List String := ["title", "style", "annotations", "size", "evolution"]

/-- The words of the settings are keywords. -/
theorem isKeyword_settingWords : ∀ keyword ∈ settingWords, IsKeyword keyword := by decide

/-- The value that the body of a keyword gives on a line. -/
def bodyValue {α : Type} (keyword : String) (read : List Char → Option α) (line : List Char) :
    Option α :=
  (keywordBody? keyword.toList line).bind read

/-- The value of a line is given by a body behind the keyword. -/
theorem bodyValue_eq_some_iff {α : Type} {keyword : String} {read : List Char → Option α}
    {gives : List Char → α → Prop} (h : ∀ body value, read body = some value ↔ gives body value)
    (line : List Char) (value : α) :
    bodyValue keyword read line = some value ↔ Writes keyword gives line value := by
  rw [bodyValue, Option.bind_eq_some_iff]
  exact exists_congr fun body => and_congr_right fun _ => h body value

/-- What the declarations of a keyword give is what its lines give. -/
theorem filterMap_declarations {α : Type} (keyword : String) (read : List Char → Option α)
    (lines : List (List Char)) :
    (declarations [keyword] (numbered lines)).filterMap (fun d => read d.body) =
      lines.filterMap (bodyValue keyword read) := by
  have hlines : lines.filterMap (bodyValue keyword read) =
      (numbered lines).filterMap fun line => bodyValue keyword read line.2 := by
    conv_lhs => rw [← map_snd_numbered lines]
    exact List.filterMap_map
  rw [hlines, declarations, List.filterMap_filterMap]
  refine List.filterMap_congr fun line _ => ?_
  rw [declaration?, List.findSome?_singleton, bodyValue]
  cases keywordBody? keyword.toList line.2 <;> rfl

/-! ## Values of bodies -/

/-- The body is a text that is not empty. -/
def GivesText (body : List Char) (text : String) : Prop := body ≠ [] ∧ text = String.ofList body

/-- The body is the place of the annotations in brackets. -/
def GivesPlace (body : List Char) (place : Point) : Prop :=
  ∃ visibility maturity, IsBracketedPair body visibility maturity ∧
    place = ⟨.float visibility, .float maturity⟩

/-- The body is the size of the drawing in brackets. -/
def GivesExtent (body : List Char) (extent : Size) : Prop :=
  ∃ width height, IsBracketedPair body width height ∧ extent = ⟨.float width, .float height⟩

/-- The text that a body gives. -/
def textOf? (body : List Char) : Option String := (titleOf? body).map String.ofList

/-- The place that a body gives. -/
def placeOf? (body : List Char) : Option Point :=
  ((readBracketedPair "annotations" body).map fun pair =>
    (⟨.float pair.1, .float pair.2⟩ : Point)).toOption

/-- The size that a body gives. -/
def extentOf? (body : List Char) : Option Size :=
  ((readBracketedPair "size" body).map fun pair => (⟨.float pair.1, .float pair.2⟩ : Size)).toOption

/-- A text setting gives its body. -/
theorem textOf?_eq_some_iff (body : List Char) (text : String) :
    textOf? body = some text ↔ GivesText body text := by
  rw [textOf?, titleOf?, GivesText]
  cases body with
  | nil => simp
  | cons c rest => simp [eq_comm]

/-- A bracketed pair is read exactly when the body is one. -/
theorem toOption_readBracketedPair_iff {α : Type} {keyword : String} {wrap : Double × Double → α}
    {body : List Char} {value : α} :
    ((readBracketedPair keyword body).map wrap).toOption = some value ↔
      ∃ first second, IsBracketedPair body first second ∧ value = wrap (first, second) := by
  rw [toOption_eq_some_iff, map_eq_ok]
  constructor
  · rintro ⟨⟨first, second⟩, hpair, rfl⟩
    exact ⟨first, second, readBracketedPair_eq_ok_iff.1 hpair, rfl⟩
  · rintro ⟨first, second, hpair, rfl⟩
    exact ⟨(first, second), readBracketedPair_eq_ok_iff.2 hpair, rfl⟩

/-- A place setting gives the place of its pair. -/
theorem placeOf?_eq_some_iff (body : List Char) (place : Point) :
    placeOf? body = some place ↔ GivesPlace body place :=
  toOption_readBracketedPair_iff

/-- A size setting gives the size of its pair. -/
theorem extentOf?_eq_some_iff (body : List Char) (extent : Size) :
    extentOf? body = some extent ↔ GivesExtent body extent :=
  toOption_readBracketedPair_iff

/-! ## Settings of lines -/

/-- The title of lines is the first text that a line gives. -/
theorem title_numbered (lines : List (List Char)) :
    title (numbered lines) =
      (lines.filterMap (bodyValue "title" textOf?)).head?.getD standardTitle := by
  have htexts : (titles (numbered lines)).records.map String.ofList =
      lines.filterMap (bodyValue "title" textOf?) := by
    rw [titles, records_collect, List.map_filterMap, ← filterMap_declarations]
    refine List.filterMap_congr fun d _ => ?_
    rw [readTitle, textOf?, titleOf?]
    split <;> rfl
  rw [title, ← htexts]
  cases (titles (numbered lines)).records <;> rfl

/-- The labels of lines are the last stages that a line names. -/
theorem axisLabels_numbered (lines : List (List Char)) :
    axisLabels (numbered lines) =
      (lines.filterMap (bodyValue "evolution" readStages?)).getLast?.getD [] := by
  rw [axisLabels, filterMap_declarations]

/-- A part of the presentation is what the last setting of the part says. -/
theorem foldl_apply_eq {α : Type} {part : Presentation → α} {value? : Setting → Option α}
    (h : ∀ current setting, part (Setting.apply current setting) =
      (value? setting).getD (part current)) (settings : List Setting) (start : Presentation) :
    part (settings.foldl Setting.apply start) =
      (settings.filterMap value?).getLast?.getD (part start) := by
  induction settings using List.reverseRecOn with
  | nil => rfl
  | append_singleton settings last ih =>
      rw [List.foldl_concat, h, ih, List.filterMap_append]
      cases hlast : value? last with
      | none => simp [hlast]
      | some value => simp [hlast]

/-- The values of a part are those that the lines of its keyword give. -/
theorem filterMap_settings {α : Type} {keyword : String} (hkeyword : keyword ∈ presentationWords)
    {value? : Setting → Option α} {read : List Char → Option α}
    (hread : ∀ number body,
      (readSetting ⟨number, keyword, body⟩).toOption.bind value? = read body)
    (hother : ∀ setting, setting.keyword ≠ keyword → value? setting = none)
    (lines : List (List Char)) :
    (settings (numbered lines)).records.filterMap value? =
      lines.filterMap (bodyValue keyword read) := by
  have hfew : [keyword] ⊆ presentationWords := by simpa using hkeyword
  rw [← filterMap_declarations, settings, records_collect, List.filterMap_filterMap,
    declarations_eq_filter isKeyword_presentationWords hfew, List.filterMap_filter]
  refine List.filterMap_congr fun d hd => ?_
  rcases mem_declarations hd with ⟨-, -, hmem, -⟩
  by_cases hsame : d.keyword = keyword
  · obtain ⟨number, word, body⟩ := d
    obtain rfl : word = keyword := hsame
    rw [if_pos (by simp)]
    exact hread number body
  · rw [if_neg (by simpa using hsame)]
    cases hsetting : readSetting d with
    | error fault => rfl
    | ok setting =>
        have hword := (readSetting_eq_ok hmem hsetting).1
        exact hother setting (hword ▸ hsame)

section Parts

variable (lines : List (List Char))

/-- A part of the presentation of lines is the last value that a line gives for it. -/
theorem part_presentation {α : Type} {keyword : String} (hkeyword : keyword ∈ presentationWords)
    {part : Presentation → α} (value? : Setting → Option α) {read : List Char → Option α}
    (hread : ∀ number body,
      (readSetting ⟨number, keyword, body⟩).toOption.bind value? = read body)
    (hother : ∀ setting, setting.keyword ≠ keyword → value? setting = none)
    (happly : ∀ current setting, part (Setting.apply current setting) =
      (value? setting).getD (part current)) :
    part (presentation (numbered lines)) =
      (lines.filterMap (bodyValue keyword read)).getLast?.getD (part {}) := by
  rw [← filterMap_settings hkeyword hread hother]
  exact foldl_apply_eq happly _ _

/-- The style of a text is that of its last style line. -/
theorem style_numbered :
    (presentation (numbered lines)).style =
      (lines.filterMap (bodyValue "style" textOf?)).getLast?.getD "" := by
  refine part_presentation lines (by decide) Setting.style? ?_ ?_ ?_
  · intro number body
    rw [readSetting_style]
    cases body <;> rfl
  · intro setting hne
    cases setting <;> first | rfl | contradiction
  · intro current setting
    cases setting <;> rfl

/-- The place of the annotations is that of the last such line. -/
theorem annotations_numbered :
    (presentation (numbered lines)).annotations =
      (lines.filterMap (bodyValue "annotations" placeOf?)).getLast?.getD {} := by
  refine part_presentation lines (by decide) Setting.place? ?_ ?_ ?_
  · intro number body
    rw [readSetting_annotations, placeOf?]
    cases readBracketedPair "annotations" body <;> rfl
  · intro setting hne
    cases setting <;> first | rfl | contradiction
  · intro current setting
    cases setting <;> rfl

/-- The size of a map is that of its last size line. -/
theorem size_numbered :
    (presentation (numbered lines)).size =
      (lines.filterMap (bodyValue "size" extentOf?)).getLast?.getD {} := by
  refine part_presentation lines (by decide) Setting.extent? ?_ ?_ ?_
  · intro number body
    rw [readSetting_size, extentOf?]
    cases readBracketedPair "size" body <;> rfl
  · intro setting hne
    cases setting <;> first | rfl | contradiction
  · intro current setting
    cases setting <;> rfl

end Parts

/-! ## Lines that write the same settings -/

/-- Lines that agree on what the bodies of some keywords give, if these write settings. -/
def AgreeOn (keywords : List String) (lines others : List (List Char)) : Prop :=
  ∀ keyword ∈ keywords, ∀ (α : Type) (read : List Char → Option α),
    (∀ body value, read body = some value → IsSettingBody keyword body) →
      lines.filterMap (bodyValue keyword read) = others.filterMap (bodyValue keyword read)

section Agree

variable {lines others : List (List Char)}

theorem AgreeOn.mono {few keywords : List String} (h : AgreeOn keywords lines others)
    (hsubset : ∀ keyword ∈ few, keyword ∈ keywords) : AgreeOn few lines others :=
  fun keyword hkeyword => h keyword (hsubset keyword hkeyword)

/-- The title depends on the title lines only. -/
theorem title_congr (h : AgreeOn ["title"] lines others) :
    title (numbered lines) = title (numbered others) := by
  rw [title_numbered, title_numbered, h "title" (by decide) _ textOf?]
  exact fun body value hvalue => isSettingBody_title.2 ((textOf?_eq_some_iff body value).1 hvalue).1

/-- The axis depends on the evolution lines only. -/
theorem axisLabels_congr (h : AgreeOn ["evolution"] lines others) :
    axisLabels (numbered lines) = axisLabels (numbered others) := by
  rw [axisLabels_numbered, axisLabels_numbered, h "evolution" (by decide) _ readStages?]
  exact fun body value hvalue =>
    isSettingBody_evolution.2 ⟨value, readStages?_eq_some_iff.1 hvalue⟩

/-- The presentation depends on its own lines only. -/
theorem presentation_congr (h : AgreeOn presentationWords lines others) :
    presentation (numbered lines) = presentation (numbered others) := by
  have hstyle := h "style" (by decide) _ textOf? fun body value hvalue =>
    isSettingBody_style.2 ((textOf?_eq_some_iff body value).1 hvalue).1
  have hplace := h "annotations" (by decide) _ placeOf? fun body value hvalue => by
    rcases (placeOf?_eq_some_iff body value).1 hvalue with ⟨visibility, maturity, hpair, -⟩
    exact isSettingBody_annotations.2 ⟨visibility, maturity, hpair⟩
  have hextent := h "size" (by decide) _ extentOf? fun body value hvalue => by
    rcases (extentOf?_eq_some_iff body value).1 hvalue with ⟨width, height, hpair, -⟩
    exact isSettingBody_size.2 ⟨width, height, hpair⟩
  rw [Presentation.mk.injEq]
  simp only [style_numbered, annotations_numbered, size_numbered, hstyle, hplace, hextent, and_self]

end Agree

/-! ## Settings of maps -/

/-- The settings of a map are those that lines write. -/
structure Map.ObeysLines (lines : List (List Char)) (map : Map) : Prop where
  title : FirstWins (Writes "title" GivesText) lines standardTitle map.title
  style : LastWins (Writes "style" GivesText) lines "" map.presentation.style
  annotations :
    LastWins (Writes "annotations" GivesPlace) lines ⟨0, 0⟩ map.presentation.annotations
  size : LastWins (Writes "size" GivesExtent) lines ⟨0, 0⟩ map.presentation.size
  evolution : LastWins (Writes "evolution" NamesStages) lines AxisLabel.standard map.evolution

/-- The axis of a map has the labels of a draft if it has four. -/
def fullAxis (labels : List AxisLabel) : List AxisLabel :=
  if labels.length = 4 then labels else AxisLabel.standard

/-- An axis of named stages is full already. -/
theorem fullAxis_of_namesStages {body : List Char} {labels : List AxisLabel}
    (h : NamesStages body labels) : fullAxis labels = labels := by
  rcases h with ⟨stages, hlength, -, -, hall⟩
  exact if_pos (hall.length_eq.symm.trans hlength)

section Texts

variable (switches : Switches) (text : String)

/-- The title of a parsed text is that of its first title line. -/
theorem title_parse :
    (parse switches text).title =
      ((cleanLines text.toList).filterMap (bodyValue "title" textOf?)).head?.getD
        standardTitle := by
  rw [parse_eq_unify]
  exact title_numbered _

/-- The presentation of a parsed text is that of its lines. -/
theorem presentation_parse :
    (parse switches text).presentation = presentation (numbered (cleanLines text.toList)) := by
  rw [parse_eq_unify]
  rfl

/-- The axis of a parsed text is that of its last evolution line. -/
theorem evolution_parse :
    (parse switches text).evolution =
      fullAxis (((cleanLines text.toList).filterMap
        (bodyValue "evolution" readStages?)).getLast?.getD []) := by
  rw [parse_eq_unify, ← axisLabels_numbered]
  rfl

/-- The settings of a text are those that its lines write. -/
theorem parse_obeysLines : (parse switches text).ObeysLines (cleanLines text.toList) where
  title := by
    rw [title_parse]
    exact firstWins_filterMap (bodyValue_eq_some_iff textOf?_eq_some_iff) _ _
  style := by
    rw [presentation_parse, style_numbered]
    exact lastWins_filterMap (bodyValue_eq_some_iff textOf?_eq_some_iff) _ _
  annotations := by
    rw [presentation_parse, annotations_numbered]
    exact lastWins_filterMap (bodyValue_eq_some_iff placeOf?_eq_some_iff) _ _
  size := by
    rw [presentation_parse, size_numbered]
    exact lastWins_filterMap (bodyValue_eq_some_iff extentOf?_eq_some_iff) _ _
  evolution := by
    rw [evolution_parse]
    have hstages : ∀ body labels, readStages? body = some labels ↔ NamesStages body labels :=
      fun _ _ => readStages?_eq_some_iff
    refine (lastWins_filterMap (bodyValue_eq_some_iff hstages) _ []).map_standard ?_
    rintro line labels ⟨body, -, hlabels⟩
    exact fullAxis_of_namesStages hlabels

end Texts

/-! ## Diagnosed lines -/

/-- Exactly the lines of a property are diagnosed, each once and in their order. -/
def Diagnoses (faulty : List Char → Prop) (lines : List (List Char)) (errors : List Diagnostic) :
    Prop :=
  ∃ numbers : List Nat, errors.map Diagnostic.line = numbers.map (fun n => .int n) ∧
    numbers.Pairwise (· < ·) ∧
    ∀ n, n ∈ numbers ↔ ∃ line, (n, line) ∈ numbered lines ∧ faulty line

/-- The lines are diagnosed that declare a body that is not read. -/
theorem diagnoses_collect {α : Type} {keywords : List String}
    (hwords : ∀ keyword ∈ keywords, IsKeyword keyword) {read : Declaration → Except Fault α}
    {valid : String → List Char → Prop}
    (hread : ∀ number keyword body, keyword ∈ keywords →
      ((∃ record, read ⟨number, keyword, body⟩ = .ok record) ↔ valid keyword body))
    (lines : List (List Char)) :
    Diagnoses (fun line => ∃ keyword ∈ keywords, ∃ body,
        keywordBody? keyword.toList line = some body ∧ ¬ valid keyword body) lines
      (collect read (declarations keywords (numbered lines))).errors := by
  have hisOk (d : Declaration) (hkeyword : d.keyword ∈ keywords) :
      (!(read d).isOk) = true ↔ ¬ valid d.keyword d.body := by
    rw [← hread d.line d.keyword d.body hkeyword]
    cases read d <;> simp [Except.isOk, Except.toBool]
  refine ⟨((declarations keywords (numbered lines)).filter fun d => !(read d).isOk).map
    Declaration.line, ?_, ?_, ?_⟩
  · rw [map_line_errors, List.map_map]
    rfl
  · exact (pairwise_line_declarations keywords (pairwise_numbered lines)).sublist
      (List.filter_sublist.map _)
  · intro n
    simp only [List.mem_map, List.mem_filter]
    constructor
    · rintro ⟨d, ⟨hd, hfails⟩, rfl⟩
      rcases mem_declarations hd with ⟨line, hline, hkeyword, hbody⟩
      exact ⟨line, hline, d.keyword, hkeyword, d.body, hbody, (hisOk d hkeyword).1 hfails⟩
    · rintro ⟨line, hline, keyword, hkeyword, body, hbody, hnot⟩
      refine ⟨⟨n, keyword, body⟩, ⟨?_, (hisOk ⟨n, keyword, body⟩ hkeyword).2 hnot⟩, rfl⟩
      exact List.mem_filterMap.2
        ⟨(n, line), hline, (declaration?_eq_some_iff hwords).2 ⟨rfl, hkeyword, hbody⟩⟩

/-! ## Added lines -/

/-- Lines with others of a property among them. -/
inductive AddsLines (p : List Char → Prop) : List (List Char) → List (List Char) → Prop
  | nil : AddsLines p [] []
  | keep (line : List Char) {lines others : List (List Char)} (h : AddsLines p lines others) :
      AddsLines p (line :: lines) (line :: others)
  | add {line : List Char} (hline : p line) {lines others : List (List Char)}
      (h : AddsLines p lines others) : AddsLines p lines (line :: others)

theorem AddsLines.mono {p q : List Char → Prop} (hpq : ∀ line, p line → q line)
    {lines others : List (List Char)} (h : AddsLines p lines others) :
    AddsLines q lines others := by
  induction h with
  | nil => exact .nil
  | keep line _ ih => exact .keep line ih
  | add hline _ ih => exact .add (hpq _ hline) ih

/-- Added lines from which nothing is read change nothing that is read. -/
theorem AddsLines.filterMap_eq {α : Type} {p : List Char → Prop} {lines others : List (List Char)}
    (h : AddsLines p lines others) {read : List Char → Option α}
    (hread : ∀ line, p line → read line = none) :
    others.filterMap read = lines.filterMap read := by
  induction h with
  | nil => rfl
  | keep line _ ih => rw [List.filterMap_cons, List.filterMap_cons, ih]
  | add hline _ ih => rw [List.filterMap_cons_none (hread _ hline), ih]

/-- A line that fails to write a setting. -/
def IsFaultySetting (line : List Char) : Prop := ∃ keyword ∈ settingWords, IsFaulty keyword line

/-- The line is blank or fails to write a setting. -/
def WritesNothing (line : List Char) : Prop := IsFaultySetting line ∨ line = []

/-- No setting is read from a line that writes none. -/
theorem bodyValue_of_writesNothing {α : Type} {line : List Char} (h : WritesNothing line)
    {keyword : String} (hkeyword : keyword ∈ settingWords) {read : List Char → Option α}
    (hread : ∀ body value, read body = some value → IsSettingBody keyword body) :
    bodyValue keyword read line = none := by
  have hword := isKeyword_settingWords keyword hkeyword
  rw [bodyValue, Option.bind_eq_none_iff]
  intro body hbody
  rcases h with ⟨other, hother, found, hfound, hnot⟩ | rfl
  · obtain rfl := eq_of_introduces (isKeyword_settingWords other hother) hword hfound hbody
    obtain rfl : found = body := Option.some.inj (hfound.symm.trans hbody)
    rw [Option.eq_none_iff_forall_not_mem]
    exact fun value hvalue => hnot (hread found value hvalue)
  · rw [keywordBody?_of_blank (List.isEmpty_eq_false_iff.1 hword.1) trim_nil] at hbody
    cases hbody

/-- Two maps with the same title, presentation and axis. -/
structure Map.SameSettings (map other : Map) : Prop where
  title : map.title = other.title
  presentation : map.presentation = other.presentation
  evolution : map.evolution = other.evolution

/-- Lines that write nothing change no setting wherever they are added. -/
theorem sameSettings_of_addsLines (switches : Switches) {text other : String}
    (h : AddsLines WritesNothing (cleanLines text.toList) (cleanLines other.toList)) :
    (parse switches text).SameSettings (parse switches other) := by
  have hagree : AgreeOn settingWords (cleanLines text.toList) (cleanLines other.toList) :=
    fun keyword hkeyword _ read hread =>
      (h.filterMap_eq fun _ hline => bodyValue_of_writesNothing hline hkeyword hread).symm
  refine ⟨?_, ?_, ?_⟩
  · rw [parse_eq_unify, parse_eq_unify]
    exact title_congr (hagree.mono (by decide))
  · rw [presentation_parse, presentation_parse]
    exact presentation_congr (hagree.mono (by decide))
  · rw [evolution_parse, evolution_parse, ← axisLabels_numbered, ← axisLabels_numbered,
      axisLabels_congr (hagree.mono (by decide))]

/-! ## Comments -/

/-- The line neither opens nor closes a comment. -/
structure IsCommentFree (line : List Char) : Prop where
  no_line : ¬ ['/', '/'] <:+: line
  no_opening : ¬ ['/', '*'] <:+: line
  no_closing : ¬ ['*', '/'] <:+: line

/-- A line without comments is kept, or erased within a block, and leaves comments as they are. -/
theorem IsCommentFree.eraseBlocks_eq {line : List Char} (h : IsCommentFree line) (inside : Bool) :
    eraseBlocks inside (cutLineComment line) = (if inside then [] else line, inside) := by
  rw [cutLineComment_eq_self_iff.2 fun hstray => h.no_line hstray.2]
  cases inside with
  | false => exact eraseBlocks_plain h.no_opening
  | true =>
      have hopen : breakAt (commentDelimiter true) line = none :=
        breakAt_eq_none_iff.2 h.no_closing
      rw [eraseBlocks, piecesOutside_of_none hopen]
      rfl

/-- Comments are erased around added lines as without them. -/
theorem AddsLines.eraseLines {p : List Char → Prop} {lines others : List (List Char)}
    (h : AddsLines (fun line => p line ∧ IsCommentFree line) lines others) (inside : Bool) :
    AddsLines (fun line => p line ∨ line = []) (Notation.eraseLines inside lines)
      (Notation.eraseLines inside others) := by
  induction h generalizing inside with
  | nil => exact .nil
  | keep line _ ih => exact .keep _ (ih _)
  | add hline _ ih =>
      rw [Notation.eraseLines, hline.2.eraseBlocks_eq]
      refine .add ?_ (ih inside)
      cases inside with
      | false => exact .inl hline.1
      | true => exact .inr rfl

/-! ## Texts -/

/-- What the settings of a text obey. -/
structure ObeysSettings (switches : Switches) (text : String) : Prop where
  /-- The first title and the last of each other setting count. -/
  obeys : (parse switches text).ObeysLines (cleanLines text.toList)
  /-- Each other line of a title is diagnosed once, and so is one of the presentation. -/
  title_errors : Diagnoses (IsFaulty "title") (cleanLines text.toList)
    (Kind.title.read switches (cleanLines text.toList)).errors
  presentation_errors : Diagnoses (fun line => ∃ keyword ∈ presentationWords, IsFaulty keyword line)
    (cleanLines text.toList) (Kind.presentation.read switches (cleanLines text.toList)).errors
  /-- The lines of the axis are not diagnosed. -/
  evolution_errors : (Kind.evolution.read switches (cleanLines text.toList)).errors = []
  /-- The map has the diagnostics of all readings, one after the other. -/
  errors_eq : (parse switches text).errors =
    Kind.all.flatMap fun kind => (kind.read switches (cleanLines text.toList)).errors
  /-- Faulty lines that are added to those without comments change no setting. -/
  kept : ∀ other : String,
    AddsLines IsFaultySetting (cleanLines text.toList) (cleanLines other.toList) →
      (parse switches text).SameSettings (parse switches other)
  /-- Nor do they when they are added to the text and hold no comments. -/
  kept_text : ∀ other : String,
    AddsLines (fun line => IsFaultySetting line ∧ IsCommentFree line) (lines text.toList)
      (lines other.toList) → (parse switches text).SameSettings (parse switches other)

/-- The settings of every text obey its lines. -/
theorem parse_obeysSettings (switches : Switches) (text : String) :
    ObeysSettings switches text where
  obeys := parse_obeysLines switches text
  title_errors := by
    have hwords : ∀ keyword ∈ ["title"], IsKeyword keyword := by decide
    have hread : ∀ number keyword body, keyword ∈ ["title"] →
        ((∃ title, readTitle ⟨number, keyword, body⟩ = .ok title) ↔
          IsSettingBody keyword body) := by
      intro number keyword body hkeyword
      obtain rfl := List.mem_singleton.1 hkeyword
      exact exists_readTitle_iff
    have h := diagnoses_collect hwords hread (cleanLines text.toList)
    simp only [List.mem_singleton, exists_eq_left] at h
    exact h
  presentation_errors :=
    diagnoses_collect isKeyword_presentationWords
      (fun _ _ _ hkeyword => exists_readSetting_iff hkeyword) (cleanLines text.toList)
  evolution_errors := rfl
  errors_eq := by
    rw [parse_eq_unify]
    rfl
  kept other h := by
    refine sameSettings_of_addsLines switches (h.mono fun _ hline => .inl hline)
  kept_text other h := sameSettings_of_addsLines switches (h.eraseLines false)

end Wardley
