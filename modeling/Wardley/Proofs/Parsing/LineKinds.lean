import Wardley.Proofs.Parsing.BlockChildren
import Wardley.Proofs.Parsing.Diagnosed
import Wardley.Proofs.Parsing.SettingLines

/-!
# The kind of a line

The first word of a line tells what the line is: a keyword introduces the line exactly if it
is that word, and no other keyword does then.  As the keywords of different kinds differ and
links are read from the lines that no reserved keyword introduces, a line outside the blocks
is the source of one kind at most.  The lines of blocks are left out because children are read
from them, whatever else they declare.

Main definitions:

- `Notation.BeginsWith`: the first word of a line and the text behind it.
- `Notation.TellsKeyword`: what the keywords of a line are.
- `Finding.lines`, `Kind.IsSource`: the lines that give something of a kind.
- `TellsKinds`: how the lines of a text are shared out among the kinds.

Main results:

- `Notation.head?_words_eq_some_iff`: every line that is not blank has one first word.
- `Notation.keywordBody?_eq_some_iff_beginsWith`: the keyword and the body of a line.
- `exists_number_of_mem_lines`, `readsNumber_of_isSource`: sources of a kind outside blocks are
  lines of the kind.
- `content_set_nil`: lines that are no sources of settings can be left blank.
- `lines_tellKinds`: the keywords of every line and the kinds of every text.
-/

namespace Wardley

open Construct Notation Text

/-! ## First words -/

namespace Notation

/-- The first word of a line, with the text that stands behind it. -/
structure BeginsWith (line word rest : List Char) : Prop where
  spaced : ∃ before, (∀ c ∈ before, isBlank c) ∧ line = before ++ (word ++ rest)
  ne_nil : word ≠ []
  solid : ∀ c ∈ word, isBlank c = false
  ends : ∀ c ∈ rest.head?, isBlank c = true

section FirstWord

variable {line word rest : List Char}

/-- The words of a line that begins with a word. -/
theorem BeginsWith.words_eq (h : BeginsWith line word rest) : words line = word :: words rest := by
  rcases h.spaced with ⟨before, hbefore, rfl⟩
  rw [words_blank_append hbefore, words_append_of_solid h.ne_nil h.solid h.ends]

/-- A line with words begins with one of them. -/
theorem exists_beginsWith (h : words line ≠ []) : ∃ word rest, BeginsWith line word rest := by
  have hsplit : line.takeWhile isBlank ++ trimStart line = line := List.takeWhile_append_dropWhile
  have hbefore : ∀ c ∈ line.takeWhile isBlank, isBlank c = true :=
    fun _ hc => List.mem_takeWhile_imp hc
  cases hstart : trimStart line with
  | nil =>
      rw [← hsplit, hstart, List.append_nil] at h
      exact (h (words_of_blank hbefore)).elim
  | cons c tail =>
      have hc : isBlank c = false := isBlank_head?_trimStart (by rw [hstart]; rfl)
      rcases exists_word hc tail with ⟨word, rest, hword, hne, hsolid, hends⟩
      exact ⟨word, rest, ⟨_, hbefore, by rw [← hword, ← hstart, hsplit]⟩, hne, hsolid, hends⟩

/-- The first word of a line is the word that the line begins with. -/
theorem head?_words_eq_some_iff :
    (words line).head? = some word ↔ ∃ rest, BeginsWith line word rest := by
  constructor
  · intro h
    have hne : words line ≠ [] := by
      intro hnil
      simp [hnil] at h
    rcases exists_beginsWith hne with ⟨first, rest, hfirst⟩
    rw [hfirst.words_eq, List.head?_cons, Option.some.injEq] at h
    exact ⟨rest, h ▸ hfirst⟩
  · rintro ⟨rest, h⟩
    rw [h.words_eq, List.head?_cons]

/-- Trimming a line leaves its first word and reaches the end of the rest. -/
theorem BeginsWith.trim_eq (h : BeginsWith line word rest) : trim line = word ++ trimEnd rest := by
  have hword : trim word = word := trim_eq_self_iff.2
    ⟨fun c hc => h.solid c (List.mem_of_mem_head? hc),
      fun c hc => h.solid c (List.mem_of_mem_getLast? hc)⟩
  rcases h.spaced with ⟨before, hbefore, rfl⟩
  rw [trim, trimStart_blank_append hbefore, ← trim, trim_append hword h.ne_nil]

/-- The trimmed rest of a line is the body of its first word. -/
theorem BeginsWith.keywordBody?_eq (h : BeginsWith line word rest) :
    keywordBody? word line = some (trim rest) := by
  have hsolid : ∀ c ∈ word, isSolid c = true := fun c hc => by simp [isSolid, h.solid c hc]
  rw [keywordBody?_eq_some_iff hsolid, h.trim_eq, List.takeWhile_append_of_pos hsolid,
    List.dropWhile_append_of_pos hsolid, ← trim_trimEnd_eq rest]
  cases hend : trimEnd rest with
  | nil => simp
  | cons c tail =>
      have hc : isBlank c = true := by
        rcases trimEnd_prefix rest with ⟨after, hafter⟩
        rw [hend] at hafter
        exact h.ends c (hafter ▸ rfl)
      simp [isSolid, hc]

/-- A keyword introduces a line exactly if it is the first word, and the rest is its body. -/
theorem keywordBody?_eq_some_iff_beginsWith {keyword body : List Char} (hne : keyword ≠ [])
    (hsolid : ∀ c ∈ keyword, isBlank c = false) :
    keywordBody? keyword line = some body ↔
      ∃ rest, BeginsWith line keyword rest ∧ body = trim rest := by
  constructor
  · intro hbody
    have hword := ((keywordBody?_eq_some_iff fun c hc => by simp [isSolid, hsolid c hc]).1 hbody).1
    have hhead : (words line).head? = some keyword := by
      have hstop : ∀ c ∈ ((trim line).dropWhile isSolid).head?, isBlank c = true :=
        fun _ => isBlank_head?_dropWhile_isSolid
      rw [← words_trim, ← List.takeWhile_append_dropWhile (p := isSolid) (l := trim line), hword,
        words_append_of_solid hne hsolid hstop, List.head?_cons]
    rcases head?_words_eq_some_iff.1 hhead with ⟨rest, hfirst⟩
    exact ⟨rest, hfirst, Option.some.inj (hbody.symm.trans hfirst.keywordBody?_eq)⟩
  · rintro ⟨rest, hfirst, rfl⟩
    exact hfirst.keywordBody?_eq

/-- What the keywords of a line are. -/
structure TellsKeyword (line : List Char) : Prop where
  /-- A keyword introduces the line exactly if the line begins with it, and the rest is its body. -/
  body : ∀ keyword body : List Char, keyword ≠ [] → (∀ c ∈ keyword, isBlank c = false) →
    (keywordBody? keyword line = some body ↔
      ∃ rest, BeginsWith line keyword rest ∧ body = trim rest)
  /-- A keyword introduces the line exactly if it is the first of its words. -/
  word : ∀ keyword : List Char, keyword ≠ [] → (∀ c ∈ keyword, isBlank c = false) →
    ((keywordBody? keyword line).isSome = true ↔ (words line).head? = some keyword)
  /-- At most one reserved keyword introduces the line. -/
  unique : ∀ first ∈ reservedKeywords, ∀ second ∈ reservedKeywords,
    (keywordBody? first.toList line).isSome = true →
      (keywordBody? second.toList line).isSome = true → first = second
  /-- The line is reserved exactly if its first word is. -/
  reserved : isReserved line = true ↔
    ∃ keyword ∈ reservedKeywords, (words line).head? = some keyword.toList

/-- A line has a body behind a keyword exactly when the keyword is its first word. -/
theorem isSome_keywordBody?_iff {keyword : List Char} (hne : keyword ≠ [])
    (hsolid : ∀ c ∈ keyword, isBlank c = false) :
    (keywordBody? keyword line).isSome = true ↔ (words line).head? = some keyword := by
  rw [Option.isSome_iff_exists, head?_words_eq_some_iff]
  simp only [keywordBody?_eq_some_iff_beginsWith hne hsolid]
  constructor
  · rintro ⟨_, rest, hfirst, -⟩
    exact ⟨rest, hfirst⟩
  · rintro ⟨rest, hfirst⟩
    exact ⟨_, rest, hfirst, rfl⟩

/-- The first word of a line tells its keyword. -/
theorem tellsKeyword (line : List Char) : TellsKeyword line := by
  have hreserved {keyword : String} (hkeyword : keyword ∈ reservedKeywords) :
      (keywordBody? keyword.toList line).isSome = true ↔
        (words line).head? = some keyword.toList := by
    have hword := isKeyword_reservedKeywords keyword hkeyword
    refine isSome_keywordBody?_iff (List.isEmpty_eq_false_iff.1 hword.1) fun c hc => ?_
    simpa [isSolid] using List.all_eq_true.1 hword.2 c hc
  exact {
    body := fun _ _ hne hsolid => keywordBody?_eq_some_iff_beginsWith hne hsolid
    word := fun _ hne hsolid => isSome_keywordBody?_iff hne hsolid
    unique := by
      intro first hfirst second hsecond h₁ h₂
      rw [hreserved hfirst] at h₁
      rw [hreserved hsecond, h₁, Option.some.injEq] at h₂
      exact String.toList_injective h₂
    reserved := by
      rw [isReserved, List.any_eq_true]
      exact exists_congr fun _ => and_congr_right hreserved }

end FirstWord

end Notation

/-! ## Sources -/

/-- The line is introduced by a keyword and its body writes the setting of the keyword. -/
def WritesSetting (keyword : String) (line : List Char) : Prop :=
  ∃ body, keywordBody? keyword.toList line = some body ∧ IsSettingBody keyword body

namespace Kind

/-- The keywords of the settings that a kind reads. -/
def settingWords : Kind → List String
  | title => ["title"]
  | evolution => ["evolution"]
  | presentation => presentationWords
  | _ => []

/-- The setting words of a kind are among its words. -/
theorem settingWords_subset (kind : Kind) : kind.settingWords ⊆ kind.words := by
  cases kind <;> decide

end Kind

/-- The lines of what a kind found: of its diagnostics, its records and their children. -/
def Finding.lines (found : Finding) : List (Option Number) :=
  found.errors.map (fun error => some error.line) ++ found.content.lines ++
    (found.content.asPipelines.flatMap Pipeline.children).map PipelineChild.line

/-- A numbered line gives a diagnostic, a record or a child of a kind, or writes a setting. -/
def Kind.IsSource (switches : Switches) (lines : List (List Char)) (kind : Kind) (number : Nat) :
    Prop :=
  some (.int number) ∈ (kind.read switches lines).lines ∨
  ∃ line, (number, line) ∈ numbered lines ∧
    ∃ keyword ∈ kind.settingWords, WritesSetting keyword line

variable {switches : Switches} {lines : List (List Char)} {kind : Kind} {number : Nat}

/-- A diagnostic of a kind is its own or that of a child. -/
theorem mem_errors_contents {error : Diagnostic}
    (h : error ∈ (kind.contents switches (numbered lines)).2) :
    error ∈ kind.ownErrors switches (numbered lines) ∨
      ∃ child ∈ declaredChildren switches.newPipelines (numbered lines),
        error.line = .int child.2.line := by
  cases kind with
  | pipelines =>
      rcases (mem_errors_pipelines switches.newPipelines (numbered lines)).1 h with
        hown | ⟨child, hchild, hdiagnostic⟩
      · exact .inl hown
      · rcases childDiagnostic?_eq_some_iff.1 hdiagnostic with ⟨fault, -, rfl⟩
        exact .inr ⟨child, hchild, rfl⟩
  | _ => exact .inl h

/-- What a kind finds stands on numbered lines, of the kind unless a block owns them. -/
theorem exists_number_of_mem_lines {line : Option Number}
    (h : line ∈ (kind.read switches lines).lines) :
    ∃ number : Nat, line = some (.int number) ∧
      (kind.ReadsNumber lines number ∨ isOwned (blocks lines) (number - 1) = true) := by
  rcases List.mem_append.1 h with h | hchild
  · rcases List.mem_append.1 h with herror | hrecord
    · rcases List.mem_map.1 herror with ⟨error, hmem, rfl⟩
      rcases mem_errors_contents hmem with hown | ⟨child, hchild, hline⟩
      · rcases (apart_contents switches kind).error _ (List.mem_map_of_mem hown) with
          ⟨number, hnumber, hreads⟩
        exact ⟨number, congrArg some hnumber, .inl hreads⟩
      · exact ⟨child.2.line, congrArg some hline, .inr (isOwned_of_mem_declaredChildren hchild)⟩
    · rcases (apart_contents switches kind).record _ hrecord with ⟨number, hnumber, hreads⟩
      exact ⟨number, hnumber, .inl hreads⟩
  · rcases List.mem_map.1 hchild with ⟨child, hmem, rfl⟩
    have hpipelines : child ∈
        (pipelines switches.newPipelines (numbered lines)).records.flatMap Pipeline.children := by
      cases kind with
      | pipelines => exact hmem
      | _ => cases hmem
    rcases line_of_mem_children hpipelines with ⟨number, hnumber, howned⟩
    exact ⟨number, hnumber, .inr howned⟩

/-- Outside the blocks, the sources of a kind are lines of the kind. -/
theorem readsNumber_of_isSource (houter : isOwned (blocks lines) (number - 1) = false)
    (h : kind.IsSource switches lines number) : kind.ReadsNumber lines number := by
  rcases h with hfound | ⟨line, hline, keyword, hkeyword, body, hbody, -⟩
  · rcases exists_number_of_mem_lines hfound with ⟨found, hnumber, hreads⟩
    rw [Option.some.injEq, Number.int.injEq, Int.natCast_inj] at hnumber
    subst hnumber
    exact hreads.resolve_right (by simp [houter])
  · refine ⟨line, hline, ?_⟩
    have hintroduces : introduces kind.words line = true :=
      List.any_eq_true.2 ⟨keyword, kind.settingWords_subset hkeyword, by rw [hbody]; rfl⟩
    cases kind with
    | links => cases hkeyword
    | _ => exact hintroduces

/-- A line outside the blocks is the source of one kind at most. -/
theorem eq_of_isSource {other : Kind} (houter : isOwned (blocks lines) (number - 1) = false)
    (h : kind.IsSource switches lines number) (hother : other.IsSource switches lines number) :
    kind = other := by
  rcases readsNumber_of_isSource houter h with ⟨line, hline, hreads⟩
  rcases readsNumber_of_isSource houter hother with ⟨line', hline', hreads'⟩
  obtain rfl : line = line' := eq_of_mem_numbered hline hline'
  exact eq_of_reads hreads hreads'

/-! ## Sources of settings -/

/-- Nothing is read of a line that becomes blank if nothing was read of it before. -/
theorem filterMap_set_nil {α : Type} {read : List Char → Option α} (hnil : read [] = none)
    {index : Nat} (hread : ∀ line ∈ lines[index]?, read line = none) :
    (lines.set index []).filterMap read = lines.filterMap read := by
  induction lines generalizing index with
  | nil => rfl
  | cons line rest ih =>
      cases index with
      | zero =>
          rw [List.set_cons_zero, List.filterMap_cons_none hnil,
            List.filterMap_cons_none (hread line rfl)]
      | succ index =>
          rw [List.set_cons_succ, List.filterMap_cons, List.filterMap_cons, ih hread]

/-- A line that writes no setting gives no value. -/
theorem bodyValue_eq_none {α : Type} {keyword : String} {line : List Char}
    {read : List Char → Option α}
    (hread : ∀ body value, read body = some value → IsSettingBody keyword body)
    (hline : ¬ WritesSetting keyword line) : bodyValue keyword read line = none := by
  rw [bodyValue, Option.bind_eq_none_iff]
  intro body hbody
  rw [Option.eq_none_iff_forall_not_mem]
  exact fun value hvalue => hline ⟨body, hbody, hread body value hvalue⟩

/-- The settings of a kind do not change when a line that is no source becomes blank. -/
theorem content_set_nil (hkind : kind.settingWords ≠ []) (index : Nat)
    (h : ¬ kind.IsSource switches lines (index + 1)) :
    (kind.read switches (lines.set index [])).content = (kind.read switches lines).content := by
  have hagree : AgreeOn kind.settingWords (lines.set index []) lines := by
    intro keyword hkeyword α read hread
    refine filterMap_set_nil ?_ fun line hline => bodyValue_eq_none hread fun hwrites => ?_
    · have hword := kind.isKeyword_words keyword (kind.settingWords_subset hkeyword)
      rw [bodyValue, keywordBody?_of_blank (List.isEmpty_eq_false_iff.1 hword.1) trim_nil]
      rfl
    · have hmem : (index + 1, line) ∈ numbered lines := mem_numberFrom.2 ⟨by simp, hline⟩
      exact h (.inr ⟨line, hmem, keyword, hkeyword, hwrites⟩)
  cases kind with
  | title => exact congrArg Content.title (title_congr hagree)
  | evolution => exact congrArg Content.axis (axisLabels_congr hagree)
  | presentation => exact congrArg Content.presentation (presentation_congr hagree)
  | _ => exact (hkind rfl).elim

/-! ## Texts -/

/-- How the lines of a text are shared out among the kinds. -/
structure TellsKinds (switches : Switches) (text : String) : Prop where
  /-- What a kind finds has a line as its source. -/
  sourced : ∀ kind : Kind, ∀ line ∈ (kind.read switches (cleanLines text.toList)).lines,
    ∃ number : Nat, line = some (.int number)
  /-- A line outside the blocks is the source of one kind at most. -/
  apart : ∀ (first second : Kind) (number : Nat),
    isOwned (blocks (cleanLines text.toList)) (number - 1) = false →
      first.IsSource switches (cleanLines text.toList) number →
        second.IsSource switches (cleanLines text.toList) number → first = second
  /-- The settings change only with lines that are sources of them. -/
  settings : ∀ kind : Kind, kind.settingWords ≠ [] → ∀ index : Nat,
    ¬ kind.IsSource switches (cleanLines text.toList) (index + 1) →
      (kind.read switches ((cleanLines text.toList).set index [])).content =
        (kind.read switches (cleanLines text.toList)).content
  /-- No line that a reserved keyword introduces is a link. -/
  links : ∀ link ∈ (parse switches text).links, ∃ (number : Nat) (line : List Char),
    link.line = some (.int number) ∧
    (number, line) ∈ numbered (cleanLines text.toList) ∧ isReserved line = false

/-- The first words of the lines of a text tell their kinds. -/
theorem tellsKinds (switches : Switches) (text : String) : TellsKinds switches text where
  sourced _ _ hline := (exists_number_of_mem_lines hline).imp fun _ => And.left
  apart _ _ _ houter hfirst hsecond := eq_of_isSource houter hfirst hsecond
  settings _ hkind index h := content_set_nil hkind index h
  links link hlink := by
    rw [parse_eq_unify] at hlink
    rcases (apart_links switches.linkContext).record _ (List.mem_map_of_mem hlink) with
      ⟨number, hnumber, line, hline, hreads⟩
    exact ⟨number, line, hnumber, hline, by simpa [Kind.reads] using hreads⟩

/-- Every line has one keyword at most, and in every text it belongs to one kind at most. -/
theorem lines_tellKinds (line : List Char) (switches : Switches) (text : String) :
    TellsKeyword line ∧ TellsKinds switches text :=
  ⟨tellsKeyword line, tellsKinds switches text⟩

/-- Within a block, a line may hold a child and be a link. -/
example :
    let lines := ["pipeline Tea".toList, ['\x7b'], "A->B component Green [0.3]".toList, ['\x7d']]
    some (.int 3) ∈ (Kind.links.read .allOn lines).lines ∧
      some (.int 3) ∈ (Kind.pipelines.read .allOn lines).lines := by
  decide +kernel

end Wardley
