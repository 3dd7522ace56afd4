import Wardley.Proofs.Construct.PlaceLists
import Wardley.Proofs.Construct.Settings

/-!
# Bodies of settings

A line writes a setting if its body has the form of the setting: any text for a title or a
style, one bracketed pair of numbers for a place or a size, and four stages with arrows
between them for the evolution axis.  The forms are given here without the readings, and each
reading takes the bodies of its form and no others.

Main definitions:

- `IsBracketedPair`, `WritesLabel`, `NamesStages`: the forms of bodies.
- `IsSettingBody`: the bodies that write the setting of a keyword.

Main results:

- `splitArrows_eq_iff`: the pieces between arrows.
- `readBracketedPair_eq_ok_iff`, `readStages?_eq_some_iff`: the bodies that are read.
- `exists_readSetting_iff`: the lines that write a setting of the presentation.
-/

namespace Wardley

open Notation Text

/-! ## Pieces between arrows -/

namespace Text

/-- A text breaks at its first arrow, and what stands behind it is split like any text. -/
theorem splitArrows_eq (text : List Char) :
    splitArrows text =
      match breakAt ['-', '>'] text with
      | some (piece, rest) => piece :: splitArrows rest
      | none => [text] := by
  fun_induction splitArrows text with
  | case1 => rfl
  | case2 rest ih => rfl
  | case3 c rest hnot hnil ih =>
      -- a text has at least one piece
      rw [hnil] at ih
      split at ih <;> cases ih
  | case4 c rest hnot piece others hsplit ih =>
      have hhere : afterPrefix ['-', '>'] (c :: rest) = none := by
        rw [afterPrefix_eq_none_iff, List.cons_prefix_cons]
        rintro ⟨rfl, behind, rfl⟩
        exact hnot behind rfl rfl
      rw [hsplit] at ih
      rw [breakAt, hhere]
      cases hbreak : breakAt ['-', '>'] rest with
      | none =>
          rw [hbreak] at ih
          cases ih
          rfl
      | some parts =>
          rw [hbreak] at ih
          cases ih
          rfl

/-- The pieces are joined by arrows, and no arrow lies within a piece. -/
theorem splitArrows_spec (text : List Char) :
    splitArrows text ≠ [] ∧ List.intercalate ['-', '>'] (splitArrows text) = text ∧
      ∀ piece ∈ splitArrows text, ¬ ['-', '>'] <:+: piece := by
  rw [splitArrows_eq]
  cases hbreak : breakAt ['-', '>'] text with
  | none =>
      exact ⟨List.cons_ne_nil _ _, List.intercalate_singleton,
        by simpa using breakAt_eq_none_iff.1 hbreak⟩
  | some parts =>
      have hshorter : parts.2.length < text.length := by
        rw [breakAt_append hbreak]
        simp
        omega
      rcases splitArrows_spec parts.2 with ⟨hne, hjoin, hpieces⟩
      refine ⟨List.cons_ne_nil _ _, ?_, List.forall_mem_cons.2 ⟨?_, hpieces⟩⟩
      · dsimp only
        rw [List.intercalate_cons_of_ne_nil hne, hjoin]
        exact (breakAt_append hbreak).symm
      · exact not_isInfix_of_breakAt (List.cons_ne_nil _ _) hbreak
termination_by text.length

/-- Pieces without arrows are split again when arrows join them. -/
theorem splitArrows_intercalate {pieces : List (List Char)} (hne : pieces ≠ [])
    (h : ∀ piece ∈ pieces, ¬ ['-', '>'] <:+: piece) :
    splitArrows (List.intercalate ['-', '>'] pieces) = pieces := by
  induction pieces with
  | nil => contradiction
  | cons piece rest ih =>
      rcases List.forall_mem_cons.1 h with ⟨hpiece, hrest⟩
      rw [splitArrows_eq]
      by_cases hnil : rest = []
      · subst hnil
        rw [List.intercalate_singleton, breakAt_eq_none_iff.2 hpiece]
      · have hbreak :=
          breakAt_pair_of_not_isInfix (by decide) hpiece (List.intercalate ['-', '>'] rest)
        rw [List.intercalate_cons_of_ne_nil hnil, List.append_assoc]
        change (match
            breakAt ['-', '>'] (piece ++ '-' :: '>' :: List.intercalate ['-', '>'] rest) with
          | some (piece, rest) => piece :: splitArrows rest
          | none => [_]) = _
        rw [hbreak]
        exact congrArg (piece :: ·) (ih hnil hrest)

/-- The pieces of a text are those without arrows that arrows join to the text. -/
theorem splitArrows_eq_iff {text : List Char} {pieces : List (List Char)} (hne : pieces ≠ []) :
    splitArrows text = pieces ↔
      text = List.intercalate ['-', '>'] pieces ∧ ∀ piece ∈ pieces, ¬ ['-', '>'] <:+: piece := by
  constructor
  · rintro rfl
    exact ⟨(splitArrows_spec text).2.1.symm, (splitArrows_spec text).2.2⟩
  · rintro ⟨rfl, hpieces⟩
    exact splitArrows_intercalate hne hpieces

end Text

namespace Construct

/-! ## Forms of bodies -/

/-- The body is exactly one bracketed pair of numbers. -/
def IsBracketedPair (body : List Char) (first second : Double) : Prop :=
  ∃ content, body = '[' :: (content ++ [']']) ∧ (∀ c ∈ content, isNoBracket c = true) ∧
    IsPlace content ⟨.float first, .float second⟩

/-- A stage has a label, which goes on behind its first ampersand on a second line. -/
def WritesLabel (stage : List Char) (label : AxisLabel) : Prop :=
  (∃ line1 line2, '&' ∉ line1 ∧ stage = line1 ++ '&' :: line2 ∧
    label = ⟨String.ofList (trim line1), String.ofList (trim line2)⟩) ∨
  '&' ∉ stage ∧ label = ⟨String.ofList (trim stage), ""⟩

/-- The body names four stages, none of them blank, with arrows between them. -/
def NamesStages (body : List Char) (labels : List AxisLabel) : Prop :=
  ∃ stages : List (List Char), stages.length = 4 ∧ body = List.intercalate ['-', '>'] stages ∧
    (∀ stage ∈ stages, ¬ ['-', '>'] <:+: stage ∧ trim stage ≠ []) ∧
    List.Forall₂ (fun stage label => WritesLabel (trim stage) label) stages labels

/-- The body writes the setting of a keyword. -/
def IsSettingBody (keyword : String) (body : List Char) : Prop :=
  (keyword = "title" ∨ keyword = "style") ∧ body ≠ [] ∨
  (keyword = "annotations" ∨ keyword = "size") ∧
    (∃ first second, IsBracketedPair body first second) ∨
  keyword = "evolution" ∧ ∃ labels, NamesStages body labels

section Bodies

variable {body : List Char}

/-- A title is any text but the empty one. -/
theorem isSettingBody_title : IsSettingBody "title" body ↔ body ≠ [] := by simp [IsSettingBody]

/-- A style is any text but the empty one. -/
theorem isSettingBody_style : IsSettingBody "style" body ↔ body ≠ [] := by simp [IsSettingBody]

/-- The place of the annotations is a bracketed pair. -/
theorem isSettingBody_annotations :
    IsSettingBody "annotations" body ↔ ∃ first second, IsBracketedPair body first second := by
  simp [IsSettingBody]

/-- A size is a bracketed pair. -/
theorem isSettingBody_size :
    IsSettingBody "size" body ↔ ∃ first second, IsBracketedPair body first second := by
  simp [IsSettingBody]

/-- An axis is a list of stages. -/
theorem isSettingBody_evolution :
    IsSettingBody "evolution" body ↔ ∃ labels, NamesStages body labels := by
  simp [IsSettingBody]

end Bodies

/-! ## Pairs -/

/-- A pair of coordinates is read exactly when it is a place. -/
theorem readPair_eq_ok_iff {content : List Char} {first second : Double} :
    readPair "coordinate" content = .ok (first, second) ↔
      IsPlace content ⟨.float first, .float second⟩ := by
  rw [← readOccurrence_eq_ok_iff, readOccurrence]
  cases readPair "coordinate" content with
  | error fault => simp [bind, Except.bind]
  | ok pair => simp [Prod.ext_iff]

/-- The bodies that are read are the bracketed pairs. -/
theorem readBracketedPair_eq_ok_iff {keyword : String} {body : List Char}
    {first second : Double} :
    readBracketedPair keyword body = .ok (first, second) ↔ IsBracketedPair body first second := by
  rw [readBracketedPair]
  constructor
  · intro h
    split at h
    · rename_i content hgroup
      rcases takeBrackets?_eq_some_iff.1 hgroup with ⟨hbody, hplain⟩
      exact ⟨content, hbody, hplain, readPair_eq_ok_iff.1 h⟩
    · cases h
  · rintro ⟨content, rfl, hplain, hpair⟩
    rw [takeBrackets?_group hplain]
    exact readPair_eq_ok_iff.2 hpair

/-! ## Stages -/

/-- A stage is read as the label that it writes. -/
theorem readStage_eq_iff {stage : List Char} {label : AxisLabel} :
    readStage stage = label ↔ WritesLabel stage label := by
  rw [readStage]
  constructor
  · rintro rfl
    split
    · rename_i line1 line2 hbreak
      refine .inl ⟨line1, line2, ?_, by simpa using breakAt_append hbreak, rfl⟩
      have hfirst := not_isInfix_of_breakAt (List.cons_ne_nil _ _) hbreak
      rwa [List.singleton_infix_iff] at hfirst
    · rename_i hnone
      rw [breakAt_eq_none_iff, List.singleton_infix_iff] at hnone
      exact .inr ⟨hnone, rfl⟩
  · rintro (⟨line1, line2, hline, rfl, rfl⟩ | ⟨hnone, rfl⟩)
    · rw [breakAt_singleton hline]
    · rw [← List.singleton_infix_iff, ← breakAt_eq_none_iff] at hnone
      rw [hnone]

/-- The bodies that are read name four stages. -/
theorem readStages?_eq_some_iff {body : List Char} {labels : List AxisLabel} :
    readStages? body = some labels ↔ NamesStages body labels := by
  have hlabels (stages : List (List Char)) : (stages.map trim).map readStage = labels ↔
      List.Forall₂ (fun stage label => WritesLabel (trim stage) label) stages labels := by
    rw [List.map_map, ← List.forall₂_eq_eq_eq, List.forall₂_map_left_iff]
    simp only [Function.comp_apply, readStage_eq_iff]
  have hfull (stages : List (List Char)) :
      (stages.map trim).all (fun stage => !stage.isEmpty) = true ↔
        ∀ stage ∈ stages, trim stage ≠ [] := by
    simp
  rw [readStages?]
  simp only [List.length_map, hfull]
  constructor
  · intro h
    split at h
    · rename_i hvalid
      rcases (splitArrows_eq_iff (splitArrows_spec body).1).1 rfl with ⟨hjoin, hpieces⟩
      exact ⟨splitArrows body, hvalid.1, hjoin,
        fun stage hstage => ⟨hpieces stage hstage, hvalid.2 stage hstage⟩,
        (hlabels _).1 (Option.some.inj h)⟩
    · cases h
  · rintro ⟨stages, hlength, rfl, hstages, hall⟩
    have hne : stages ≠ [] := by
      rintro rfl
      cases hlength
    rw [(splitArrows_eq_iff hne).2 ⟨rfl, fun stage hstage => (hstages stage hstage).1⟩,
      if_pos ⟨hlength, fun stage hstage => (hstages stage hstage).2⟩, (hlabels stages).2 hall]

/-! ## Declarations of settings -/

/-- The keywords of the settings of the presentation. -/
def presentationWords : List String := ["style", "annotations", "size"]

/-- The words of the presentation are keywords. -/
theorem isKeyword_presentationWords : ∀ keyword ∈ presentationWords, IsKeyword keyword := by decide

/-- The text that a setting gives for the style. -/
def Setting.style? : Setting → Option String
  | .style name => some name
  | _ => none

/-- The place that a setting gives for the annotations. -/
def Setting.place? : Setting → Option Point
  | .annotations place => some place
  | _ => none

/-- The size that a setting gives for the drawing. -/
def Setting.extent? : Setting → Option Size
  | .size extent => some extent
  | _ => none

section Declarations

variable {number : Nat} {body : List Char}

/-- A title is read exactly when its body is one. -/
theorem exists_readTitle_iff {keyword : String} :
    (∃ text, readTitle ⟨number, keyword, body⟩ = .ok text) ↔ IsSettingBody "title" body := by
  rw [readTitle, isSettingBody_title]
  cases body <;> simp

/-- A style line sets the style unless its body is empty. -/
theorem readSetting_style :
    readSetting ⟨number, "style", body⟩ =
      if body.isEmpty then .error .missingStyle else .ok (.style (String.ofList body)) := rfl

/-- An annotations line sets the place of its bracketed pair. -/
theorem readSetting_annotations :
    readSetting ⟨number, "annotations", body⟩ =
      (readBracketedPair "annotations" body).map fun pair =>
        .annotations ⟨.float pair.1, .float pair.2⟩ := by
  cases hpair : readBracketedPair "annotations" body <;>
    simp [readSetting, hpair, Except.map, bind, Except.bind]

/-- A size line sets the size of its bracketed pair. -/
theorem readSetting_size :
    readSetting ⟨number, "size", body⟩ =
      (readBracketedPair "size" body).map fun pair => .size ⟨.float pair.1, .float pair.2⟩ := by
  cases hpair : readBracketedPair "size" body <;>
    simp [readSetting, hpair, Except.map, bind, Except.bind]

/-- A line of the presentation is read if its body writes the setting of its keyword. -/
theorem exists_readSetting_iff {keyword : String} (hkeyword : keyword ∈ presentationWords) :
    (∃ setting, readSetting ⟨number, keyword, body⟩ = .ok setting) ↔
      IsSettingBody keyword body := by
  have hpairs {word : String} {wrap : Double × Double → Setting} :
      (∃ setting, (readBracketedPair word body).map wrap = .ok setting) ↔
        ∃ first second, IsBracketedPair body first second := by
    constructor
    · rintro ⟨setting, hsetting⟩
      rcases map_eq_ok.1 hsetting with ⟨⟨first, second⟩, hpair, -⟩
      exact ⟨first, second, readBracketedPair_eq_ok_iff.1 hpair⟩
    · rintro ⟨first, second, hpair⟩
      rw [readBracketedPair_eq_ok_iff.2 hpair]
      exact ⟨_, rfl⟩
  simp only [presentationWords, List.mem_cons, List.not_mem_nil, or_false] at hkeyword
  rcases hkeyword with rfl | rfl | rfl
  · rw [readSetting_style, isSettingBody_style]
    cases body <;> simp
  · rw [readSetting_annotations, isSettingBody_annotations, hpairs]
  · rw [readSetting_size, isSettingBody_size, hpairs]

end Declarations

end Construct
end Wardley
