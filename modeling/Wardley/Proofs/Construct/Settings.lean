import Wardley.Proofs.Construct.Reordering

/-!
# Settings that are written once

Of several titles the first counts, of several other settings the last.  When all lines
that write a setting agree, the order of the lines plays no role.

Main definitions:

- `SetOnce`: all lines that write a setting agree.
- `Setting.keyword`: the keyword of a setting.

Main results:

- `title_perm`, `axisLabels_perm`, `presentation_perm`: the settings of lines in another order.
-/

namespace Wardley
namespace Construct

open Notation Text

/-- All lines on which a keyword has a body have the same body. -/
def SetOnce (keyword : String) (lines : List (Nat × List Char)) : Prop :=
  ∀ first ∈ lines, ∀ second ∈ lines, ∀ body other,
    keywordBody? keyword.toList first.2 = some body → body ≠ [] →
      keywordBody? keyword.toList second.2 = some other → other ≠ [] → body = other

/-- Declarations of a setting that is written once have the same body. -/
theorem SetOnce.body_eq {keyword : String} {lines : List (Nat × List Char)}
    (h : SetOnce keyword lines) {keywords : List String} {first second : Declaration}
    (hfirst : first ∈ declarations keywords lines) (hsecond : second ∈ declarations keywords lines)
    (hkeyword : first.keyword = keyword) (hkeyword' : second.keyword = keyword)
    (hbody : first.body ≠ []) (hbody' : second.body ≠ []) : first.body = second.body := by
  rcases mem_declarations hfirst with ⟨text, htext, -, hread⟩
  rcases mem_declarations hsecond with ⟨text', htext', -, hread'⟩
  rw [hkeyword] at hread
  rw [hkeyword'] at hread'
  exact h _ htext _ htext' _ _ hread hbody hread' hbody'

/-- Lists in different orders are equal if all their items are. -/
theorem eq_of_perm_of_forall_eq {α : Type} {items others : List α} (h : items.Perm others)
    (hall : ∀ a ∈ items, ∀ b ∈ items, a = b) : items = others := by
  have hany (some' : List α) : some'.Pairwise fun _ _ => True :=
    List.pairwise_of_forall fun _ _ => trivial
  refine List.Perm.eq_of_pairwise (fun a b ha hb _ _ => ?_) (hany items) (hany others) h
  exact hall a ha b (h.mem_iff.2 hb)

/-! ## Bodies of settings -/

/-- The title that a body gives. -/
def titleOf? (body : List Char) : Option (List Char) := if body.isEmpty then none else some body

/-- The keyword that writes a setting. -/
def Setting.keyword : Setting → String
  | .style _ => "style"
  | .annotations _ => "annotations"
  | .size _ => "size"

/-- Settings of different keywords do not meet. -/
theorem Setting.apply_comm {first second : Setting} (hne : first.keyword ≠ second.keyword)
    (presentation : Presentation) :
    Setting.apply (Setting.apply presentation first) second =
      Setting.apply (Setting.apply presentation second) first := by
  cases first <;> cases second <;> first | rfl | contradiction

/-- A setting has the keyword of its declaration, which has a body. -/
theorem readSetting_eq_ok {d : Declaration} {setting : Setting}
    (hkeyword : d.keyword ∈ ["style", "annotations", "size"])
    (hread : readSetting d = .ok setting) : setting.keyword = d.keyword ∧ d.body ≠ [] := by
  unfold readSetting at hread
  by_cases hstyle : d.keyword = "style"
  · rw [if_pos hstyle] at hread
    split at hread
    · cases hread
    · rename_i hbody
      cases hread
      exact ⟨hstyle.symm, by simpa using hbody⟩
  · rw [if_neg hstyle] at hread
    rcases bind_eq_ok.1 hread with ⟨⟨a, b⟩, hpair, hsetting⟩
    have hbody : d.body ≠ [] := by
      intro hnil
      rw [hnil] at hpair
      contradiction
    refine ⟨?_, hbody⟩
    dsimp only at hsetting
    split at hsetting
    · rename_i hplace
      rcases pure_eq_ok.1 hsetting with rfl
      exact hplace.symm
    · rename_i hplace
      rcases pure_eq_ok.1 hsetting with rfl
      simp only [List.mem_cons, hstyle, hplace, List.not_mem_nil, false_or, or_false] at hkeyword
      exact hkeyword.symm

/-! ## Title and evolution axis -/

section Reordering

variable {lines others : List (Nat × List Char)}
  (h : (lines.map Prod.snd).Perm (others.map Prod.snd))
include h

/-- What is read from the bodies of a setting that is written once, in any order. -/
theorem filterMap_body_perm {α : Type} {keyword : String} (hset : SetOnce keyword lines)
    {read : List Char → Option α} (hnil : read [] = none) :
    ((declarations [keyword] lines).filterMap fun d => read d.body) =
      (declarations [keyword] others).filterMap fun d => read d.body := by
  have hforget (some' : List (Nat × List Char)) :
      ((declarations [keyword] some').filterMap fun d => read d.body) =
        ((declarations [keyword] some').map (Declaration.mapLine noLine)).filterMap
          fun d => read d.body := by
    rw [List.filterMap_map]
    rfl
  have hperm : ((declarations [keyword] lines).filterMap fun d => read d.body).Perm
      ((declarations [keyword] others).filterMap fun d => read d.body) := by
    rw [hforget, hforget]
    exact (declarations_perm_noLine h _).filterMap _
  have hbody {d : Declaration} {written : α} (hd : read d.body = some written) : d.body ≠ [] := by
    intro hempty
    rw [hempty, hnil] at hd
    contradiction
  refine eq_of_perm_of_forall_eq hperm ?_
  intro first hfirst second hsecond
  rcases List.mem_filterMap.1 hfirst with ⟨d, hd, hread⟩
  rcases List.mem_filterMap.1 hsecond with ⟨d', hd', hread'⟩
  rcases mem_declarations hd with ⟨-, -, hkeyword, -⟩
  rcases mem_declarations hd' with ⟨-, -, hkeyword', -⟩
  have hsame := hset.body_eq hd hd' (List.mem_singleton.1 hkeyword)
    (List.mem_singleton.1 hkeyword') (hbody hread) (hbody hread')
  rw [hsame, hread'] at hread
  exact (Option.some.inj hread).symm

/-- A title that is written once is the title in any order. -/
theorem title_perm (hset : SetOnce "title" lines) : title lines = title others := by
  have hwritten (some' : List (Nat × List Char)) : (titles some').records =
      (declarations ["title"] some').filterMap fun d => titleOf? d.body := by
    rw [titles, records_collect]
    refine congrArg (List.filterMap · _) (funext fun d => ?_)
    unfold readTitle titleOf?
    split <;> rfl
  have hnil : titleOf? [] = none := rfl
  rw [title, title, hwritten, hwritten, filterMap_body_perm h hset hnil]

/-- Labels that are written once are the labels in any order. -/
theorem axisLabels_perm (hset : SetOnce "evolution" lines) :
    axisLabels lines = axisLabels others := by
  have hnil : readStages? [] = none := by decide
  rw [axisLabels, axisLabels, filterMap_body_perm h hset hnil]

/-- The diagnostics of titles in any order. -/
theorem titles_reorders :
    ((titles lines).mapLines id noLine).Reorders ((titles others).mapLines id noLine) := by
  refine collect_reorders h (fun d => ?_) _
  cases hread : readTitle d with
  | _ => exact hread

/-! ## Presentation -/

theorem settings_reorders :
    ((settings lines).mapLines id noLine).Reorders ((settings others).mapLines id noLine) := by
  refine collect_reorders h (fun d => ?_) _
  cases hread : readSetting d with
  | _ => exact hread

/-- Settings that are written once make the same presentation in any order. -/
theorem presentation_perm
    (hset : ∀ keyword ∈ ["style", "annotations", "size"], SetOnce keyword lines) :
    presentation lines = presentation others := by
  have hrecords := (settings_reorders h).records
  simp only [Outcome.mapLines, List.map_id] at hrecords
  refine hrecords.foldl_eq' ?_ ({} : Presentation)
  intro first hfirst second hsecond current
  by_cases hkeyword : first.keyword = second.keyword
  · rcases mem_records_collect.1 hfirst with ⟨d, hd, hread⟩
    rcases mem_records_collect.1 hsecond with ⟨d', hd', hread'⟩
    rcases mem_declarations hd with ⟨-, -, hmem, -⟩
    rcases mem_declarations hd' with ⟨-, -, hmem', -⟩
    rcases readSetting_eq_ok hmem hread with ⟨hword, hbody⟩
    rcases readSetting_eq_ok hmem' hread' with ⟨hword', hbody'⟩
    have hsame : d'.keyword = d.keyword := by
      rw [← hword, ← hword', hkeyword]
    have heq : d.body = d'.body := (hset d.keyword hmem).body_eq hd hd' rfl hsame hbody hbody'
    have hsetting : first = second := by
      rw [readSetting, heq, ← hsame] at hread
      exact Except.ok.inj (hread.symm.trans hread')
    rw [hsetting]
  · exact Setting.apply_comm hkeyword current

end Reordering

end Construct
end Wardley
