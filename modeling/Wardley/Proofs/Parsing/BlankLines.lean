import Wardley.Proofs.Construct.Insertion
import Wardley.Proofs.Parsing.Draft
import Wardley.Proofs.Text.Lines

/-!
# Blank lines in a text

Inserting an empty line into a text moves the lines behind it and changes nothing else:
neither comments nor blocks of pipelines end at it, and no construct is read from it.

Main results:

- `eraseLines_insert`: erasing comments around an inserted line.
- `draftOf_insert`: the draft around an inserted line.
- `parse_insertBlankLine`: the map of a text with an inserted line.
-/

namespace Wardley

open Construct Notation Text

/-! ## Comments -/

/-- An empty line stays empty and leaves an open comment open. -/
theorem eraseLines_cons_nil (inside : Bool) (rest : List (List Char)) :
    eraseLines inside ([] :: rest) = [] :: eraseLines inside rest := by
  have herased : eraseBlocks inside [] = ([], inside) := by
    cases inside with
    | false => rfl
    | true =>
        simp only [eraseBlocks, piecesOutside]
        rfl
  rw [eraseLines]
  change (eraseBlocks inside []).1 :: eraseLines (eraseBlocks inside []).2 rest = _
  rw [herased]

/-- Comments are erased around an inserted line as without it. -/
theorem eraseLines_insert (inside : Bool) (before after : List (List Char)) :
    eraseLines inside (before ++ [] :: after) =
      (eraseLines inside (before ++ after)).take before.length ++
        [] :: (eraseLines inside (before ++ after)).drop before.length := by
  induction before generalizing inside with
  | nil => exact eraseLines_cons_nil inside after
  | cons line rest ih =>
      simp only [List.cons_append, eraseLines, ih, List.length_cons, List.take_succ_cons,
        List.drop_succ_cons]

/-! ## Drafts -/

section Draft

variable (switches : Switches) (before after : List (List Char))

/-- A blank line moves the titles behind it by one line. -/
theorem titles_insert :
    titles (numbered (before ++ [] :: after)) =
      (titles (numbered (before ++ after))).mapLines id (bump (before.length + 1)) := by
  refine collect_insert before after (by decide) fun d => ?_
  cases hread : readTitle d with
  | _ => exact hread

/-- A blank line moves the settings behind it by one line. -/
theorem settings_insert :
    settings (numbered (before ++ [] :: after)) =
      (settings (numbered (before ++ after))).mapLines id (bump (before.length + 1)) := by
  refine collect_insert before after (by decide) fun d => ?_
  cases hread : readSetting d with
  | _ => exact hread

/-- A blank line does not change the axis. -/
theorem axisLabels_insert :
    axisLabels (numbered (before ++ [] :: after)) = axisLabels (numbered (before ++ after)) := by
  unfold axisLabels
  rw [declarations_insert before after (by decide), List.filterMap_map]
  rfl

/-- A blank line moves the accelerators behind it by one line. -/
theorem accelerators_insert (enabled : Bool) :
    accelerators enabled (numbered (before ++ [] :: after)) =
      (accelerators enabled (numbered (before ++ after))).mapLines
        (Accelerator.mapLine (bump (before.length + 1))) (bump (before.length + 1)) := by
  unfold accelerators
  split
  · rw [regions_insert before after (by decide) (by decide)]
    exact mapRecords_mapLine _ (accelerator_mapLine _) _
  · rfl

/-- A blank line moves the attitudes behind it by one line. -/
theorem attitudes_insert :
    attitudes (numbered (before ++ [] :: after)) =
      (attitudes (numbered (before ++ after))).mapLines
        (Attitude.mapLine (bump (before.length + 1))) (bump (before.length + 1)) := by
  unfold attitudes
  rw [regions_insert before after (by decide) (by decide)]
  exact mapRecords_mapLine _ (attitude_mapLine _) _

/-- The diagnostics of a kind around an inserted line. -/
theorem errors_contents_insert (kind : Kind) :
    (kind.contents switches (numbered (before ++ [] :: after))).2 =
      (kind.contents switches (numbered (before ++ after))).2.map
        (Diagnostic.mapLine (bump (before.length + 1))) := by
  cases kind with
  | evolution | links => rfl
  | title => exact congrArg Outcome.errors (titles_insert before after)
  | presentation => exact congrArg Outcome.errors (settings_insert before after)
  | elements | anchors | submaps =>
      exact congrArg Outcome.errors (elementsOf_insert before after _)
  | pipelines => exact congrArg Outcome.errors (pipelines_insert before after _)
  | attitudes => exact congrArg Outcome.errors (attitudes_insert before after)
  | accelerators => exact congrArg Outcome.errors (accelerators_insert before after _)
  | notes =>
      exact congrArg Outcome.errors
        (collect_insert before after (by decide) fun d => readNote_mapLine _ d)
  | annotations =>
      exact congrArg Outcome.errors
        (collect_insert before after (by decide) fun d => readAnnotation_mapLine _ d)
  | evolved =>
      exact congrArg Outcome.errors
        (collect_insert before after (by decide) fun d => readEvolution_mapLine _ d)
  | urls =>
      exact congrArg Outcome.errors
        (collect_insert before after (by decide) fun d => readUrl_mapLine _ d)
  | methods =>
      exact congrArg Outcome.errors
        (collect_insert before after (by decide) fun d => readMethod_mapLine _ d)

/-- The draft around an inserted line. -/
theorem draftOf_insert :
    draftOf switches (numbered (before ++ [] :: after)) =
      (draftOf switches (numbered (before ++ after))).mapLines (bump (before.length + 1)) := by
  have htitle : title (numbered (before ++ [] :: after)) = title (numbered (before ++ after)) := by
    rw [title, titles_insert, title]
    simp only [Outcome.mapLines, List.map_id]
  have hpresentation : presentation (numbered (before ++ [] :: after)) =
      presentation (numbered (before ++ after)) := by
    rw [presentation, settings_insert, presentation]
    simp only [Outcome.mapLines, List.map_id]
  have hcollect {α : Type} {read : Declaration → Except Fault α} {g : α → α}
      (keywords : List String) (hwords : ∀ keyword ∈ keywords, keyword.toList ≠ [])
      (hread : ∀ d, read (d.mapLine (bump (before.length + 1))) = (read d).map g) :
      (collect read (declarations keywords (numbered (before ++ [] :: after)))).records =
        (collect read (declarations keywords (numbered (before ++ after)))).records.map g :=
    congrArg Outcome.records (collect_insert before after hwords hread)
  simp only [draftOf, Draft.mapLines, Draft.mk.injEq]
  refine ⟨htitle, axisLabels_insert before after, hpresentation,
    hcollect ["note"] (by decide) fun d => readNote_mapLine _ d,
    hcollect ["annotation"] (by decide) fun d => readAnnotation_mapLine _ d,
    congrArg Outcome.records (elementsOf_insert before after _),
    congrArg Outcome.records (pipelines_insert before after _),
    hcollect ["evolve"] (by decide) fun d => readEvolution_mapLine _ d,
    congrArg Outcome.records (elementsOf_insert before after _),
    links_insert before after _,
    congrArg Outcome.records (elementsOf_insert before after _),
    hcollect ["url"] (by decide) fun d => readUrl_mapLine _ d,
    congrArg Outcome.records (attitudes_insert before after),
    congrArg Outcome.records (accelerators_insert before after _),
    hcollect ["build", "buy", "outsource"] (by decide) fun d => readMethod_mapLine _ d, ?_⟩
  rw [List.map_flatMap]
  exact List.flatMap_congr fun kind _ => errors_contents_insert switches before after kind

end Draft

/-! ## Texts -/

/-- A text with an empty line before the line at a position. -/
def insertBlankLine (position : Nat) (text : String) : String :=
  let found := Text.lines text.toList
  String.ofList (List.intercalate ['\n'] (found.take position ++ [] :: found.drop position))

/-- Comments are erased from a text with an inserted line as without it. -/
theorem cleanLines_insertBlankLine {position : Nat} {text : String}
    (h : position ≤ (Text.lines text.toList).length) :
    cleanLines (insertBlankLine position text).toList =
      (cleanLines text.toList).take position ++ [] :: (cleanLines text.toList).drop position := by
  have hlines : Text.lines (insertBlankLine position text).toList =
      (Text.lines text.toList).take position ++ [] :: (Text.lines text.toList).drop position := by
    rw [insertBlankLine, String.toList_ofList]
    refine lines_intercalate (by simp) ?_
    intro piece hpiece
    rw [List.mem_append, List.mem_cons] at hpiece
    rcases hpiece with hpiece | rfl | hpiece
    · exact not_mem_of_mem_splitOn (List.mem_of_mem_take hpiece)
    · exact List.not_mem_nil
    · exact not_mem_of_mem_splitOn (List.mem_of_mem_drop hpiece)
  have hlength : ((Text.lines text.toList).take position).length = position := by
    rw [List.length_take]
    omega
  rw [cleanLines, hlines, eraseLines_insert, List.take_append_drop, hlength]
  rfl

/-- An empty line in a text moves the lines behind it and changes nothing else. -/
theorem parse_insertBlankLine (switches : Switches) {position : Nat} {text : String}
    (h : position ≤ (Text.lines text.toList).length) :
    parse switches (insertBlankLine position text) =
      (parse switches text).mapLines
        fun line => if line ≤ position then line else line + 1 := by
  let lines := cleanLines text.toList
  have hlength : (lines.take position).length = position := by
    rw [List.length_take]
    have hclean : lines.length = (Text.lines text.toList).length := length_eraseLines false _
    omega
  have hbump : bump (position + 1) = fun line => if line ≤ position then line else line + 1 := by
    funext line
    simp only [bump, Nat.lt_succ_iff]
  have hdraft := draftOf_insert switches (lines.take position) (lines.drop position)
  rw [hlength, List.take_append_drop] at hdraft
  rw [parse_eq_unify, parse_eq_unify, cleanLines_insertBlankLine h, hdraft, ← hbump]
  exact Draft.unify_mapLines _ _

/-- An empty line between a header and the brace of a block that is never closed. -/
theorem parse_insertBlankLine_header :
    1 ≤ (Text.lines "pipeline P\n\x7b component A [0.3] component".toList).length ∧
      parse .allOn (insertBlankLine 1 "pipeline P\n\x7b component A [0.3] component") =
        (parse .allOn "pipeline P\n\x7b component A [0.3] component").mapLines
          fun line => if line ≤ 1 then line else line + 1 :=
  ⟨by decide, parse_insertBlankLine .allOn (by decide)⟩

end Wardley
