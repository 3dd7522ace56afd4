import Wardley.Proofs.Construct.Padding
import Wardley.Proofs.Parsing.Draft
import Wardley.Proofs.Text.Lines

/-!
# Indentation of a text

Blanks at the ends of lines never matter: the lines of a text may be indented, end in
blanks or in a carriage return, and the map with its diagnostics stays the same.

Main definitions:

- `trimLines`: a text with every line trimmed.

Main results:

- `draftOf_map_trimLine`: the draft of trimmed lines.
- `parse_trimLines`: the map of a text with trimmed lines.
-/

namespace Wardley

open Construct Notation Text

/-! ## Drafts -/

section Draft

variable (switches : Switches) (lines : List (Nat × List Char))

/-- A reading of single declarations. -/
theorem collect_map_trimLine {α : Type} (read : Declaration → Except Fault α)
    (keywords : List String) :
    collect read (declarations keywords (lines.map trimLine)) =
      collect read (declarations keywords lines) := by
  rw [declarations_map_trimLine]

theorem regions_map_trimLine (keywords : List String) (options : RegionOptions) :
    regions keywords options (lines.map trimLine) = regions keywords options lines := by
  have hruns : regionsOf options (lines.map trimLine) = regionsOf options lines :=
    funext fun keyword => collect_map_trimLine lines _ [keyword]
  rw [regions, hruns, regions]

/-- A kind finds the same in trimmed lines. -/
theorem contents_map_trimLine (kind : Kind) :
    kind.contents switches (lines.map trimLine) = kind.contents switches lines := by
  cases kind with
  | title =>
      simp only [Kind.contents, title, titles, collect_map_trimLine]
  | evolution => simp only [Kind.contents, axisLabels, declarations_map_trimLine]
  | presentation =>
      simp only [Kind.contents, presentation, settings, collect_map_trimLine]
  | elements | anchors | submaps =>
      exact congrArg (fromOutcome _) (elementsOf_map_trimLine lines _)
  | pipelines => exact congrArg (fromOutcome _) (pipelines_map_trimLine lines _)
  | links => simp only [Kind.contents, links_map_trimLine]
  | attitudes => simp only [Kind.contents, attitudes, regions_map_trimLine]
  | accelerators => simp only [Kind.contents, accelerators, regions_map_trimLine]
  | notes | annotations | evolved | urls | methods =>
      exact congrArg (fromOutcome _) (collect_map_trimLine lines _ _)

end Draft

/-- The findings in trimmed lines. -/
theorem findings_map_trim (switches : Switches) (lines : List (List Char)) :
    findings switches (lines.map trim) = findings switches lines := by
  refine List.map_congr_left fun kind _ => ?_
  rw [Kind.read, numbered, numberFrom_map_trim, contents_map_trimLine]
  rfl

/-! ## Texts -/

/-- A text with every line trimmed. -/
def trimLines (text : String) : String :=
  String.ofList (List.intercalate ['\n'] ((Text.lines text.toList).map trim))

theorem lines_trimLines (text : String) :
    Text.lines (trimLines text).toList = (Text.lines text.toList).map trim := by
  rw [trimLines, String.toList_ofList]
  refine lines_intercalate ?_ ?_
  · rw [Ne, List.map_eq_nil_iff]
    exact List.splitOn_ne_nil _ _
  · intro piece hpiece
    rcases List.mem_map.1 hpiece with ⟨line, hline, rfl⟩
    rcases padded_trim line with ⟨before, after, hpadded, -, -⟩
    intro hmem
    refine not_mem_of_mem_splitOn hline ?_
    rw [hpadded]
    exact List.mem_append_left _ (List.mem_append_right _ hmem)

/-- Indentation, blanks at the ends of lines and carriage returns never matter. -/
theorem parse_trimLines (switches : Switches) (text : String) :
    parse switches (trimLines text) = parse switches text := by
  have hclean : (cleanLines (trimLines text).toList).map trim =
      (cleanLines text.toList).map trim := by
    rw [cleanLines, lines_trimLines]
    exact map_trim_eraseLines false _
  have hfindings : findings switches (cleanLines (trimLines text).toList) =
      findings switches (cleanLines text.toList) := by
    rw [← findings_map_trim, hclean, findings_map_trim]
  rw [parse, hfindings, parse]

/-- A line loses the carriage return at its end, and no blank within it. -/
example : trimLines "\tcomponent A B \r\nA->C\r" = "component A B\nA->C" := by
  decide

end Wardley
