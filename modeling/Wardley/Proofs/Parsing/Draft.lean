import Wardley.Parsing.Run

/-!
# The draft of a text

The findings of a text are assembled under their keys into a draft.  Since every kind
has a key of its own, the draft holds in each field exactly what the reading of that
kind yields, and the diagnostics of all kinds in the order of the readings.

Main results:

- `content_union_map`: findings of all kinds stand under their keys.
- `draft_findings`: the assembled draft, field by field.
- `parse_eq_unify`: the map of a text is its unified draft.
-/

namespace Wardley

open Construct

/-- What the readings of numbered lines yield, field by field. -/
def draftOf (switches : Switches) (lines : List (Nat × List Char)) : Draft where
  title := title lines
  evolution := axisLabels lines
  presentation := presentation lines
  notes := (notes lines).records
  annotations := (annotations lines).records
  elements := (elements lines).records
  pipelines := (pipelines switches.newPipelines lines).records
  evolved := (evolutions lines).records
  anchors := (anchors lines).records
  links := links switches.linkContext lines
  submaps := (submaps lines).records
  urls := (urls lines).records
  attitudes := (attitudes lines).records
  accelerators := (accelerators switches.accelerators lines).records
  methods := (methods lines).records
  errors := Kind.all.flatMap fun kind => (kind.contents switches lines).2

/-- Under the key of a kind stands what is read for it. -/
theorem content_union_map {read : Kind → Finding} (hkey : ∀ kind, (read kind).key = kind.key)
    (kind : Kind) : (Assembly.union (Kind.all.map read)).content kind = (read kind).content := by
  have hfind : (Kind.all.map read).find? (fun finding => finding.key == kind.key) =
      some (read kind) := by
    have hown : Kind.all.find? (fun other => (read other).key == kind.key) = some kind := by
      simp only [hkey]
      exact Kind.ofKey?_key kind
    rw [List.find?_map]
    exact congrArg (Option.map read) hown
  simp only [Assembly.union, hfind]

/-- Under the key of a kind stands what the kind yields. -/
theorem content_findings (switches : Switches) (lines : List (List Char)) (kind : Kind) :
    (Assembly.union (findings switches lines)).content kind =
      (kind.contents switches (Notation.numbered lines)).1 :=
  content_union_map (fun _ => rfl) kind

theorem errors_findings (switches : Switches) (lines : List (List Char)) :
    (Assembly.union (findings switches lines)).errors =
      Kind.all.flatMap fun kind => (kind.contents switches (Notation.numbered lines)).2 := by
  simp [Assembly.union, findings, List.flatMap_map, Kind.read]

/-- The assembled draft holds the reading of every kind in its field. -/
theorem draft_findings (switches : Switches) (lines : List (List Char)) :
    (Assembly.union (findings switches lines)).draft =
      draftOf switches (Notation.numbered lines) := by
  unfold Assembly.draft
  rw [errors_findings]
  simp only [content_findings]
  rfl

/-- The map of a text is its unified draft. -/
theorem parse_eq_unify (switches : Switches) (text : String) :
    parse switches text =
      (draftOf switches (Notation.numbered (Notation.cleanLines text.toList))).unify := by
  rw [parse, draft_findings]

end Wardley
