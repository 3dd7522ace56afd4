import Wardley.Parsing.Finding
import Wardley.Proofs.Construct.Concatenation
import Wardley.Proofs.Text.Lines

/-!
# Texts behind others

Most kinds of constructs are read line by line: in two texts that follow each other they find
what they find in the first text and, behind it, what they find in the second one, with its
lines counted on.  Elements are read so as well where no block of the first text reaches
into the second one.  The title, the axis, the presentation and the pipelines depend on
lines far apart.

Main definitions:

- `Content.mapLines`, `Content.append`: contents with other lines, and one behind another.
- `Kind.IsLocal`: the kinds that are read line by line behind given lines.

Main results:

- `Kind.read_append_lines`: what a kind finds in lines that follow each other.
- `Kind.read_append`: what a kind finds in texts that follow each other.
-/

namespace Wardley

open Construct Notation Text

/-! ## Findings -/

/-- A content with its lines renamed; settings have none. -/
def Content.mapLines (f : Nat → Nat) : Content → Content
  | .notes found => .notes (found.map (Note.mapLine f))
  | .annotations found => .annotations (found.map fun marked => marked.mapLine f)
  | .elements found => .elements (found.map (Element.mapLine f))
  | .pipelines found => .pipelines (found.map (Pipeline.mapLine f))
  | .evolved found => .evolved (found.map (Evolved.mapLine f))
  | .links found => .links (found.map (Link.mapLine f))
  | .urls found => .urls (found.map (Url.mapLine f))
  | .attitudes found => .attitudes (found.map (Attitude.mapLine f))
  | .accelerators found => .accelerators (found.map (Accelerator.mapLine f))
  | .methods found => .methods (found.map (Method.mapLine f))
  | .title text => .title text
  | .axis labels => .axis labels
  | .presentation written => .presentation written

/-- The records of a content and those of another one of its kind behind them. -/
def Content.append : Content → Content → Content
  | .notes first, .notes second => .notes (first ++ second)
  | .annotations first, .annotations second => .annotations (first ++ second)
  | .elements first, .elements second => .elements (first ++ second)
  | .pipelines first, .pipelines second => .pipelines (first ++ second)
  | .evolved first, .evolved second => .evolved (first ++ second)
  | .links first, .links second => .links (first ++ second)
  | .urls first, .urls second => .urls (first ++ second)
  | .attitudes first, .attitudes second => .attitudes (first ++ second)
  | .accelerators first, .accelerators second => .accelerators (first ++ second)
  | .methods first, .methods second => .methods (first ++ second)
  | first, _ => first

/-- A finding with its lines renamed. -/
def Finding.mapLines (f : Nat → Nat) (finding : Finding) : Finding :=
  { finding with
    content := finding.content.mapLines f
    errors := finding.errors.map (Diagnostic.mapLine f) }

/-- A finding and one under the same key behind it. -/
def Finding.append (first second : Finding) : Finding :=
  ⟨first.key, first.content.append second.content, first.errors ++ second.errors⟩

instance : Append Finding := ⟨Finding.append⟩

/-! ## Readings -/

/-- The kinds that are read line by line behind given lines. -/
def Kind.IsLocal (lines : List (List Char)) : Kind → Prop
  | .notes | .annotations | .evolved | .links | .urls | .attitudes | .accelerators | .methods =>
    True
  | .elements | .anchors | .submaps => ClosesBlocks lines
  | .title | .evolution | .presentation | .pipelines => False

section Readings

variable (first second : List (List Char))

theorem attitudes_append :
    attitudes (numbered (first ++ second)) =
      attitudes (numbered first) ++
        (attitudes (numbered second)).mapLines
          (Attitude.mapLine (· + first.length)) (· + first.length) := by
  unfold attitudes
  rw [regions_append first second (by decide) (by decide), mapRecords_append]
  exact congrArg (_ ++ ·) (mapRecords_mapLine _ (attitude_mapLine _) _)

theorem accelerators_append (enabled : Bool) :
    accelerators enabled (numbered (first ++ second)) =
      accelerators enabled (numbered first) ++
        (accelerators enabled (numbered second)).mapLines
          (Accelerator.mapLine (· + first.length)) (· + first.length) := by
  cases enabled with
  | false => rfl
  | true =>
      simp only [accelerators, if_true]
      rw [regions_append first second (by decide) (by decide), mapRecords_append]
      exact congrArg (_ ++ ·) (mapRecords_mapLine _ (accelerator_mapLine _) _)

/-- A finding from an outcome that is one outcome behind another. -/
theorem finding_append {α : Type} {wrap : List α → Content} {g : α → α} {f : Nat → Nat}
    {whole before behind : Outcome α} (happend : whole = before ++ behind.mapLines g f)
    (hwrap : wrap (before.records ++ behind.records.map g) =
      (wrap before.records).append ((wrap behind.records).mapLines f)) (key : String) :
    (⟨key, wrap whole.records, whole.errors⟩ : Finding) =
      ⟨key, wrap before.records, before.errors⟩ ++
        Finding.mapLines f ⟨key, wrap behind.records, behind.errors⟩ := by
  subst happend
  exact congrArg (Finding.mk key · _) hwrap

/-- What a local kind finds in lines that follow each other. -/
theorem Kind.read_append_lines (switches : Switches) {kind : Kind} (h : kind.IsLocal first) :
    kind.read switches (first ++ second) =
      kind.read switches first ++ (kind.read switches second).mapLines (· + first.length) := by
  cases kind with
  | title | evolution | presentation | pipelines => exact h.elim
  | notes =>
      exact finding_append (collect_declarations_append first second (readNote_mapLine _) _) rfl _
  | annotations =>
      exact finding_append
        (collect_declarations_append first second (readAnnotation_mapLine _) _) rfl _
  | evolved =>
      exact finding_append
        (collect_declarations_append first second (readEvolution_mapLine _) _) rfl _
  | urls =>
      exact finding_append (collect_declarations_append first second (readUrl_mapLine _) _) rfl _
  | methods =>
      exact finding_append (collect_declarations_append first second (readMethod_mapLine _) _) rfl _
  | attitudes => exact finding_append (attitudes_append first second) rfl _
  | accelerators => exact finding_append (accelerators_append first second _) rfl _
  | elements | anchors | submaps =>
    exact finding_append (elementsOf_append (h.apart second) _) rfl _
  | links =>
      exact congrArg (fun found => Finding.mk Kind.links.key (.links found) [])
        (links_append first second _)

end Readings

/-- What a local kind finds in texts that follow each other. -/
theorem Kind.read_append (switches : Switches) {kind : Kind} {first : List Char}
    (h : kind.IsLocal (lines first)) (second : List Char) :
    kind.read switches (lines (first ++ '\n' :: second)) =
      kind.read switches (lines first) ++
        (kind.read switches (lines second)).mapLines (· + (lines first).length) := by
  rw [lines_append, Kind.read_append_lines (lines first) (lines second) switches h]

/-- Elements behind a block that ends on the last line, and before one that never ends. -/
theorem Kind.read_append_elements :
    let first := "component A\npipeline A\n\x7b component B [0.3]\n\x7d".toList
    let second := "market C [0.1]\ncomponent D\npipeline D \x7b\ncomponent E".toList
    Kind.elements.IsLocal (lines first) ∧
      Kind.elements.read .allOn (lines (first ++ '\n' :: second)) =
        Kind.elements.read .allOn (lines first) ++
          (Kind.elements.read .allOn (lines second)).mapLines (· + 4) ∧
      (Kind.elements.read .allOn (lines (first ++ '\n' :: second))).errors.map Diagnostic.line =
        [.int 5] := by
  intro first second
  have hlocal : Kind.elements.IsLocal (lines first) := ⟨by decide +kernel, by decide +kernel⟩
  exact ⟨hlocal, Kind.read_append .allOn hlocal second, by decide +kernel⟩

end Wardley
