import Wardley.Document.Exchange
import Wardley.Example
import Wardley.Resolution.Report

/-!
# A tour of a map

The tour of a map tells what is on it, which of its references resolve, and how its YAML
text begins.

Main definitions:

- `tour`: the lines of the tour of a map.
-/

namespace Wardley

/-- The number of YAML lines that a tour shows. -/
def tourLines : Nat := 20

/-- A line across the page. -/
def ruler (c : Char) : String := String.ofList (List.replicate 80 c)

/-- A count with a check mark. -/
def counted (what : String) (count : Nat) : String := "   ✓ " ++ what ++ ": " ++ toString count

/-- The inventory of a map. -/
def inventory (map : Map) : List String :=
  ["   ✓ Title: " ++ map.title,
   counted "Components" map.components.length,
   counted "Anchors" map.anchors.length,
   counted "Markets" map.markets.length,
   counted "Pipelines" map.pipelines.length,
   counted "Links" map.links.length]

/-- The diagnostics of a map, if there are any. -/
def diagnosis (map : Map) : List String :=
  if map.errors.isEmpty then []
  else
    ["", "   Diagnostics (" ++ toString map.errors.length ++ "):"]
      ++ map.errors.map fun found =>
        "      - line " ++ found.line.text .plain ++ ": " ++ found.message

/-- The links that can be drawn, and the warnings of the report. -/
def resolution (map : Map) : List String :=
  ("   ✓ Drawable links: " ++ toString map.resolvedLinks.length ++ " of "
      ++ toString map.links.length)
    :: map.report.warnings.map fun warning => "      - " ++ warning

/-- The beginning of the YAML text of a map. -/
def sample (map : Map) : List String :=
  let written := map.yaml.toOption.getD ""
  let lines := (Text.lines written.toList).map String.ofList
  let shown := (lines.take tourLines).map fun line => "   " ++ line
  if tourLines < lines.length then
    shown ++ ["   ... (" ++ toString (lines.length - tourLines) ++ " more lines)"]
  else shown

/-- The lines of the tour of a map. -/
def tour (map : Map) : List String :=
  [ruler '=', "PIPELINE DEMO: DSL → Canonical Map → Resolution", ruler '=',
    "", "1. PARSING MAP..."]
    ++ inventory map ++ diagnosis map
    ++ ["", "2. RESOLVING REFERENCES..."] ++ resolution map
    ++ ["", "3. SAMPLE YAML OUTPUT:", ruler '-'] ++ sample map
    ++ ["", ruler '=']

end Wardley
