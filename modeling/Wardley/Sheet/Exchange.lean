import Wardley.Document.Exchange
import Wardley.Sheet.Reading
import Wardley.Sheet.Writing

/-!
# Sheets as texts

Sheets are exchanged as JSON and as YAML texts, like maps.  A text gives a map if it can, and
a sheet if only a leaf is not of the type of its field.

Main definitions:

- `YamlCodec.writeSheet`: the YAML text of a sheet by a codec.
- `Sheet.json`, `Sheet.yaml`, `Sheet.ofJson`, `Sheet.ofYaml`: the texts of a sheet, YAML by the
  standard codec.
- `Document.typedOr`: a reading with types, or else one without.
- `Chart`: a map or a sheet.
-/

namespace Wardley

/-- The YAML text of a sheet. -/
def YamlCodec.writeSheet (codec : YamlCodec) (sheet : Sheet) : Except Sheet.Fault String := do
  (codec.dump (← sheet.document)).mapError .unwritable

namespace Sheet

/-- The JSON text of a sheet. -/
def json (sheet : Sheet) : Except Fault String := do
  (← sheet.document).json.mapError .unwritable

/-- The standard YAML text of a sheet. -/
def yaml (sheet : Sheet) : Except Fault String := YamlCodec.standard.writeSheet sheet

/-- The sheet of a JSON text. -/
def ofJson (text : String) : Except LoadError Sheet := readJson ofDocument text

/-- The sheet of a standard YAML text. -/
def ofYaml (text : String) : Except LoadError Sheet := YamlCodec.standard.read ofDocument text

end Sheet

/-- What a first reading gives, or a second one if a leaf is not of the type of its field. -/
def Document.typedOr {α β : Type} (typed : Document → Except ReadError α)
    (untyped : Document → Except ReadError β) (document : Document) :
    Except ReadError (α ⊕ β) :=
  match typed document with
  | .ok found => .ok (.inl found)
  | .error .otherType => (untyped document).map .inr
  | .error error => .error error

/-- A map, or a sheet if it is no map. -/
abbrev Chart := Map ⊕ Sheet

/-- The map or the sheet that a document describes. -/
def Chart.ofDocument : Document → Except ReadError Chart :=
  Document.typedOr Map.ofDocument Sheet.ofDocument

/-- The map or the sheet of a JSON text. -/
def Chart.ofJson (text : String) : Except LoadError Chart := readJson Chart.ofDocument text

/-- The map or the sheet of a standard YAML text. -/
def Chart.ofYaml (text : String) : Except LoadError Chart :=
  YamlCodec.standard.read Chart.ofDocument text

end Wardley
