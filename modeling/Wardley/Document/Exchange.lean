import Wardley.Document.Comparison
import Wardley.Document.Configuration
import Wardley.Document.Json
import Wardley.Document.Reading
import Wardley.Yaml.Node
import Wardley.Yaml.Writer

/-!
# Maps and switches as texts

Maps are exchanged as JSON and as YAML texts, switches as YAML texts.  What is exchanged are
documents; how YAML writes and reads a document is a parameter, the codec.

Main definitions:

- `Map.agrees`: maps with numerically equal fields.
- `Map.json`, `Map.ofJson`: the JSON text of a map, and the map of a JSON text.
- `YamlCodec`: a writer and a reader of YAML texts, `YamlCodec.standard` the ones at hand.
- `YamlCodec.writeMap`, `YamlCodec.readMap`, `YamlCodec.readSwitches`: maps and switches by a codec.
- `Map.yaml`, `Map.ofYaml`, `Switches.ofYaml`: the same by the standard codec.
-/

namespace Wardley

/-- Maps whose fields are equal, numbers by value across both kinds. -/
def Map.agrees (a b : Map) : Bool := a.document.same b.document

/-! ## Texts -/

/-- A reason for which a text gives no map. -/
inductive LoadError where
  | json (error : TextError)
  | yaml (error : TextError)
  | unreadable (error : ReadError)
  deriving Repr

/-- What the document of a JSON text describes. -/
def readJson {α : Type} (read : Document → Except ReadError α) (text : String) :
    Except LoadError α :=
  match Document.ofJson text with
  | .error error => .error (.json error)
  | .ok document => (read document).mapError .unreadable

/-- The JSON text of a map. -/
def Map.json (map : Map) : Except WriteError String := map.document.json

/-- The map of a JSON text. -/
def Map.ofJson (text : String) : Except LoadError Map := readJson Map.ofDocument text

/-! ## Codecs of YAML -/

/-- How documents are written as YAML texts and read from them. -/
structure YamlCodec where
  dump : Document → Except WriteError String
  load : String → Except TextError Document

namespace YamlCodec

/-- The writer and the reader that are used by default. -/
def standard : YamlCodec := ⟨Document.yaml, Document.ofYaml⟩

variable (codec : YamlCodec)

/-- What the document of a YAML text describes. -/
def read {α : Type} (read : Document → Except ReadError α) (text : String) : Except LoadError α :=
  match codec.load text with
  | .error error => .error (.yaml error)
  | .ok document => (read document).mapError .unreadable

/-- The YAML text of a map. -/
def writeMap (map : Map) : Except WriteError String := codec.dump map.document

/-- The map of a YAML text. -/
def readMap (text : String) : Except LoadError Map := codec.read Map.ofDocument text

/-- The switches of a YAML text. -/
def readSwitches (text : String) : Except ConfigError Switches :=
  match codec.load text with
  | .error .malformed => .error .malformed
  | .error (.literal error) => .error (.literal error)
  | .ok document => Switches.ofDocument document

end YamlCodec

/-! ## Standard YAML texts -/

/-- The standard YAML text of a map. -/
def Map.yaml (map : Map) : Except WriteError String := YamlCodec.standard.writeMap map

/-- The map of a standard YAML text. -/
def Map.ofYaml (text : String) : Except LoadError Map := YamlCodec.standard.readMap text

/-- The switches of a standard YAML text. -/
def Switches.ofYaml (text : String) : Except ConfigError Switches :=
  YamlCodec.standard.readSwitches text

end Wardley
