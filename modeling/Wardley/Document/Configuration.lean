import Wardley.Document.Literal
import Wardley.Document.Value
import Wardley.Switches

/-!
# Switches from documents

A switch document is an object from names of switches to booleans.  What it leaves out is
on, and null leaves out everything.

Main definitions:

- `ConfigError`: the reasons for which a document gives no switches.
- `Switches.ofDocument`, `Switches.document`.
-/

namespace Wardley

/-- A reason for which a document gives no switches. -/
inductive ConfigError where
  | noMapping (found : String)
  | unknownNames (names : List Scalar)
  /-- Names of different types have no order in which they could be reported. -/
  | unorderedNames
  | noBoolean (name : String) (found : Document)
  /-- What is found has no text, so that no message can show it. -/
  | unwritable (error : WriteError)
  | malformed
  /-- A literal of the text has no value. -/
  | literal (error : LiteralError)
  deriving Repr

/-- The wording of an error; names without an order and literals may have none. -/
def ConfigError.message : ConfigError → Option String
  | noMapping found => some ("Feature switches must be a mapping, got " ++ found)
  | unknownNames names =>
    some ("Unknown feature switches: " ++ (Document.list (names.map Document.scalar)).display)
  | unorderedNames => none
  | noBoolean name found =>
    some ("Feature switch '" ++ name ++ "' must be true or false, got " ++ found.display)
  | unwritable error => error.message
  | malformed => some "Invalid feature switch YAML"
  | literal error => error.message

/-- The name of the type of a document. -/
def Document.typeName : Document → String
  | scalar .null => "NoneType"
  | scalar (.bool _) => "bool"
  | scalar (.number (.int _)) => "int"
  | scalar (.number (.float _)) => "float"
  | scalar (.text _) => "str"
  | scalar (.timestamp (.day _)) => "date"
  | scalar (.timestamp (.moment _)) => "datetime"
  | list _ => "list"
  | mapping _ => "dict"

namespace Switches

/-- The names of the switches. -/
def names : List String := ["enable_new_pipelines", "enable_link_context", "enable_accelerators"]

/-- Switches with one of them set by name. -/
def set (switches : Switches) (name : String) (value : Bool) : Switches :=
  if name = "enable_new_pipelines" then { switches with newPipelines := value }
  else if name = "enable_link_context" then { switches with linkContext := value }
  else if name = "enable_accelerators" then { switches with accelerators := value }
  else switches

/-- The document of all switches. -/
def document (switches : Switches) : Document :=
  .object [
    ("enable_new_pipelines", .bool switches.newPipelines),
    ("enable_link_context", .bool switches.linkContext),
    ("enable_accelerators", .bool switches.accelerators)]

/-! ## Reading -/

/-- The scalar is the name of a switch. -/
def isName : Scalar → Bool
  | .text name => names.contains name
  | _ => false

/-- Switches overridden by entries, all of which name a switch. -/
def override (switches : Switches) : List (Scalar × Document) → Except ConfigError Switches
  | [] => .ok switches
  | (key, value) :: rest =>
    match key, value with
    | .text name, .scalar (.bool flag) => override (switches.set name flag) rest
    | .text name, other =>
      .error (if other.hasText then .noBoolean name other else .unwritable .tooManyDigits)
    | _, _ => override switches rest

/-- The switches that a document gives. -/
def ofDocument (document : Document) : Except ConfigError Switches :=
  match document with
  | .scalar .null => .ok allOn
  | .mapping entries =>
    let unknown := (entries.map Prod.fst).filter fun key => !isName key
    if unknown.isEmpty then override allOn entries
    else
      match Scalar.sort? unknown with
      | some sorted =>
        .error (if sorted.all Scalar.hasText then .unknownNames sorted
          else .unwritable .tooManyDigits)
      | none => .error .unorderedNames
  | other => .error (.noMapping other.typeName)

end Switches

end Wardley
