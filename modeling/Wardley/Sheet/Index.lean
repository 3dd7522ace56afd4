import Wardley.Resolution.Index
import Wardley.Sheet.Writing

/-!
# Positions of names on sheets

Names on a sheet are scalars, equal when their values are; a list or a mapping is no name.
Places are documents of any kind.  Otherwise names have places as on a map.

Main definitions:

- `Name`, `Place`, `Sheet.index`: the table of all names.
- `Sheet.resolvedLinks`: links with the places of their ends.
-/

namespace Wardley
namespace Sheet

/-- A scalar that names something. -/
structure Name where
  scalar : Scalar
  deriving Repr

instance : BEq Name := ⟨fun a b => a.scalar.same b.scalar⟩

/-- The name that a document is. -/
def asName : Document → Except Fault Name
  | .scalar value => .ok ⟨value⟩
  | _ => .error .otherType

/-- The name of a record. -/
def Record.name (record : Record) : Except Fault Name := asName (record.value "name")

/-- Where a name is drawn. -/
structure Place where
  maturity : Document
  visibility : Document
  /-- The place is a projection. -/
  evolved : Bool
  deriving Repr

/-- A table from names to places. -/
abbrev Places := Index Name Place

/-! ## The table of names -/

/-- Enters an element. -/
def enterElement (places : Places) (element : Record) : Except Fault Places := do
  pure (places.enter (← element.name)
    ⟨element.value "maturity", element.value "visibility", false⟩)

/-- Enters the children of a pipeline, each at the visibility of the pipeline. -/
def enterChildren (places : Places) (pipeline : Record) : Except Fault Places := do
  let enterChild (places : Places) (child : Row) : Except Fault Places := do
    pure (places.enter (← asName (child.value "name"))
      ⟨child.value "maturity", pipeline.value "visibility", false⟩)
  (← (pipeline.get "components").rows?).foldlM enterChild places

/-- The name under which an evolution is drawn: the override unless it is empty. -/
def displayName (evolved : Record) : Document :=
  let override := evolved.value "override"
  if override.isEmpty then evolved.value "name" else override

/-- Enters the projection of an evolution whose source is on the sheet. -/
def enterProjection (sheet : Sheet) (places : Places) (evolved : Record) :
    Except Fault Places :=
  match sheet.element? (evolved.value "name") with
  | none => .ok places
  | some source => do
    pure (places.replace (← asName (displayName evolved))
      ⟨evolved.value "maturity", source.value "visibility", true⟩)

/-- The table of all names of a sheet. -/
def index (sheet : Sheet) : Except Fault Places := do
  let elements ← sheet.elements.foldlM enterElement []
  let named ← (sheet.records .pipelines).foldlM enterChildren elements
  (sheet.records .evolved).foldlM sheet.enterProjection named

/-! ## Links -/

/-- A link with the places of both of its ends. -/
structure ResolvedLink where
  link : Record
  start : Place
  finish : Place
  deriving Repr

/-- A link with the places of its ends, if a table has both. -/
def resolve? (places : Places) (link : Record) : Except Fault (Option ResolvedLink) := do
  let start ← asName (link.value "start")
  let finish ← asName (link.value "end")
  match places.get? start, places.get? finish with
  | some first, some second => pure (some ⟨link, first, second⟩)
  | _, _ => pure none

/-- The links of a sheet of which both ends have a place. -/
def resolvedLinks (sheet : Sheet) : Except Fault (List ResolvedLink) := do
  let places ← sheet.index
  (sheet.records .links).filterMapM (resolve? places)

/-- An end of a link has no place in a table; the second end matters only if the first has one. -/
def isDangling (places : Places) (link : Record) : Except Fault Bool := do
  let start ← asName (link.value "start")
  if (places.get? start).isNone then pure true
  else
    let finish ← asName (link.value "end")
    pure (places.get? finish).isNone

/-- The links of which an end has no place in a table. -/
def danglingLinks (sheet : Sheet) (places : Places) : Except Fault (List Record) :=
  (sheet.records .links).filterM (isDangling places)

end Sheet
end Wardley
