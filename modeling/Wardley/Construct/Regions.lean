import Wardley.Notation.Clause

/-!
# Attitudes and accelerators of a text

Both are lines of the form `keyword name [coordinates] width height`.  An attitude may
give two corners instead of a size; an accelerator has a name and one place.

Main definitions:

- `Region`: the common shape.
- `regions`: the regions of a text under options, one keyword after the other.
- `attitudes`, `accelerators`: the records of a text with their diagnostics.
-/

namespace Wardley
namespace Construct

open Notation Text

/-- What a line of the form `keyword name [coordinates] width height` says. -/
structure Region where
  keyword : String
  name : String
  visibility : Number
  maturity : Number
  visibility2 : Option Number
  maturity2 : Option Number
  width : Option Number
  height : Option Number
  line : Nat
  deriving DecidableEq, Repr

/-- Which parts of a region are required or admitted. -/
structure RegionOptions where
  /-- The name must not be empty. -/
  requireName : Bool
  /-- Two corners may be given. -/
  allowCorners : Bool
  /-- A width and a height are read; otherwise what follows the brackets is ignored. -/
  allowSize : Bool
  deriving DecidableEq, Repr

/-- The width and the height that follow the brackets. -/
def readSize (keyword : String) (rest : List Char) :
    Except Fault (Option Double × Option Double) :=
  match words rest with
  | [] => .ok (none, none)
  | [width] => do
    let w ← readNumber "width" width
    pure (some w, none)
  | [width, height] => do
    let w ← readNumber "width" width
    let h ← readNumber "height" height
    pure (some w, some h)
  | _ => .error (.excessSize keyword (String.ofList (trim rest)))

/-- The region that a line gives. -/
def readRegion (options : RegionOptions) (declared : Declaration) : Except Fault Region := do
  match splitBrackets? declared.body with
  | none => throw (.missingPosition declared.keyword)
  | some (name, content, rest) =>
    let name := trim name
    if options.requireName && name.isEmpty then throw (.missingName declared.keyword)
    let coordinates ←
      readNumbers (if options.allowCorners then [2, 4] else [2]) "coordinate" content
    let at? (index : Nat) : Option Number := coordinates[index]?.map Number.float
    let (width, height) ←
      if options.allowSize then readSize declared.keyword rest else pure (none, none)
    pure {
      keyword := declared.keyword
      name := String.ofList name
      visibility := (at? 0).getD 0
      maturity := (at? 1).getD 0
      visibility2 := at? 2
      maturity2 := at? 3
      width := width.map Number.float
      height := height.map Number.float
      line := declared.line }

/-- The regions of a text that one keyword introduces. -/
def regionsOf (options : RegionOptions) (lines : List (Nat × List Char)) (keyword : String) :
    Outcome Region :=
  collect (readRegion options) (declarations [keyword] lines)

/-- Several outcomes as one, their records and their diagnostics in the order of the lines. -/
def mergeByLine (outcomes : List (Outcome Region)) : Outcome Region where
  records := (outcomes.flatMap Outcome.records).mergeSort fun a b => a.line ≤ b.line
  errors := (outcomes.flatMap Outcome.errors).mergeSort fun a b => !b.line.below a.line

/-- The regions of a text that any of the keywords introduces, read keyword by keyword. -/
def regions (keywords : List String) (options : RegionOptions)
    (lines : List (Nat × List Char)) : Outcome Region :=
  mergeByLine (keywords.map (regionsOf options lines))

/-- Outcomes with another record for each. -/
def mapRecords {α β : Type} (f : α → β) (outcome : Outcome α) : Outcome β :=
  ⟨outcome.records.map f, outcome.errors⟩

/-! ## Attitudes -/

/-- The attitude of a region. -/
def Region.attitude (region : Region) : Attitude where
  attitude := region.keyword
  visibility := region.visibility
  maturity := region.maturity
  visibility2 := region.visibility2
  maturity2 := region.maturity2
  width := region.width
  height := region.height
  line := some (.int region.line)

/-- The attitudes of a text. -/
def attitudes (lines : List (Nat × List Char)) : Outcome Attitude :=
  mapRecords Region.attitude
    (regions ["pioneers", "settlers", "townplanners"] ⟨false, true, true⟩ lines)

/-! ## Accelerators -/

/-- The accelerator of a region. -/
def Region.accelerator (region : Region) : Accelerator where
  name := region.name
  visibility := region.visibility
  maturity := region.maturity
  deaccelerator := region.keyword == "deaccelerator"
  line := some (.int region.line)

/-- The accelerators of a text, if they are switched on. -/
def accelerators (enabled : Bool) (lines : List (Nat × List Char)) : Outcome Accelerator :=
  if enabled then
    mapRecords Region.accelerator
      (regions ["accelerator", "deaccelerator"] ⟨true, false, false⟩ lines)
  else .empty

end Construct
end Wardley
