import Wardley.Model.Element

/-!
# Markings and settings

What a map shows besides elements and their relations: annotations, notes,
addresses, regions of attitude, accelerating forces, sourcing methods, the labels
of the evolution axis, presentation settings and the diagnostics of a parse.
-/

namespace Wardley

/-- One place that an annotation marks. -/
structure Occurrence where
  visibility : Number
  maturity : Number
  deriving DecidableEq, Repr, Inhabited

/-- A numbered annotation of one or more places. -/
structure Annotation where
  number : Number
  text : String
  occurrences : List Occurrence := []
  line : Option Number := none
  deriving DecidableEq, Repr, Inhabited

/-- A text placed on the map. -/
structure Note where
  text : String
  visibility : Number
  maturity : Number
  line : Option Number := none
  deriving DecidableEq, Repr, Inhabited

/-- A named address, which submaps refer to. -/
structure Url where
  name : String
  url : String
  line : Option Number := none
  deriving DecidableEq, Repr, Inhabited

/-- A region of attitude: a corner with a size, or two corners. -/
structure Attitude where
  attitude : String
  visibility : Number
  maturity : Number
  visibility2 : Option Number := none
  maturity2 : Option Number := none
  width : Option Number := none
  height : Option Number := none
  line : Option Number := none
  deriving DecidableEq, Repr, Inhabited

/-- A force at a point, speeding up or slowing down. -/
structure Accelerator where
  name : String
  visibility : Number
  maturity : Number
  deaccelerator : Bool := false
  line : Option Number := none
  deriving DecidableEq, Repr, Inhabited

/-- A statement of how something is sourced. -/
structure Method where
  name : String
  decorators : Decorators
  line : Option Number := none
  deriving DecidableEq, Repr, Inhabited

/-! ## Axis and presentation -/

/-- The label of one stage of the evolution axis, on up to two lines. -/
structure AxisLabel where
  line1 : String
  line2 : String
  deriving DecidableEq, Repr, Inhabited

/-- The four labels of the evolution axis when none are written. -/
def AxisLabel.standard : List AxisLabel :=
  [⟨"Genesis", ""⟩, ⟨"Custom-Built", ""⟩, ⟨"Product", "(+rental)"⟩, ⟨"Commodity", "(+utility)"⟩]

/-- A place for the list of annotations. -/
structure Point where
  visibility : Number := 0
  maturity : Number := 0
  deriving DecidableEq, Repr, Inhabited

/-- The size of a drawing. -/
structure Size where
  width : Number := 0
  height : Number := 0
  deriving DecidableEq, Repr, Inhabited

/-- Settings of the whole drawing. -/
structure Presentation where
  style : String := ""
  annotations : Point := {}
  size : Size := {}
  deriving DecidableEq, Repr, Inhabited

/-! ## Diagnostics -/

/-- A problem of one line of a map text. -/
structure Diagnostic where
  line : Number
  message : String
  deriving DecidableEq, Repr, Inhabited

end Wardley
