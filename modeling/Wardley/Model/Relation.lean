import Wardley.Model.Element

/-!
# Links, evolutions and pipelines

What relates elements: a link is a dependency between two names, an evolution
projects an element to a later maturity, and a pipeline groups interchangeable
variants at one visibility.  Names are kept as written and need not be declared.

Main definitions:

- `Link`, `Evolved`, `PipelineChild`, `Pipeline`.
- `Evolved.displayName`: the name under which a projection is drawn.
- `Pipeline.extent`: the range of maturity that a pipeline covers.
-/

namespace Wardley

/-- A directed dependency between two names. -/
structure Link where
  start : String
  finish : String
  /-- The link is a flow rather than a structural dependency. -/
  flow : Bool := false
  future : Bool := false
  past : Bool := false
  /-- Text written after the link. -/
  context : Option String := none
  /-- The quoted value that a flow carries. -/
  flowValue : Option String := none
  line : Option Number := none
  deriving DecidableEq, Repr, Inhabited

/-- The projected position of an element; its visibility is that of its source. -/
structure Evolved where
  /-- The name of the source element. -/
  name : String
  maturity : Number
  /-- A name for the projection. -/
  override : Option String := none
  label : Label := .standard
  line : Option Number := none
  decorators : Option Decorators := none
  deriving DecidableEq, Repr, Inhabited

/-- The name of a projection: the override unless it is absent or empty. -/
def Evolved.displayName (evolved : Evolved) : String :=
  match evolved.override with
  | some name => if name.isEmpty then evolved.name else name
  | none => evolved.name

/-- A variant within a pipeline. -/
structure PipelineChild where
  name : String
  maturity : Number
  visibility : Number
  label : Label := .standard
  line : Option Number := none
  deriving DecidableEq, Repr, Inhabited

/-- A group of interchangeable variants. -/
structure Pipeline where
  name : String
  visibility : Number
  children : List PipelineChild := []
  /-- The lower end of the range of maturity. -/
  maturity1 : Option Number := none
  /-- The upper end of the range of maturity. -/
  maturity2 : Option Number := none
  /-- Neither a range nor a block was written. -/
  hidden : Bool := false
  inertia : Bool := false
  line : Option Number := none
  deriving DecidableEq, Repr, Inhabited

/-! ## Extent of a pipeline -/

/-- The range of a pipeline about which nothing is known. -/
def standardExtent : Number × Number :=
  (.float (.ofDecimal ⟨false, 2, -1⟩), .float (.ofDecimal ⟨false, 8, -1⟩))

/-- The smallest and largest of a list of numbers with a given first one. -/
def rangeOf (first : Number) (others : List Number) : Number × Number :=
  (others.foldl Number.lower first, others.foldl Number.upper first)

/-- The range of maturity of a pipeline: that of its children, else the declared one. -/
def Pipeline.extent (pipeline : Pipeline) : Number × Number :=
  match pipeline.children, pipeline.maturity1, pipeline.maturity2 with
  | child :: others, _, _ => rangeOf child.maturity (others.map PipelineChild.maturity)
  | [], some lowest, some highest => (lowest, highest)
  | [], _, _ => standardExtent

end Wardley
