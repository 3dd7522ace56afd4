import Wardley.Numeric.Number

/-!
# Positioned elements

An element of a map has a name and a place: its visibility runs from invisible (0)
to user-facing (1), its maturity from genesis (0) to commodity (1).  Neither is
clamped.  Elements carry decorators, independent flags that say how they are
sourced and which role they have.

Main definitions:

- `ElementKind`, `Decorator`, `Decorators`, `Label`, `Element`.
- `Decorators.mark`: sets one flag and leaves the others.

Main results:

- `Decorators.has_mark`: a flag is set after marking exactly when it was marked or
  had been set before.
-/

namespace Wardley

/-! ## Kinds -/

/-- The classification of a positioned element. -/
inductive ElementKind where
  | component
  | anchor
  | submap
  | market
  | ecosystem
  deriving DecidableEq, Repr, Inhabited

namespace ElementKind

/-- All kinds, in the order in which a map lists their collections. -/
def all : List ElementKind := [component, anchor, submap, market, ecosystem]

/-- The word for a kind, in declarations and in documents. -/
def word : ElementKind → String
  | component => "component"
  | anchor => "anchor"
  | submap => "submap"
  | market => "market"
  | ecosystem => "ecosystem"

/-- The kind that a word stands for. -/
def ofWord? (word : String) : Option ElementKind := all.find? fun kind => kind.word == word

/-- The word of a kind is read as the kind. -/
@[simp] theorem ofWord?_word (kind : ElementKind) : ofWord? kind.word = some kind := by
  cases kind <;> decide

end ElementKind

/-! ## Decorators -/

/-- A word that may be attached to an element. -/
inductive Decorator where
  | ecosystem
  | market
  | buy
  | build
  | outsource
  deriving DecidableEq, Repr

namespace Decorator

/-- All decorators. -/
def all : List Decorator := [ecosystem, market, buy, build, outsource]

/-- The word for a decorator. -/
def word : Decorator → String
  | ecosystem => "ecosystem"
  | market => "market"
  | buy => "buy"
  | build => "build"
  | outsource => "outsource"

/-- The decorator that a word stands for. -/
def ofWord? (word : List Char) : Option Decorator :=
  all.find? fun decorator => decorator.word.toList == word

end Decorator

/-- The decorators of an element; the flags are independent of each other. -/
structure Decorators where
  ecosystem : Bool
  market : Bool
  buy : Bool
  build : Bool
  outsource : Bool
  deriving DecidableEq, Repr

namespace Decorators

/-- No decorator is set. -/
def unset : Decorators := ⟨false, false, false, false, false⟩

instance : Inhabited Decorators := ⟨unset⟩

/-- A decorator is set. -/
def has (flags : Decorators) : Decorator → Bool
  | .ecosystem => flags.ecosystem
  | .market => flags.market
  | .buy => flags.buy
  | .build => flags.build
  | .outsource => flags.outsource

/-- Sets one decorator. -/
def mark (flags : Decorators) : Decorator → Decorators
  | .ecosystem => { flags with ecosystem := true }
  | .market => { flags with market := true }
  | .buy => { flags with buy := true }
  | .build => { flags with build := true }
  | .outsource => { flags with outsource := true }

@[simp] theorem has_unset (decorator : Decorator) : unset.has decorator = false := by
  cases decorator <;> rfl

/-- Marking adds one decorator and keeps the others. -/
@[simp] theorem has_mark (flags : Decorators) (marked decorator : Decorator) :
    (flags.mark marked).has decorator = (marked == decorator || flags.has decorator) := by
  cases marked <;> cases decorator <;> rfl

/-- Decorators are their flags. -/
theorem ext_has {a b : Decorators} (h : ∀ decorator, a.has decorator = b.has decorator) :
    a = b := by
  have he := h .ecosystem
  have hm := h .market
  have hy := h .buy
  have hb := h .build
  have ho := h .outsource
  cases a
  cases b
  simp_all [has]

end Decorators

/-! ## Elements -/

/-- The offset of a label from its marker, in pixels. -/
structure Label where
  x : Number
  y : Number
  deriving DecidableEq, Repr

/-- The offset of a label for which none is written. -/
def Label.standard : Label := ⟨5, .int (-10)⟩

instance : Inhabited Label := ⟨Label.standard⟩

/-- One tenth, the maturity of an element without a position. -/
def sketchMaturity : Number := .float (.ofDecimal ⟨false, 1, -1⟩)

/-- Nine tenths, the visibility of an element without a position. -/
def sketchVisibility : Number := .float (.ofDecimal ⟨false, 9, -1⟩)

/-- A positioned element. -/
structure Element where
  /-- The display name, which links and evolutions refer to. -/
  name : String
  kind : ElementKind := .component
  maturity : Number
  visibility : Number
  label : Label := .standard
  /-- The line of the declaration, counted from one. -/
  line : Option Number := none
  /-- The decorators; absent on a declaration that has none. -/
  decorators : Option Decorators := none
  inertia : Bool := false
  pseudo : Bool := false
  /-- The name of an address declaration. -/
  url : Option String := none
  /-- An evolution names this element. -/
  evolving : Bool := false
  /-- The maturity that the element evolves to. -/
  evolveMaturity : Option Number := none
  /-- A pipeline has the name of this element. -/
  pipeline : Bool := false
  deriving DecidableEq, Repr, Inhabited

end Wardley
