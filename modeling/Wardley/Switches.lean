/-!
# Switches

Three parts of the notation are optional and can be switched off.
-/

namespace Wardley

/-- Which optional parts of the notation are read. -/
structure Switches where
  /-- Blocks of children are read; otherwise only ranges of pipelines are. -/
  newPipelines : Bool
  /-- The text behind a link becomes its context; otherwise it is discarded. -/
  linkContext : Bool
  /-- Accelerators and deaccelerators are read. -/
  accelerators : Bool
  deriving DecidableEq, Repr

namespace Switches

/-- Everything is read. -/
def allOn : Switches := ⟨true, true, true⟩

instance : Inhabited Switches := ⟨allOn⟩

end Switches

end Wardley
