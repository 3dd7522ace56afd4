import Wardley.Notation.Fault

/-!
# Sourcing methods of a text

A line `build Name`, `buy Name` or `outsource Name` says how something is sourced.

Main definitions:

- `methods`: the methods of a text with their diagnostics.
-/

namespace Wardley
namespace Construct

open Notation

/-- The method that a line gives. -/
def readMethod (declared : Declaration) : Except Fault Method :=
  if declared.body.isEmpty then .error (.missingMethodTarget declared.keyword)
  else
    let decorators :=
      match Decorator.ofWord? declared.keyword.toList with
      | some decorator => Decorators.unset.mark decorator
      | none => .unset
    .ok ⟨String.ofList declared.body, decorators, some (.int declared.line)⟩

/-- The methods of a text. -/
def methods (lines : List (Nat × List Char)) : Outcome Method :=
  collect readMethod (declarations ["build", "buy", "outsource"] lines)

end Construct
end Wardley
