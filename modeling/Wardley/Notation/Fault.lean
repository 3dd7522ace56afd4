import Wardley.Model.Marking
import Wardley.Notation.Keyword

/-!
# Faults of declarations

What can be wrong with a line that a keyword introduces.  A fault costs its line:
it becomes a diagnostic with the number of the line, and the line adds nothing to
the map.

Main definitions:

- `Fault`: the causes.
- `Fault.message`: their wording.
- `collect`: reads declarations into records and diagnostics.
-/

namespace Wardley
namespace Notation

/-- A cause for which a declaration is rejected. -/
inductive Fault where
  | invalidNumber (what token : String)
  | wrongCount (expected : List Int) (text : String) (found : Nat)
  | unbalancedBrackets
  | missingName (keyword : String)
  | missingPosition (keyword : String)
  | excessSize (keyword text : String)
  | missingTitle
  | missingStyle
  | missingPair (keyword : String)
  | missingNotePosition
  | missingNoteText
  | missingAnnotationNumber
  | fractionalAnnotationNumber (token : String)
  | unterminatedPositionList
  | unterminatedPosition
  | missingAnnotationPosition
  | emptyPositionList
  | malformedUrl
  | missingChildMaturity
  | missingEvolveTarget
  | missingMethodTarget (keyword : String)
  deriving DecidableEq, Repr

namespace Fault

/-- The wording of a fault. -/
def message : Fault → String
  | invalidNumber what token => "Invalid " ++ what ++ " '" ++ token ++ "'"
  | wrongCount expected text found =>
    "Expected " ++ String.intercalate " or " (expected.map toString) ++ " values in [" ++ text
      ++ "], found " ++ toString found
  | unbalancedBrackets => "Unbalanced coordinate brackets"
  | missingName keyword => "Missing " ++ keyword ++ " name"
  | missingPosition keyword => keyword ++ " needs [visibility, maturity] coordinates"
  | excessSize keyword text =>
    keyword ++ " takes at most width and height, got '" ++ text ++ "'"
  | missingTitle => "Missing title text"
  | missingStyle => "Missing style name"
  | missingPair keyword => keyword ++ " needs a [a, b] pair"
  | missingNotePosition => "note needs a trailing [visibility, maturity]"
  | missingNoteText => "Missing note text"
  | missingAnnotationNumber => "Missing annotation number"
  | fractionalAnnotationNumber token => "Annotation number must be whole, got '" ++ token ++ "'"
  | unterminatedPositionList => "Unterminated annotation position list"
  | unterminatedPosition => "Unterminated annotation position"
  | missingAnnotationPosition => "annotation needs a [visibility, maturity] position"
  | emptyPositionList => "annotation needs at least one position"
  | malformedUrl => "url needs a name and an [address]"
  | missingChildMaturity => "Pipeline component needs a [maturity]"
  | missingEvolveTarget => "evolve needs a name and a target maturity"
  | missingMethodTarget keyword => "Missing " ++ keyword ++ " target"

/-- The diagnostic of a fault on a line. -/
def diagnostic (fault : Fault) (line : Nat) : Diagnostic := ⟨.int line, fault.message⟩

end Fault

/-! ## Reading declarations -/

/-- Records and diagnostics, each in the order of their lines. -/
structure Outcome (α : Type) where
  records : List α
  errors : List Diagnostic
  deriving DecidableEq, Repr

namespace Outcome

/-- Nothing was read. -/
def empty {α : Type} : Outcome α := ⟨[], []⟩

/-- The result of one line before the results of later lines. -/
def add {α : Type} (line : Nat) (result : Except Fault α) (later : Outcome α) : Outcome α :=
  match result with
  | .ok record => ⟨record :: later.records, later.errors⟩
  | .error fault => ⟨later.records, fault.diagnostic line :: later.errors⟩

end Outcome

/-- Reads declarations; one that fails gives a diagnostic instead of a record. -/
def collect {α : Type} (read : Declaration → Except Fault α) : List Declaration → Outcome α
  | [] => .empty
  | declared :: rest => (collect read rest).add declared.line (read declared)

@[simp] theorem collect_nil {α : Type} (read : Declaration → Except Fault α) :
    collect read [] = .empty := rfl

/-- Every declaration gives one record or one error. -/
theorem length_collect {α : Type} (read : Declaration → Except Fault α)
    (declared : List Declaration) :
    (collect read declared).records.length + (collect read declared).errors.length
      = declared.length := by
  induction declared with
  | nil => rfl
  | cons first rest ih =>
    unfold collect Outcome.add
    split <;> simp <;> omega

end Notation
end Wardley
