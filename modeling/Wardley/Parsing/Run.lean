import Wardley.Notation.Comments
import Wardley.Parsing.Assembly
import Wardley.Parsing.Unify

/-!
# Parsing

A map text is freed from comments, every kind of construct is read from its lines, and
the findings are assembled and unified.  The readings may be spread over workers,
which changes nothing, and a reading that fails costs its own field only.

Main definitions:

- `parse`: the map of a text.
- `parseSource`: the map of a source, with the reasons for which there is none.
- `Task`, `run`: readings that may fail, run in order or on workers.
- `tasksWith`: the readings of a text, of which some are replaced by failing ones.

Main results:

- `run_some`: workers give what running in order gives.
- `parseWith_eq`: the map of a text does not depend on the workers.
-/

namespace Wardley

/-! ## Maps of texts -/

/-- The map of a text, whose findings always fit together. -/
def parse (switches : Switches) (text : String) : Map :=
  (Assembly.union (findings switches (Notation.cleanLines text.toList))).draft.unify

/-! ## Tasks -/

/-- The fields of a draft: those that kinds of constructs fill, and the diagnostics. -/
inductive Draft.Field where
  | content (kind : Kind)
  | errors
  deriving DecidableEq, Repr

/-- The name of a field. -/
def Draft.Field.key : Draft.Field → String
  | content kind => kind.key
  | errors => "errors"

/--
What a field holds that nothing fills.  No finding fills the diagnostics, so that their
empty list is told from no other one.
-/
def Draft.Field.empty : Draft.Field → Content
  | content kind => kind.empty
  | errors => .notes []

/-- A reading on the way to a finding: it has succeeded or failed with a message. -/
structure Task where
  /-- The field that the reading is meant to fill. -/
  field : Draft.Field
  /-- The name under which a failure is reported. -/
  name : String
  result : Except String Finding

/-- The diagnostic of a reading that fails with a message. -/
def failureDiagnostic (name cause : String) : Diagnostic := ⟨.int 0, name ++ " failed: " ++ cause⟩

/-- The finding of a task; a failed one yields the empty field and a diagnostic of line 0. -/
def Task.finding (task : Task) : Finding :=
  match task.result with
  | .ok found => found
  | .error cause => ⟨task.field.key, task.field.empty, [failureDiagnostic task.name cause]⟩

/-- The tasks of a text; some kinds are read by others that fail, of a name and with a message. -/
def tasksWith (switches : Switches) (lines : List (List Char))
    (failing : Kind → Option (String × String)) : List Task :=
  Kind.all.map fun kind =>
    match failing kind with
    | some (name, cause) => ⟨.content kind, name, .error cause⟩
    | none => ⟨.content kind, kind.key, .ok (kind.read switches lines)⟩

/-- The tasks of a text; kinds whose readings are broken fail with a message. -/
def tasks (switches : Switches) (lines : List (List Char)) (broken : List Kind)
    (cause : String) : List Task :=
  tasksWith switches lines fun kind =>
    if broken.contains kind then some ("Broken", cause) else none

/-- A number of workers that cannot do any work. -/
inductive WorkersError where
  | notPositive
  deriving DecidableEq, Repr

/-- The wording of a workers error. -/
def WorkersError.message : WorkersError → String
  | notPositive => "max_workers must be greater than 0"

/-! ## Workers -/

/--
The findings of a number of tasks from a first one on, in the order of the tasks,
out of the findings that were completed in any order.
-/
def deliver (completed : List (Nat × Finding)) (first : Nat) : Nat → List Finding
  | 0 => []
  | count + 1 =>
    match completed.lookup first with
    | some finding => finding :: deliver completed (first + 1) count
    | none => deliver completed (first + 1) count

/-- Findings are delivered in the order of their tasks, however they were completed. -/
theorem deliver_eq {completed : List (Nat × Finding)} {first : Nat} {findings : List Finding}
    (h : ∀ index, findings[index]? = completed.lookup (first + index) ∨
      findings.length ≤ index) :
    deliver completed first findings.length = findings := by
  induction findings generalizing first with
  | nil => rfl
  | cons finding rest ih =>
    have here := h 0
    simp at here
    have later : deliver completed (first + 1) rest.length = rest := by
      apply ih
      intro index
      have := h (index + 1)
      simp at this
      rwa [Nat.add_assoc, Nat.add_comm 1 index]
    simp [deliver, ← here, later]

/--
The findings of tasks, in the order of the tasks.  With workers the tasks complete in
some order, and their findings are delivered by number.
-/
def run (workers : Option Int) (tasks : List Task) : Except WorkersError (List Finding) :=
  let findings := tasks.map Task.finding
  match workers with
  | none => .ok findings
  | some count =>
    if count < 1 then .error .notPositive
    else .ok (deliver (Notation.numberFrom 0 findings) 0 findings.length)

/-- Workers give what running in order gives. -/
theorem run_some {count : Int} (tasks : List Task) (h : 1 ≤ count) :
    run (some count) tasks = run none tasks := by
  have positive : ¬ count < 1 := by omega
  have delivered := deliver_eq fun index =>
    .inl (Notation.lookup_numberFrom 0 index (tasks.map Task.finding)).symm
  simp only [List.length_map] at delivered
  simp [run, positive, delivered]

/-- A reason for which a source gives no map. -/
inductive ParseError where
  | workers (error : WorkersError)
  | assembly (error : AssemblyError)
  deriving DecidableEq, Repr

/-- The wording of a parse error. -/
def ParseError.message : ParseError → String
  | workers error => error.message
  | assembly error => error.message

/-- The map of a text, with its readings in order or on workers. -/
def parseWith (workers : Option Int) (switches : Switches) (text : String) :
    Except ParseError Map := do
  let found := run workers (tasks switches (Notation.cleanLines text.toList) [] "")
  let assembly ← (assemble (← found.mapError .workers)).mapError .assembly
  pure assembly.draft.unify

/-- The map of a source that may be absent, which counts as an empty text. -/
def parseSource (workers : Option Int) (switches : Switches) (source : Option String) :
    Except ParseError Map :=
  parseWith workers switches (source.getD "")

/-- The findings of tasks of which none is broken are those of the text. -/
theorem findings_tasks (switches : Switches) (lines : List (List Char)) (cause : String) :
    (tasks switches lines [] cause).map Task.finding = findings switches lines := by
  simp [tasks, tasksWith, findings, Task.finding]

/-- Workers or none, the map of a text is the same. -/
theorem parseWith_eq {workers : Option Int} (switches : Switches) (text : String)
    (h : ∀ count ∈ workers, 1 ≤ count) :
    parseWith workers switches text = .ok (parse switches text) := by
  have ordered : parseWith none switches text = .ok (parse switches text) := by
    rw [parseWith, run, findings_tasks]
    change ((assemble (findings switches (Notation.cleanLines text.toList))).mapError .assembly >>=
      fun assembly => pure assembly.draft.unify) = _
    rw [assemble_findings]
    rfl
  cases workers with
  | none => exact ordered
  | some count =>
    rw [← ordered]
    simp only [parseWith, run_some _ (h count rfl)]

end Wardley
