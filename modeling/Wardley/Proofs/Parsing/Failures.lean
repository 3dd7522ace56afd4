import Wardley.Proofs.Parsing.Draft
import Wardley.Proofs.Parsing.Workers

/-!
# Readings that fail

A reading that fails leaves its field empty and reports the failure on line 0; all other
readings give what they give alone.  An empty field has a content of its own type, so that
the findings of a text fit together whichever of its readings fail.

Main definitions:

- `Kind.admits`: the contents that a field may have.
- `Kind.readWith`: what a kind yields if some readings fail.
- `FailuresApart`: what failing readings cost.

Main results:

- `assemble_map_all`: findings of all kinds always fit together.
- `findings_tasksWith`: failing readings among those of a text.
- `failures_apart`: a failing reading costs its own field, and workers cost nothing.
-/

namespace Wardley

open Construct Notation

/-! ## Contents of fields -/

/-- The contents of the type of a field. -/
def Kind.admits : Kind → Content → Bool
  | .title, .title _ => true
  | .evolution, .axis _ => true
  | .presentation, .presentation _ => true
  | .notes, .notes _ => true
  | .annotations, .annotations _ => true
  | .elements, .elements _ => true
  | .pipelines, .pipelines _ => true
  | .evolved, .evolved _ => true
  | .anchors, .elements _ => true
  | .links, .links _ => true
  | .submaps, .elements _ => true
  | .urls, .urls _ => true
  | .attitudes, .attitudes _ => true
  | .accelerators, .accelerators _ => true
  | .methods, .methods _ => true
  | _, _ => false

/-- Empty content fits every kind. -/
theorem Kind.admits_empty (kind : Kind) : kind.admits kind.empty = true := by
  cases kind <;> rfl

/-- What a kind reads fits the kind. -/
theorem Kind.admits_contents (switches : Switches) (lines : List (Nat × List Char)) (kind : Kind) :
    kind.admits (kind.contents switches lines).1 = true := by
  cases kind <;> rfl

/-- An empty field is that of an empty draft. -/
theorem draft_union_nil : (Assembly.union []).draft = {} := rfl

/-! ## Findings of all kinds -/

/-- Findings of all kinds fit together, since each has a key of its own. -/
theorem assemble_map_all {read : Kind → Finding} (hkey : ∀ kind, (read kind).key = kind.key) :
    assemble (Kind.all.map read) = .ok (.union (Kind.all.map read)) := by
  have hnone : firstMisfit [] (Kind.all.map read) = none := by
    simp only [Kind.all, List.map_cons, List.map_nil, firstMisfit, hkey, Kind.ofKey?_key]
    decide
  rw [assemble, hnone]

/-! ## Failing readings of a text -/

section Texts

variable (switches : Switches) (lines : List (List Char))
  (failing : Kind → Option (String × String))

/-- What a kind yields if the readings of some kinds fail, of a name and with a message. -/
def Kind.readWith (kind : Kind) : Finding :=
  match failing kind with
  | some (name, cause) => ⟨kind.key, kind.empty, [failureDiagnostic name cause]⟩
  | none => kind.read switches lines

/-- A finding has the key of its kind, whether reading fails or not. -/
theorem key_readWith (kind : Kind) : (kind.readWith switches lines failing).key = kind.key := by
  rw [Kind.readWith]
  split <;> rfl

/-- The content of a kind is its own or, if its reading fails, empty. -/
theorem admits_readWith (kind : Kind) :
    kind.admits (kind.readWith switches lines failing).content = true := by
  rw [Kind.readWith]
  split
  · exact kind.admits_empty
  · exact kind.admits_contents switches (numbered lines)

/-- The findings of the readings of a text, of which some fail. -/
theorem findings_tasksWith :
    (tasksWith switches lines failing).map Task.finding =
      Kind.all.map (Kind.readWith switches lines failing) := by
  rw [tasksWith, List.map_map]
  refine List.map_congr_left fun kind _ => ?_
  rw [Function.comp_apply, Kind.readWith]
  cases failing kind <;> rfl

/-- What the readings of a text give together if some of them fail. -/
structure AssemblesWith (assembly : Assembly) : Prop where
  /-- The findings fit together. -/
  assemble_eq : assemble ((tasksWith switches lines failing).map Task.finding) = .ok assembly
  /-- Each field has a content of its type. -/
  admits : ∀ kind : Kind, kind.admits (assembly.content kind) = true
  /-- A failed reading leaves its field empty. -/
  content_failed : ∀ kind, (failing kind).isSome → assembly.content kind = kind.empty
  /-- The others give what they give if none fails. -/
  content_read : ∀ kind, failing kind = none →
    assembly.content kind = (kind.contents switches (numbered lines)).1
  /-- Diagnostics follow each other in the order of the readings, in the map too. -/
  errors_eq : assembly.draft.unify.errors = Kind.all.flatMap fun kind =>
    match failing kind with
    | some (name, cause) => [⟨.int 0, name ++ " failed: " ++ cause⟩]
    | none => (kind.contents switches (numbered lines)).2

/-- Findings are assembled whichever of them failed. -/
theorem assembles_with :
    AssemblesWith switches lines failing
      (.union (Kind.all.map (Kind.readWith switches lines failing))) := by
  have hkey := key_readWith switches lines failing
  refine ⟨?_, ?_, ?_, ?_, ?_⟩
  · rw [findings_tasksWith]
    exact assemble_map_all hkey
  · intro kind
    rw [content_union_map hkey]
    exact admits_readWith switches lines failing kind
  · intro kind hfailing
    rcases Option.isSome_iff_exists.1 hfailing with ⟨failure, hfailure⟩
    rw [content_union_map hkey, Kind.readWith, hfailure]
  · intro kind hnone
    rw [content_union_map hkey, Kind.readWith, hnone]
    rfl
  · change (Kind.all.map (Kind.readWith switches lines failing)).flatMap Finding.errors = _
    rw [List.flatMap_map]
    refine List.flatMap_congr fun kind _ => ?_
    rw [Kind.readWith]
    cases failing kind <;> rfl

end Texts

/-! ## Tasks of any kind -/

/-- What failing readings cost, one after the other or on workers. -/
structure FailuresApart (workers : Option Int) : Prop where
  /-- Each task gives its own finding, in the order of the tasks. -/
  run_eq : ∀ tasks : List Task, run workers tasks = .ok (tasks.map Task.finding)
  /-- A task that succeeds gives its result, whatever becomes of the others. -/
  finding_read : ∀ (task : Task) (found : Finding), task.result = .ok found →
    task.finding = found
  /-- A task that fails gives its field as it is in an empty draft, and one diagnostic. -/
  finding_failed : ∀ (task : Task) (cause : String), task.result = .error cause →
    task.finding =
      ⟨task.field.key, task.field.empty, [⟨.int 0, task.name ++ " failed: " ++ cause⟩]⟩
  empty_eq : (Assembly.union []).draft = {}
  /-- Running on workers is one way through a pool. -/
  pooled : ∀ count ∈ workers, ∀ tasks : List Task, ∃ pool : Pool,
    Pool.Reaches count.toNat (.ofTasks tasks) pool ∧ pool.IsDone ∧
      run workers tasks = .ok (deliver pool.completed 0 tasks.length)
  /-- Workers come to an end and give the findings in order, however the tasks complete. -/
  settles : ∀ count ∈ workers, ∀ (tasks : List Task) (pool : Pool),
    Pool.Reaches count.toNat (.ofTasks tasks) pool → pool.Settles count.toNat tasks
  /-- Whichever readings of a text fail, its findings fit together. -/
  assembles : ∀ (switches : Switches) (lines : List (List Char))
    (failing : Kind → Option (String × String)), ∃ assembly,
      AssemblesWith switches lines failing assembly

/-- A failing reading costs its own field, and workers cost nothing. -/
theorem failures_apart {workers : Option Int} (h : ∀ count ∈ workers, 1 ≤ count) :
    FailuresApart workers where
  run_eq tasks := by
    cases workers with
    | none => rfl
    | some count =>
        rw [run_some tasks (h count rfl)]
        rfl
  finding_read task found hresult := by rw [Task.finding, hresult]
  finding_failed task cause hresult := by
    rw [Task.finding, hresult]
    rfl
  empty_eq := draft_union_nil
  pooled count hcount tasks := by
    obtain rfl : workers = some count := hcount
    exact run_eq_deliver (h count rfl) tasks
  settles count hcount tasks pool hreaches := by
    have hworkers : 1 ≤ count.toNat := by
      have := h count hcount
      omega
    exact Pool.settles_of_reaches hworkers hreaches
  assembles switches lines failing := ⟨_, assembles_with switches lines failing⟩

/-- Two workers, one of which fails to read the notes, while the other one reads a title. -/
theorem failures_apart_two_workers :
    (∀ count ∈ some (2 : Int), 1 ≤ count) ∧ FailuresApart (some 2) ∧
      run (some 2) [⟨.content .notes, "Notes", .error "too long"⟩,
          ⟨.content .title, "Title", .ok ⟨"title", .title "Tea", []⟩⟩] =
        .ok [⟨"notes", .notes [], [⟨.int 0, "Notes failed: too long"⟩]⟩,
          ⟨"title", .title "Tea", []⟩] := by
  have htwo : ∀ count ∈ some (2 : Int), 1 ≤ count := by decide
  exact ⟨htwo, failures_apart htwo, (failures_apart htwo).run_eq _⟩

end Wardley
