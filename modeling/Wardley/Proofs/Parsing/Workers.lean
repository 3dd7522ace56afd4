import Mathlib.Data.List.Nodup
import Mathlib.Data.List.Range
import Mathlib.Logic.Relation
import Wardley.Parsing.Run

/-!
# Workers

A pool starts tasks in their order, as many at a time as it has workers, and running tasks
complete in any order.  Each task is waiting, running or completed all the while, so that in
the end every pool has the same findings, and hands them over in the order of the tasks.

Main definitions:

- `Pool`, `Pool.Step`: tasks on their way through workers.
- `Pool.Holds`: no task is lost or run twice, and no worker runs two tasks.
- `Pool.Settles`: what becomes of a pool.

Main results:

- `Pool.Holds.step`, `Pool.holds_of_reaches`: steps and runs keep the tasks.
- `Pool.exists_reaches_done`: every pool comes to an end.
- `Pool.settles_of_reaches`: whatever a pool does, it gives the findings in order.
- `run_eq_deliver`: running tasks on workers is one way through a pool.
-/

namespace Wardley

open Notation

/-! ## Numbers -/

/-- Among distinct numbers, a number has the entry that stands with it. -/
theorem lookup_eq_of_mem {α : Type} {entries : List (Nat × α)}
    (hnodup : (entries.map Prod.fst).Nodup) {number : Nat} {entry : α}
    (h : (number, entry) ∈ entries) : entries.lookup number = some entry := by
  induction entries with
  | nil => cases h
  | cons head rest ih =>
      rw [List.map_cons, List.nodup_cons] at hnodup
      rcases List.mem_cons.1 h with rfl | hmem
      · rw [List.lookup_cons_self]
      · have hne : (number == head.1) = false := by
          rw [beq_eq_false_iff_ne]
          rintro rfl
          exact hnodup.1 (List.mem_map.2 ⟨_, hmem, rfl⟩)
        rw [List.lookup_cons, hne]
        exact ih hnodup.2 hmem

/-- Numbered findings are delivered in the order of their numbers, however they are listed. -/
theorem deliver_perm {completed : List (Nat × Finding)} {findings : List Finding}
    (h : completed.Perm (numberFrom 0 findings)) :
    deliver completed 0 findings.length = findings := by
  have hnodup : (completed.map Prod.fst).Nodup := by
    rw [(h.map Prod.fst).nodup_iff, map_fst_numberFrom]
    exact List.nodup_range'
  apply deliver_eq
  intro index
  rcases Nat.lt_or_ge index findings.length with hlt | hge
  · left
    have hlookup := lookup_numberFrom 0 index findings
    rw [List.getElem?_eq_getElem hlt] at hlookup ⊢
    rcases List.lookup_eq_some_iff.1 hlookup with ⟨before, after, hsplit, -⟩
    have hmem : (0 + index, findings[index]) ∈ numberFrom 0 findings := by
      rw [hsplit]
      exact List.mem_append_right _ List.mem_cons_self
    rw [lookup_eq_of_mem hnodup (h.mem_iff.2 hmem)]
  · exact .inr hge

/-! ## Pools -/

/-- Numbered tasks on their way through workers. -/
structure Pool where
  waiting : List (Nat × Task)
  running : List (Nat × Task)
  /-- The findings of completed tasks, in the order of their completion. -/
  completed : List (Nat × Finding)

namespace Pool

/-- The finding that a numbered task leaves. -/
def leaves (entry : Nat × Task) : Nat × Finding := (entry.1, entry.2.finding)

/-- The pool in which all tasks are waiting. -/
def ofTasks (tasks : List Task) : Pool := ⟨numberFrom 0 tasks, [], []⟩

/-- A free worker starts the next task, or any of the running tasks completes. -/
inductive Step (workers : Nat) : Pool → Pool → Prop where
  | start {entry : Nat × Task} {waiting running : List (Nat × Task)}
      {completed : List (Nat × Finding)} (hfree : running.length < workers) :
      Step workers ⟨entry :: waiting, running, completed⟩
        ⟨waiting, running ++ [entry], completed⟩
  | complete {entry : Nat × Task} {waiting before after : List (Nat × Task)}
      {completed : List (Nat × Finding)} :
      Step workers ⟨waiting, before ++ entry :: after, completed⟩
        ⟨waiting, before ++ after, completed ++ [leaves entry]⟩

/-- Any number of steps. -/
def Reaches (workers : Nat) : Pool → Pool → Prop := Relation.ReflTransGen (Step workers)

/-- All tasks are completed. -/
def IsDone (pool : Pool) : Prop := pool.waiting = [] ∧ pool.running = []

/-- The steps that are left. -/
def stepsLeft (pool : Pool) : Nat := 2 * pool.waiting.length + pool.running.length

/-! ## Tasks in a pool -/

/-- Each task is waiting, running or completed, and no worker runs two tasks. -/
structure Holds (workers : Nat) (tasks : List Task) (pool : Pool) : Prop where
  perm : (pool.completed ++ (pool.running ++ pool.waiting).map leaves).Perm
    (numberFrom 0 (tasks.map Task.finding))
  running_le : pool.running.length ≤ workers

variable {workers : Nat} {tasks : List Task} {pool next : Pool}

theorem holds_ofTasks (workers : Nat) (tasks : List Task) :
    Holds workers tasks (ofTasks tasks) where
  perm := by
    rw [ofTasks, List.nil_append, List.nil_append]
    exact .of_eq (numberFrom_map 0 Task.finding tasks).symm
  running_le := Nat.zero_le _

/-- A step loses no task and runs none twice. -/
theorem Holds.step (h : Holds workers tasks pool) (hstep : Step workers pool next) :
    Holds workers tasks next := by
  cases hstep with
  | start hfree =>
      refine ⟨?_, ?_⟩
      · simpa using h.perm
      · rw [List.length_append, List.length_singleton]
        exact hfree
  | @complete entry waiting before after completed =>
      refine ⟨?_, ?_⟩
      · have hmiddle : ((before ++ entry :: after) ++ waiting).Perm
            (entry :: (before ++ after ++ waiting)) := by
          rw [List.append_assoc, List.append_assoc, List.cons_append]
          exact List.perm_middle
        have hmoved := ((hmiddle.map leaves).append_left completed).symm.trans h.perm
        rwa [List.map_cons, List.append_cons] at hmoved
      · have := h.running_le
        rw [List.length_append, List.length_cons] at this
        rw [List.length_append]
        omega

/-- Whatever a pool does, it holds its tasks. -/
theorem holds_of_reaches (h : Reaches workers (ofTasks tasks) pool) : Holds workers tasks pool := by
  induction h with
  | refl => exact holds_ofTasks workers tasks
  | tail _ hstep ih => exact ih.step hstep

/-! ## The end of a pool -/

/-- A pool with a worker has something to do until all tasks are completed. -/
theorem exists_step (hworkers : 1 ≤ workers) (hbusy : ¬ pool.IsDone) :
    ∃ next, Step workers pool next := by
  rcases pool with ⟨waiting, running, completed⟩
  cases running with
  | cons entry rest =>
      have hcomplete : Step workers ⟨waiting, [] ++ entry :: rest, completed⟩ _ := .complete
      exact ⟨_, hcomplete⟩
  | nil =>
      cases waiting with
      | cons entry rest => exact ⟨_, .start hworkers⟩
      | nil => exact absurd ⟨rfl, rfl⟩ hbusy

/-- Each step leaves fewer steps. -/
theorem Step.stepsLeft_lt (h : Step workers pool next) : next.stepsLeft < pool.stepsLeft := by
  cases h with
  | start hfree =>
      simp only [stepsLeft, List.length_cons, List.length_append, List.length_nil]
      omega
  | complete =>
      simp only [stepsLeft, List.length_cons, List.length_append]
      omega

/-- Every pool with a worker comes to an end. -/
theorem exists_reaches_done (hworkers : 1 ≤ workers) (pool : Pool) :
    ∃ done, Reaches workers pool done ∧ done.IsDone := by
  by_cases hdone : pool.IsDone
  · exact ⟨pool, .refl, hdone⟩
  · rcases exists_step hworkers hdone with ⟨next, hstep⟩
    have hlt := hstep.stepsLeft_lt
    rcases exists_reaches_done hworkers next with ⟨done, hreaches, hend⟩
    exact ⟨done, .head hstep hreaches, hend⟩
termination_by pool.stepsLeft

/-- At its end a pool has the findings of all tasks and delivers them in order. -/
theorem Holds.deliver_eq (h : Holds workers tasks pool) (hdone : pool.IsDone) :
    deliver pool.completed 0 tasks.length = tasks.map Task.finding := by
  have hperm := h.perm
  rw [hdone.1, hdone.2, List.append_nil, List.map_nil, List.append_nil] at hperm
  rw [← List.length_map Task.finding]
  exact deliver_perm hperm

/-- What becomes of a pool of tasks. -/
structure Settles (workers : Nat) (tasks : List Task) (pool : Pool) : Prop where
  /-- No worker runs two tasks. -/
  running_le : pool.running.length ≤ workers
  /-- There is something to do until all tasks are completed. -/
  exists_step : ¬ pool.IsDone → ∃ next, Step workers pool next
  /-- Whatever is done, it is done after finitely many steps. -/
  stepsLeft_lt : ∀ next, Step workers pool next → next.stepsLeft < pool.stepsLeft
  ends : ∃ done, Reaches workers pool done ∧ done.IsDone
  /-- In whatever order the tasks completed, their findings are delivered in the order of the
  tasks. -/
  deliver_eq : pool.IsDone → deliver pool.completed 0 tasks.length = tasks.map Task.finding

/-- Whatever a pool does, it gives the findings of its tasks in order. -/
theorem settles_of_reaches (hworkers : 1 ≤ workers)
    (h : Reaches workers (ofTasks tasks) pool) : Settles workers tasks pool where
  running_le := (holds_of_reaches h).running_le
  exists_step := Pool.exists_step hworkers
  stepsLeft_lt := fun _ hstep => hstep.stepsLeft_lt
  ends := exists_reaches_done hworkers pool
  deliver_eq := (holds_of_reaches h).deliver_eq

/-! ## One task after the other -/

/-- A worker may complete each task before the next one is started. -/
theorem reaches_in_order (hworkers : 1 ≤ workers) (first : Nat) (tasks : List Task)
    (completed : List (Nat × Finding)) :
    Reaches workers ⟨numberFrom first tasks, [], completed⟩
      ⟨[], [], completed ++ numberFrom first (tasks.map Task.finding)⟩ := by
  induction tasks generalizing first completed with
  | nil =>
      rw [List.map_nil, numberFrom_nil, numberFrom_nil, List.append_nil]
      exact .refl
  | cons task rest ih =>
      have hstart : Step workers ⟨numberFrom first (task :: rest), [], completed⟩
          ⟨numberFrom (first + 1) rest, [(first, task)], completed⟩ := .start hworkers
      have hcomplete : Step workers ⟨numberFrom (first + 1) rest, [] ++ [(first, task)], completed⟩
          ⟨numberFrom (first + 1) rest, [], completed ++ [(first, task.finding)]⟩ := .complete
      have hrest := ih (first + 1) (completed ++ [(first, task.finding)])
      rw [List.append_assoc, List.singleton_append] at hrest
      exact .head hstart (.head hcomplete hrest)

end Pool

/-- Running tasks on workers is one way through a pool, and the others give the same. -/
theorem run_eq_deliver {count : Int} (hcount : 1 ≤ count) (tasks : List Task) :
    ∃ pool : Pool, Pool.Reaches count.toNat (.ofTasks tasks) pool ∧ pool.IsDone ∧
      run (some count) tasks = .ok (deliver pool.completed 0 tasks.length) := by
  have hworkers : 1 ≤ count.toNat := by omega
  refine ⟨_, Pool.reaches_in_order hworkers 0 tasks [], ⟨rfl, rfl⟩, ?_⟩
  rw [run, if_neg (by omega), List.length_map, List.nil_append]

end Wardley
