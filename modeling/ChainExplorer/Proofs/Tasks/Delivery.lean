import ChainExplorer.Proofs.Inevitable
import ChainExplorer.Proofs.Tasks.Accounting

/-!
# What a fan-out gives back

Whoever fans out a list of inputs is given what a plain map over the list would give, in some order:
each input has its result or its error, and nothing is dropped. It makes no difference how many
workers there are, how many tasks may wait, or how long each task takes; the last is left open here
by letting any running task be the next to end.

Nothing gets stuck on the way: as long as something is left to do, either a task runs or the
submitter or a worker can go on, however small the queue (`Underway.goes_on`). The invariant is the
account of the round; beside it stands how many inputs have been submitted.
-/

namespace ChainExplorer

namespace FanOut

variable {ι ε α : Type} {process : ι → Except ε α} {inputs : List ι}
  {f g : FanOut ι (Except ε α)} {e : Event (Except ε α)}

/-! ## Runs in which every task ends -/

/-- A fan-out goes on: nothing is cancelled, no task takes its worker down, and a task that ends has
what `process` makes of its input. -/
def Step (process : ι → Except ε α) (f g : FanOut ι (Except ε α)) : Prop :=
  ∃ e, Faithful process f e ∧ f.step? e = some g

/-- So many steps lead from one state to another. -/
inductive Steps (process : ι → Except ε α) (f : FanOut ι (Except ε α)) :
    Nat → FanOut ι (Except ε α) → Prop
  | start : Steps process f 0 f
  | step {n : Nat} {g h : FanOut ι (Except ε α)} :
      Steps process f n g → Step process g h → Steps process f (n + 1) h

/-- What a map over the inputs gives, in any order. -/
structure Delivered (process : ι → Except ε α) (inputs : List ι) (c : Collected ε α) : Prop where
  results : c.results.Perm (inputs.filterMap fun i => (process i).toOption)
  errors : c.errors.Perm (inputs.filterMap fun i => errorOf? (process i))
  dropped : c.dropped = 0

theorem Faithful.isCalm (h : Faithful process f e) : e.isCalm = true := by
  cases e with
  | crash | cancel | quit => exact h.elim
  | _ => rfl

/-- Each input is either still to come or has been submitted. -/
theorem submitted_add_length (he : e.isCalm = true) (hs : f.step? e = some g)
    (hw : f.tasks.Whole) :
    g.tasks.submitted + g.inputs.length = f.tasks.submitted + f.inputs.length := by
  cases happens hs with
  | @next input rest hi hc hb =>
    have hsubmitted : (f.tasks.submit input).submitted = f.tasks.submitted + 1 := by
      rw [hw.submit_eq]
      split <;> rfl
    simp only [hsubmitted, hi, List.length_cons]
    omega
  | last hi hc hb => rw [hi]
  | enter | start | finish => rfl
  | crash | cancel | quit => cases he

/-- The invariant: the account of the round, with nothing in it but what `process` makes of the
inputs. -/
structure Underway (process : ι → Except ε α) (inputs : List ι) (f : FanOut ι (Except ε α))
    (log : List (ι × Except ε α)) : Prop where
  logged : Logged inputs f log
  answered : ∀ entry ∈ log, entry.2 = process entry.1
  submitted : f.tasks.submitted + f.inputs.length = inputs.length

section Underway

variable {log : List (ι × Except ε α)}

theorem Underway.ofInputs (process : ι → Except ε α) (inputs : List ι) (workers capacity : Nat) :
    Underway process inputs (ofInputs inputs workers capacity) [] where
  logged := .ofInputs inputs workers capacity
  answered := List.forall_mem_nil _
  submitted := Nat.zero_add _

/-- **Every step keeps the invariant, and there is less to come after it.** -/
theorem Underway.step (h : Underway process inputs f log) (hs : Step process f g) :
    (∃ log, Underway process inputs g log) ∧ g.weight < f.weight := by
  obtain ⟨e, he, hstep⟩ := hs
  refine ⟨⟨_, h.logged.event he.isCalm hstep, ?_, ?_⟩, h.logged.weight_lt he.isCalm hstep⟩
  · exact List.forall_mem_append.2 ⟨h.answered, he.endedBy⟩
  · rw [submitted_add_length he.isCalm hstep h.logged.whole, h.submitted]

/-- A running task can end at any time. -/
theorem Underway.finish (h : Underway process inputs f log) {task : TaskItem ι}
    (ht : task ∈ f.tasks.running) :
    ∃ g, f.step? (.finish task.number (process task.input)) = some g ∧ Step process f g := by
  obtain ⟨g, hg⟩ := h.logged.exists_finish ht (process task.input)
  exact ⟨g, hg, _, h.logged.faithful_finish ht, hg⟩

/-- Where nothing runs and something is left to do, the submitter or a worker goes on. -/
theorem Underway.goes_on (h : Underway process inputs f log) (hr : f.tasks.running = [])
    (hd : f.isDone = false) : ∃ e g, e ∈ [.next, .enter, .start] ∧ f.step? e = some g := by
  rcases h.logged.progress hd with hstep | ⟨task, ht, -⟩
  · exact hstep
  · rw [hr] at ht
    cases ht

theorem Underway.step_of_not_done (h : Underway process inputs f log) (hd : f.isDone = false) :
    ∃ g, Step process f g := by
  cases hr : f.tasks.running with
  | cons task rest =>
    have ht : task ∈ f.tasks.running := hr ▸ List.mem_cons_self
    obtain ⟨g, -, hg⟩ := h.finish ht
    exact ⟨g, hg⟩
  | nil =>
    obtain ⟨e, g, he, hg⟩ := h.goes_on hr hd
    refine ⟨g, e, ?_, hg⟩
    simp only [List.mem_cons, List.not_mem_nil, or_false] at he
    rcases he with rfl | rfl | rfl <;> trivial

/-- **When everything has ended, the outcomes are those of a map.** -/
theorem Underway.delivered (h : Underway process inputs f log) (hd : f.isDone = true) :
    Delivered process inputs f.tasks.collect := by
  have hall : f.tasks.outcomes.Perm (inputs.map process) := by
    rw [h.logged.outcomes, List.map_congr_left h.answered]
    have hinputs := (h.logged.perm_of_isDone hd).map process
    rwa [List.map_map] at hinputs
  have hresults := hall.filterMap Except.toOption
  have herrors := hall.filterMap errorOf?
  rw [List.filterMap_map] at hresults herrors
  refine ⟨hresults, herrors, ?_⟩
  have hlength := hall.length_eq
  have hsubmitted := h.submitted
  rw [List.length_map] at hlength
  rw [Tasks.collect_dropped, Tasks.dropped]
  omega

/-- The number of steps is bounded by what is left to happen at first. -/
theorem Underway.steps (h : Underway process inputs f log) {n : Nat} (hs : Steps process f n g) :
    (∃ log, Underway process inputs g log) ∧ n + g.weight ≤ f.weight := by
  induction hs with
  | start => exact ⟨⟨log, h⟩, Nat.le_of_eq (Nat.zero_add _)⟩
  | step _ hstep ih =>
    obtain ⟨⟨_, hbefore⟩, hbound⟩ := ih
    obtain ⟨hafter, hless⟩ := hbefore.step hstep
    exact ⟨hafter, by omega⟩

/-- Whatever steps are taken, the fan-out comes to its end. -/
theorem Underway.delivered_inevitable (h : Underway process inputs f log) :
    Inevitable (Step process)
      (fun f => f.isDone = true ∧ Delivered process inputs f.tasks.collect) f := by
  refine Inevitable.of_rank (I := fun f => ∃ log, Underway process inputs f log)
    Nat.lt_wfRel.wf weight ?_ ?_ ⟨log, h⟩
  · rintro f ⟨log, h⟩
    cases hd : f.isDone with
    | true => exact .inl ⟨rfl, h.delivered hd⟩
    | false => exact .inr (h.step_of_not_done hd)
  · rintro f g ⟨log, h⟩ hs
    exact h.step hs

end Underway

end FanOut
end ChainExplorer
