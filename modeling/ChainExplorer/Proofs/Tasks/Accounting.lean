import ChainExplorer.Proofs.Tasks.Cancellation
import ChainExplorer.Proofs.Trace

/-!
# What becomes of every task

A submission gets a number, and from then on the number is in one place: the task waits, or it runs,
or it has ended with an outcome, or it has taken its worker down, or it was dropped. The first two
are read off the state, the others off the run. The invariant says that these lists together are a
rearrangement of all numbers (`Accounted`), so nothing starts or ends twice.

What was dropped is kept apart by when it was: before it started (`lost`), or while it ran
(`halted`). Only a cancellation halts a task, and none that waits is lost while a worker is left and
nothing is cancelled. So a task that goes down with its worker is the only one that is lost by that.

An event is one uninterrupted step. A task that cancels everything in its own last step has ended by
the time the cancellation shows.
-/

namespace ChainExplorer
namespace Tasks

variable {ι ρ : Type}

/-! ## Runs with their moments -/

def turn? (t : Tasks ι ρ) (e : Event ι ρ) : Option (Tasks ι ρ × Unit) := (t.step? e).map (·, ())

/-- What has happened to some workers and their queue, in its order. -/
abbrev Moments (ι ρ : Type) := List (Moment (Tasks ι ρ) (Event ι ρ) Unit)

/-- A run with its moments. -/
abbrev Traced (t : Tasks ι ρ) (ms : Moments ι ρ) (u : Tasks ι ρ) : Prop :=
  Trace turn? (fun _ _ => False) t ms u

theorem happens_turn {t u : Tasks ι ρ} {e : Event ι ρ} {o : Unit}
    (hs : t.turn? e = some (u, o)) : Happens t e u := by
  obtain ⟨next, hstep, heq⟩ := Option.map_eq_some_iff.1 hs
  cases heq
  exact happens hstep

/-! ## What a run has done -/

/-- What has been done so far: tasks submitted, started, ended with an outcome, and gone down with
their worker, each in the order in which it happened. -/
structure Deeds (ρ : Type) where
  submits : Nat := 0
  starts : List Nat := []
  ends : List (Nat × ρ) := []
  crashes : List Nat := []

/-- The deeds after one more event. -/
def Deeds.add (d : Deeds ρ) (t : Tasks ι ρ) : Event ι ρ → Deeds ρ
  | .submit _ => { d with submits := d.submits + 1 }
  | .start => { d with starts := d.starts ++ t.queue.head?.toList.map (·.number) }
  | .finish number outcome => { d with ends := d.ends ++ [(number, outcome)] }
  | .crash number => { d with crashes := d.crashes ++ [number] }
  | .enter | .cancel | .quit _ | .close => d

/-- The deeds of a run. -/
def deeds (ms : Moments ι ρ) : Deeds ρ :=
  ms.foldl (fun d m => d.add m.before m.event) {}

theorem deeds_concat (ms : Moments ι ρ) (m : Moment (Tasks ι ρ) (Event ι ρ) Unit) :
    deeds (ms ++ [m]) = (deeds ms).add m.before m.event := List.foldl_concat _ _ _ _

/-- The numbers of the tasks that have not started. -/
def waiting (t : Tasks ι ρ) : List Nat := (t.blocked.toList ++ t.queue).map (·.number)

/-- The numbers of the tasks that run. -/
def atWork (t : Tasks ι ρ) : List Nat := t.running.map (·.number)

/-! ## The account -/

/-- Every number that was given out is in one place. -/
structure Accounted (d : Deeds ρ) (t : Tasks ι ρ) (lost halted : List Nat) : Prop where
  submitted : t.submitted = d.submits
  outcomes : t.outcomes = d.ends.map (·.2)
  entered : t.closed = true → t.blocked = none
  issued : (t.waiting ++ d.starts ++ lost).Perm (List.range t.submitted)
  begun : (t.atWork ++ d.ends.map (·.1) ++ d.crashes ++ halted).Perm d.starts
  unlost : t.cancelled = false → t.live ≠ 0 → lost = []
  unhalted : t.cancelled = false → halted = []

theorem Accounted.fresh (workers capacity : Nat) :
    Accounted {} (fresh workers capacity : Tasks ι ρ) [] [] where
  submitted := rfl
  outcomes := rfl
  entered := nofun
  issued := .refl _
  begun := .refl _
  unlost _ _ := rfl
  unhalted _ := rfl

section Events

variable {d : Deeds ρ} {t u : Tasks ι ρ} {lost halted : List Nat}

theorem Accounted.submit {input : ι} (h : Accounted d t lost halted) (hc : t.closed = false)
    (hb : t.blocked = none) :
    ∃ lost, Accounted { d with submits := d.submits + 1 } (t.submit input) lost halted := by
  have hsubmitted : t.submitted + 1 = d.submits + 1 := congrArg (· + 1) h.submitted
  have hopen {b : Option (TaskItem ι)} (hclosed : t.closed = true) : b = none := by
    rw [hc] at hclosed
    cases hclosed
  -- Wherever the number goes, it comes on top of the others.
  have hissued {waiting lost' : List Nat}
      (hp : (waiting ++ d.starts ++ lost').Perm (t.waiting ++ d.starts ++ lost ++ [t.submitted])) :
      (waiting ++ d.starts ++ lost').Perm (List.range (t.submitted + 1)) := by
    rw [List.range_succ]
    exact hp.trans (h.issued.append_right _)
  have hnew := submitted_submit t input
  generalize t.submit input = u at hnew
  cases hnew with
  | dropped stopped =>
    refine ⟨lost ++ [t.submitted], hsubmitted, h.outcomes, hopen, hissued ?_, h.begun,
      fun hcancelled hlive => absurd (stopped hcancelled) hlive, h.unhalted⟩
    exact .of_eq (List.append_assoc _ _ _).symm
  | queued up room =>
    refine ⟨lost, hsubmitted, h.outcomes, hopen, hissued ?_, h.begun, h.unlost, h.unhalted⟩
    refine List.perm_iff_count.2 fun n => ?_
    simp only [waiting, List.map_append, List.count_append, List.map_cons, List.map_nil]
    omega
  | blocked up full =>
    refine ⟨lost, hsubmitted, h.outcomes, hopen, hissued ?_, h.begun, h.unlost, h.unhalted⟩
    refine List.perm_iff_count.2 fun n => ?_
    simp only [waiting, hb, Option.toList_none, Option.toList_some, List.map_append,
      List.count_append, List.map_cons, List.map_nil, List.count_nil]
    omega

/-- A task that enters the queue waits as before. -/
theorem Accounted.enter {task : TaskItem ι} (h : Accounted d t lost halted)
    (hb : t.blocked = some task) :
    Accounted d { t with blocked := none, queue := t.queue ++ [task] } lost halted := by
  refine ⟨h.submitted, h.outcomes, fun _ => rfl, ?_, h.begun, h.unlost, h.unhalted⟩
  refine List.Perm.trans (List.Perm.append_right _ (List.Perm.append_right _ ?_)) h.issued
  simp only [waiting, hb, Option.toList_none, Option.toList_some, List.nil_append]
  exact (List.perm_append_comm).map _

theorem Accounted.start {task : TaskItem ι} {rest : List (TaskItem ι)}
    (h : Accounted d t lost halted) (hq : t.queue = task :: rest) (hi : t.idle ≠ 0) :
    Accounted { d with starts := d.starts ++ [task.number] }
      { t with
        idle := t.idle - 1, queue := rest
        running := t.running ++ [task], started := t.started + 1 } lost halted := by
  -- The number moves from those that wait to those that run; the lists are compared by counting it.
  refine ⟨h.submitted, h.outcomes, h.entered, ?_, ?_, fun hc hl => h.unlost hc ?_, h.unhalted⟩
  · refine List.Perm.trans (List.perm_iff_count.2 fun n => ?_) h.issued
    simp only [waiting, hq, List.map_append, List.map_cons, List.count_append, List.count_cons,
      List.count_nil]
    omega
  · refine List.Perm.trans (List.perm_iff_count.2 fun n => ?_) (h.begun.append_right [task.number])
    simp only [atWork, List.map_append, List.map_cons, List.map_nil, List.count_append]
    omega
  · simp only [live] at hl ⊢
    omega

section Leaving

variable {f : TaskItem ι → Bool} {task : TaskItem ι} {rest : List (TaskItem ι)}

theorem atWork_of_extract? (hx : extract? f t.running = some (task, rest)) :
    t.atWork.Perm (task.number :: rest.map (·.number)) := (perm_of_extract? hx).map _

theorem Accounted.finish {outcome : ρ} (h : Accounted d t lost halted)
    (hx : extract? f t.running = some (task, rest)) :
    Accounted { d with ends := d.ends ++ [(task.number, outcome)] }
      { t with idle := t.idle + 1, running := rest, outcomes := t.outcomes ++ [outcome] }
      lost halted := by
  refine ⟨h.submitted, ?_, h.entered, h.issued, ?_, fun hc hl => h.unlost hc ?_, h.unhalted⟩
  · rw [List.map_append, ← h.outcomes]
    rfl
  · refine List.Perm.trans (List.perm_iff_count.2 fun n => ?_) h.begun
    have hn := (atWork_of_extract? hx).count_eq n
    simp only [atWork, List.map_append, List.map_cons, List.map_nil, List.count_append,
      List.count_cons, List.count_nil] at hn ⊢
    omega
  · have hlength := length_of_extract? hx
    simp only [live] at hl ⊢
    omega

/-- A task that takes its worker down is lost by that. -/
theorem Accounted.crash (h : Accounted d t lost halted)
    (hx : extract? f t.running = some (task, rest)) :
    Accounted { d with crashes := d.crashes ++ [task.number] } { t with running := rest }
      lost halted := by
  refine ⟨h.submitted, h.outcomes, h.entered, h.issued, ?_, fun hc hl => h.unlost hc ?_, h.unhalted⟩
  · refine List.Perm.trans (List.perm_iff_count.2 fun n => ?_) h.begun
    have hn := (atWork_of_extract? hx).count_eq n
    simp only [atWork, List.count_append, List.count_cons, List.count_nil] at hn ⊢
    omega
  · have hlength := length_of_extract? hx
    simp only [live] at hl ⊢
    omega

/-- A task that is given up is one of those that were halted. -/
theorem Accounted.halt (h : Accounted d t lost halted) (hu : t.cancelled = true)
    (hx : extract? f t.running = some (task, rest)) :
    Accounted d { t with running := rest } lost (task.number :: halted) := by
  refine ⟨h.submitted, h.outcomes, h.entered, h.issued, ?_, fun hc => ?_, fun hc => ?_⟩
  · refine List.Perm.trans (List.perm_iff_count.2 fun n => ?_) h.begun
    have hn := (atWork_of_extract? hx).count_eq n
    simp only [atWork, List.count_append, List.count_cons] at hn ⊢
    omega
  · exact absurd hu (Bool.eq_false_iff.1 hc)
  · exact absurd hu (Bool.eq_false_iff.1 hc)

end Leaving

/-- A submission that is given up is lost. -/
theorem Accounted.withdraw {task : TaskItem ι} (h : Accounted d t lost halted)
    (hu : t.cancelled = true) (hb : t.blocked = some task) :
    Accounted d { t with blocked := none } (task.number :: lost) halted := by
  refine ⟨h.submitted, h.outcomes, fun _ => rfl, ?_, h.begun, fun hc => ?_, h.unhalted⟩
  · refine List.Perm.trans (List.perm_iff_count.2 fun n => ?_) h.issued
    simp only [waiting, hb, Option.toList_none, Option.toList_some, List.nil_append,
      List.map_append, List.map_cons, List.map_nil, List.count_append, List.count_cons,
      List.count_nil]
    omega
  · exact absurd hu (Bool.eq_false_iff.1 hc)

/-- With the last worker goes all that waits, and it counts as lost. -/
theorem Accounted.lessened (h : Accounted d t lost halted) :
    ∃ lost, Accounted d t.lessened lost halted := by
  rw [Tasks.lessened]
  split
  · rename_i hlast
    refine ⟨t.waiting ++ lost, h.submitted, h.outcomes, fun _ => rfl, ?_, h.begun,
      fun _ hl => absurd hlast hl, h.unhalted⟩
    refine List.Perm.trans (List.perm_iff_count.2 fun n => ?_) h.issued
    simp only [waiting, forget, Option.toList_none, List.nil_append, List.map_nil,
      List.count_append]
    omega
  · exact ⟨lost, h⟩

/-- **Every event keeps the account.** -/
theorem Accounted.event {e : Event ι ρ} (h : Accounted d t lost halted) (he : Happens t e u) :
    ∃ lost halted, Accounted (d.add t e) u lost halted := by
  cases he with
  | submit hc hb =>
    obtain ⟨more, hmore⟩ := h.submit hc hb
    exact ⟨more, _, hmore⟩
  | enter hu hb hr => exact ⟨_, _, h.enter hb⟩
  | start hu hq hi =>
    rw [Deeds.add, hq]
    exact ⟨_, _, h.start hq hi⟩
  | finish hu hx => exact ⟨_, _, h.finish hx⟩
  | crash hu hx =>
    obtain ⟨more, hmore⟩ := (h.crash hx).lessened
    exact ⟨more, _, hmore⟩
  | cancel =>
    exact ⟨_, _, h.submitted, h.outcomes, h.entered, h.issued, h.begun, nofun, nofun⟩
  | withdraw hu hb => exact ⟨_, _, h.withdraw hu hb⟩
  | leave hu hi =>
    have hleft : Accounted d { t with idle := t.idle - 1 } lost halted :=
      ⟨h.submitted, h.outcomes, h.entered, h.issued, h.begun,
        fun hc => absurd hu (Bool.eq_false_iff.1 hc), h.unhalted⟩
    obtain ⟨more, hmore⟩ := hleft.lessened
    exact ⟨more, _, hmore⟩
  | halt hu hx =>
    obtain ⟨more, hmore⟩ := (h.halt hu hx).lessened
    exact ⟨more, _, hmore⟩
  | close hb =>
    exact ⟨_, _, h.submitted, h.outcomes, fun _ => hb, h.issued, h.begun, h.unlost, h.unhalted⟩

end Events

theorem accounted_of_traced {workers capacity : Nat} {ms : Moments ι ρ} {t : Tasks ι ρ}
    (run : Traced (fresh workers capacity) ms t) :
    ∃ lost halted, Accounted (deeds ms) t lost halted := by
  refine run.keeps (I := fun ms t => ∃ lost halted, Accounted (deeds ms) t lost halted) ?_ ?_ ?_
  · exact ⟨[], [], .fresh workers capacity⟩
  · rintro ms m ⟨lost, halted, h⟩ hs
    rw [deeds_concat]
    exact h.event (happens_turn hs)
  · exact fun _ hd => hd.elim

/-! ## Bounds -/

/-- No more workers, and no more tasks in the queue, than there may be. -/
structure Within (workers room : Nat) (t : Tasks ι ρ) : Prop where
  live : t.live ≤ workers
  capacity : t.capacity = room
  queue : t.queue.length ≤ room

theorem Within.lessened {workers room : Nat} {t : Tasks ι ρ} (h : Within workers room t) :
    Within workers room t.lessened := by
  rw [Tasks.lessened]
  split
  · exact ⟨h.live, h.capacity, Nat.zero_le _⟩
  · exact h

theorem Within.event {workers room : Nat} {t u : Tasks ι ρ} {e : Event ι ρ}
    (h : Within workers room t) (he : Happens t e u) : Within workers room u := by
  have hlive := h.live
  have hcapacity := h.capacity
  cases he with
  | @submit input =>
    have hnew := submitted_submit t input
    generalize t.submit input = u at hnew
    cases hnew with
    | dropped | blocked => exact ⟨h.live, h.capacity, h.queue⟩
    | queued up room =>
      refine ⟨h.live, h.capacity, ?_⟩
      rw [List.length_append, List.length_singleton]
      omega
  | enter hu hb hr =>
    refine ⟨h.live, h.capacity, ?_⟩
    rw [List.length_append, List.length_singleton]
    omega
  | start hu hq hi =>
    have hqueue := h.queue
    rw [hq, List.length_cons] at hqueue
    refine ⟨?_, h.capacity, Nat.le_of_succ_le hqueue⟩
    simp only [Tasks.live, List.length_append, List.length_singleton] at hlive ⊢
    omega
  | finish hu hx =>
    have hlength := length_of_extract? hx
    refine ⟨?_, h.capacity, h.queue⟩
    simp only [Tasks.live] at hlive ⊢
    omega
  | crash hu hx | halt hu hx =>
    have hlength := length_of_extract? hx
    refine Within.lessened ⟨?_, h.capacity, h.queue⟩
    simp only [Tasks.live] at hlive ⊢
    omega
  | leave =>
    refine Within.lessened ⟨?_, h.capacity, h.queue⟩
    simp only [Tasks.live] at hlive ⊢
    omega
  | cancel | withdraw | close => exact ⟨h.live, h.capacity, h.queue⟩

theorem within_of_traced {workers capacity : Nat} {ms : Moments ι ρ} {t : Tasks ι ρ}
    (run : Traced (fresh workers capacity) ms t) :
    Within (max workers 1) (max capacity 1) t := by
  refine run.keeps (I := fun _ t => Within (max workers 1) (max capacity 1) t) ?_ ?_ ?_
  · exact ⟨Nat.le_refl _, rfl, Nat.zero_le _⟩
  · exact fun h hs => h.event (happens_turn hs)
  · exact fun _ hd => hd.elim

/-! ## After a cancellation -/

/-- From a cancellation on nothing is worked on. -/
theorem idle_of_cancelled {t u : Tasks ι ρ} {ms : Moments ι ρ} (hu : t.cancelled = true)
    (run : Traced t ms u) :
    u.cancelled = true ∧ u.running.Sublist t.running ∧ u.outcomes = t.outcomes ∧
      ∀ m ∈ ms, m.event.isWork = false := by
  refine run.keeps (I := fun ms u => u.cancelled = true ∧ u.running.Sublist t.running ∧
    u.outcomes = t.outcomes ∧ ∀ m ∈ ms, m.event.isWork = false) ?_ ?_ ?_
  · exact ⟨hu, .refl _, rfl, List.forall_mem_nil _⟩
  · rintro ms m ⟨hcancelled, hfewer, hsame, hall⟩ hs
    have hidle := (happens_turn hs).idle hcancelled
    refine ⟨hidle.cancelled, hidle.running.trans hfewer, hidle.outcomes.trans hsame, ?_⟩
    exact List.forall_mem_append.2 ⟨hall, List.forall_mem_singleton.2 hidle.event⟩
  · exact fun _ hd => hd.elim

theorem tended_of_traced {workers capacity : Nat} {ms : Moments ι ρ} {t : Tasks ι ρ}
    (run : Traced (fresh workers capacity) ms t) : Tended t := by
  refine run.keeps (I := fun _ t => Tended t) (.fresh workers capacity) ?_ fun _ hd => hd.elim
  exact fun h hs => h.event (happens_turn hs)

/-! ## Workers that go down -/

/-- A task that takes its worker down takes nothing else with it, as long as a worker is left. -/
theorem lost_alone {t u : Tasks ι ρ} {number : Nat} (he : Happens t (.crash number) u)
    (hl : u.live ≠ 0) :
    u.waiting = t.waiting ∧ t.atWork.Perm (number :: u.atWork) ∧ u.outcomes = t.outcomes := by
  cases he with
  | crash hu hx =>
    rw [lessened] at hl ⊢
    split at hl
    · rename_i hlast
      exact absurd hlast hl
    · rename_i hleft
      rw [if_neg hleft]
      exact ⟨rfl, atWork_of_extract? hx, rfl⟩

/-! ## The outcomes -/

theorem length_results_add_errors {ε α : Type} (outcomes : List (Except ε α)) :
    (outcomes.filterMap Except.toOption).length + (outcomes.filterMap errorOf?).length
      = outcomes.length := by
  induction outcomes with
  | nil => rfl
  | cons outcome rest ih =>
    cases outcome with
    | error error =>
      simp only [List.filterMap_cons, Except.toOption, errorOf?, List.length_cons]
      omega
    | ok value =>
      simp only [List.filterMap_cons, Except.toOption, errorOf?, List.length_cons]
      omega

theorem collect_dropped {ε α : Type} (t : Tasks ι (Except ε α)) :
    t.collect.dropped = t.dropped :=
  congrArg (t.submitted - ·) (length_results_add_errors t.outcomes)

theorem Accounted.ended_le {d : Deeds ρ} {t : Tasks ι ρ} {lost halted : List Nat}
    (h : Accounted d t lost halted) : t.outcomes.length + d.crashes.length ≤ d.submits := by
  have hissued := h.issued.length_eq
  have hbegun := h.begun.length_eq
  rw [List.length_range, h.submitted] at hissued
  rw [h.outcomes, List.length_map]
  simp only [List.length_append, List.length_map] at hissued hbegun
  omega

theorem Accounted.nodup_starts {d : Deeds ρ} {t : Tasks ι ρ} {lost halted : List Nat}
    (h : Accounted d t lost halted) : d.starts.Nodup := by
  have hall := h.issued.nodup_iff.2 List.nodup_range
  exact hall.sublist ((List.sublist_append_right _ _).trans (List.sublist_append_left _ _))

theorem Accounted.nodup_ends {d : Deeds ρ} {t : Tasks ι ρ} {lost halted : List Nat}
    (h : Accounted d t lost halted) : (d.ends.map (·.1)).Nodup := by
  have hall := h.begun.nodup_iff.2 h.nodup_starts
  exact hall.sublist ((List.sublist_append_right _ _).trans
    ((List.sublist_append_left _ _).trans (List.sublist_append_left _ _)))

theorem Accounted.ends_subset {d : Deeds ρ} {t : Tasks ι ρ} {lost halted : List Nat}
    (h : Accounted d t lost halted) : d.ends.map (·.1) ⊆ d.starts := by
  intro number hmem
  exact h.begun.subset
    (List.mem_append_left _ (List.mem_append_left _ (List.mem_append_right _ hmem)))

/-- As long as a worker is left and nothing is cancelled, no task has been dropped. -/
theorem Accounted.perm_range {d : Deeds ρ} {t : Tasks ι ρ} {lost halted : List Nat}
    (h : Accounted d t lost halted) (hc : t.cancelled = false) (hl : t.live ≠ 0) :
    (t.waiting ++ t.atWork ++ d.ends.map (·.1) ++ d.crashes).Perm (List.range d.submits) := by
  have hissued := h.issued
  have hbegun := h.begun
  rw [h.unlost hc hl, List.append_nil, h.submitted] at hissued
  rw [h.unhalted hc, List.append_nil] at hbegun
  refine List.Perm.trans (.of_eq ?_) ((hbegun.append_left t.waiting).trans hissued)
  simp only [List.append_assoc]

/-- Then, in the end, only the tasks that went down are missing. -/
theorem Accounted.missing_eq {d : Deeds ρ} {t : Tasks ι ρ} {lost halted : List Nat}
    (h : Accounted d t lost halted) (hc : t.cancelled = false) (hl : t.live ≠ 0)
    (hd : t.isDone = true) : t.outcomes.length + d.crashes.length = d.submits := by
  simp only [isDone, Bool.and_eq_true, List.isEmpty_iff] at hd
  obtain ⟨⟨hclosed, hrunning⟩, hqueue⟩ := hd
  have hlength := (h.perm_range hc hl).length_eq
  rw [waiting, atWork, h.entered hclosed, hqueue, hrunning, List.length_range] at hlength
  rw [h.outcomes, ← hlength]
  simp

/-- **Every task is accounted for.** In every run of some workers behind a queue:

* no more tasks run at once than there are workers, and no more are queued than the queue holds;
* no task is started twice, none ends twice, and none ends that was not started;
* the results and the errors are the outcomes of the tasks that have ended, each once, in the order
  in which they ended;
* after a cancellation no task enters the queue, starts, ends or goes down, and no outcome is added;
  what still runs is given up, and in whatever order the workers quit, in the end they are all gone,
  and nothing runs or waits;
* a task that takes its worker down while another is left changes nothing for the other tasks, so
  as long as a worker is left and nothing is cancelled, every task waits, runs, has ended or has
  gone down itself, and in the end only those that went down are dropped;
* results, errors and dropped tasks make up the submissions. -/
theorem every_task_accounted {ε α : Type} {workers capacity : Nat} {ms : Moments ι (Except ε α)}
    {t : Tasks ι (Except ε α)} (run : Traced (fresh workers capacity) ms t) :
    (t.running.length ≤ max workers 1 ∧ t.queue.length ≤ max capacity 1) ∧
    ((deeds ms).starts.Nodup ∧ ((deeds ms).ends.map (·.1)).Nodup ∧
      (deeds ms).ends.map (·.1) ⊆ (deeds ms).starts) ∧
    (t.collect.results = (deeds ms).ends.filterMap (·.2.toOption) ∧
      t.collect.errors = (deeds ms).ends.filterMap (errorOf? ·.2)) ∧
    (∀ earlier m later, ms = earlier ++ m :: later → m.event = .cancel →
      t.running.Sublist m.before.running ∧ t.outcomes = m.before.outcomes ∧
        (∀ n ∈ later, n.event.isWork = false) ∧
        Inevitable Quits (fun u => u.live = 0 ∧ u.pending = []) t) ∧
    ((∀ m ∈ ms, ∀ number, m.event = .crash number → m.after.live ≠ 0 →
        m.after.waiting = m.before.waiting ∧ m.before.atWork.Perm (number :: m.after.atWork) ∧
          m.after.outcomes = m.before.outcomes) ∧
      (t.cancelled = false → t.live ≠ 0 →
        (t.waiting ++ t.atWork ++ (deeds ms).ends.map (·.1) ++ (deeds ms).crashes).Perm
          (List.range (deeds ms).submits) ∧
        (t.isDone = true → t.collect.dropped = (deeds ms).crashes.length))) ∧
    t.collect.results.length + t.collect.errors.length + t.collect.dropped
      = (deeds ms).submits := by
  obtain ⟨lost, halted, h⟩ := accounted_of_traced run
  have hwithin := within_of_traced run
  have htended := tended_of_traced run
  have hlength : t.collect.results.length + t.collect.errors.length = t.outcomes.length :=
    length_results_add_errors t.outcomes
  have hdropped : t.collect.dropped = t.submitted - t.outcomes.length := collect_dropped t
  have hended := h.ended_le
  have hsubmitted := h.submitted
  refine ⟨⟨?_, hwithin.queue⟩, ⟨h.nodup_starts, h.nodup_ends, h.ends_subset⟩, ⟨?_, ?_⟩, ?_,
    ⟨?_, fun hc hl => ⟨h.perm_range hc hl, fun hd => ?_⟩⟩, ?_⟩
  · exact Nat.le_trans (Nat.le_add_left _ _) hwithin.live
  · show t.outcomes.filterMap Except.toOption = _
    rw [h.outcomes, List.filterMap_map]
    rfl
  · show t.outcomes.filterMap errorOf? = _
    rw [h.outcomes, List.filterMap_map]
    rfl
  · rintro earlier m later rfl hcancel
    obtain ⟨_, hs, rest⟩ := run.cut
    have he := happens_turn hs
    rw [hcancel] at he
    obtain ⟨hcancelled, hfewer, hsame⟩ := of_cancel he
    obtain ⟨hlast, hrunning, hrest, hidle⟩ := idle_of_cancelled hcancelled rest
    exact ⟨hrunning.trans hfewer, hrest.trans hsame, hidle, all_quit hlast htended⟩
  · intro m hm number hcrash hl
    obtain ⟨earlier, later, rfl⟩ := List.append_of_mem hm
    obtain ⟨_, hs, _⟩ := run.cut
    have he := happens_turn hs
    rw [hcrash] at he
    exact lost_alone he hl
  · have hmissing := h.missing_eq hc hl hd
    omega
  · omega

/-- Two workers take four tasks. One ends well, one goes down, one fails, and the last is running
when everything is cancelled, and is given up; a fifth comes too late. -/
def eventful : List (Event Unit (Except String Nat)) :=
  [.submit (), .start, .submit (), .start, .submit (), .submit (), .finish 0 (.ok 10), .start,
    .enter, .crash 1, .finish 2 (.error "no"), .start, .cancel, .quit (.running 3), .submit (),
    .close]

/-- The moments of that run, and the state after it. -/
def eventfulRun : Moments Unit (Except String Nat) × Tasks Unit (Except String Nat) :=
  (Trace.retrace? turn? (fresh 2 1) eventful).getD ([], fresh 2 1)

/-- Of the five tasks, one has a result, one an error, and three are dropped. -/
theorem every_task_accounted_eventful : ∃ ms, ∃ t : Tasks Unit (Except String Nat),
    Traced (fresh 2 1) ms t ∧ (deeds ms).starts = [0, 1, 2, 3] ∧ (deeds ms).crashes = [1] ∧
    t.collect.results = [10] ∧ t.collect.errors = ["no"] ∧ t.collect.dropped = 3 ∧
    (deeds ms).starts.Nodup ∧ t.running = [] ∧
    (∃ earlier m later, ms = earlier ++ m :: later ∧ m.event = .cancel ∧
      m.before.running.map (·.number) = [3] ∧ t.outcomes = m.before.outcomes) ∧
    t.collect.results.length + t.collect.errors.length + t.collect.dropped
      = (deeds ms).submits := by
  have retraced : Trace.retrace? turn? (fresh 2 1) eventful
      = some (eventfulRun.1, eventfulRun.2) := rfl
  have run : Traced (fresh 2 1) eventfulRun.1 eventfulRun.2 := Trace.of_retrace? retraced
  obtain ⟨-, ⟨starts, -⟩, -, cancelled, -, total⟩ := every_task_accounted run
  obtain ⟨m, hm, hcancel, hrunning⟩ : ∃ m, eventfulRun.1 = eventfulRun.1.take 12 ++ m ::
      eventfulRun.1.drop 13 ∧ m.event = .cancel ∧ m.before.running.map (·.number) = [3] :=
    ⟨_, rfl, rfl, rfl⟩
  obtain ⟨-, same, -, -⟩ := cancelled _ m _ hm hcancel
  exact ⟨_, _, run, rfl, rfl, rfl, rfl, rfl, starts, rfl, ⟨_, m, _, hm, hcancel, hrunning, same⟩,
    total⟩

end Tasks
end ChainExplorer
