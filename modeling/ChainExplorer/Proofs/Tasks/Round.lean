import ChainExplorer.Tasks.FanOut
import Mathlib.Data.List.Nodup

/-!
# Rounds

A round is a fan-out in which nothing is cancelled and no task takes its worker down. When tasks
start and end is left open, and so is what comes of them: that is written down in a log, with the
input of each task that has ended.

The invariant is that nothing gets lost: the inputs to come, the inputs of pending tasks and those
of the log are together the inputs of the round (`Logged.account`). From it come the three facts
that whoever waits for a round relies on. As long as the round is not over, something can happen
(`Logged.progress`); it cannot go on for ever, because each event takes some weight off
(`Logged.weight_lt`); and when it is over, the log has every input (`Logged.perm_of_isDone`).
-/

namespace ChainExplorer

namespace Tasks

variable {ι ρ : Type}

/-! ## What an event does -/

/-- How an event goes. -/
inductive Happens (t : Tasks ι ρ) : Event ι ρ → Tasks ι ρ → Prop
  | submit {input : ι} (hc : t.closed = false) (hb : t.blocked = none) :
      Happens t (.submit input) (t.submit input)
  | enter {task : TaskItem ι} (hu : t.cancelled = false) (hb : t.blocked = some task)
      (hr : t.queue.length < t.capacity) :
      Happens t .enter { t with blocked := none, queue := t.queue ++ [task] }
  | start {task : TaskItem ι} {rest : List (TaskItem ι)} (hu : t.cancelled = false)
      (hq : t.queue = task :: rest) (hi : t.idle ≠ 0) :
      Happens t .start
        { t with
          idle := t.idle - 1, queue := rest
          running := t.running ++ [task], started := t.started + 1 }
  | finish {task : TaskItem ι} {rest : List (TaskItem ι)} {outcome : ρ} (hu : t.cancelled = false)
      (hx : extract? (·.number = task.number) t.running = some (task, rest)) :
      Happens t (.finish task.number outcome)
        { t with idle := t.idle + 1, running := rest, outcomes := t.outcomes ++ [outcome] }
  | crash {task : TaskItem ι} {rest : List (TaskItem ι)} (hu : t.cancelled = false)
      (hx : extract? (·.number = task.number) t.running = some (task, rest)) :
      Happens t (.crash task.number) (lessened { t with running := rest })
  | cancel : Happens t .cancel t.cancel
  | withdraw {task : TaskItem ι} (hu : t.cancelled = true) (hb : t.blocked = some task) :
      Happens t (.quit .submitter) { t with blocked := none }
  | leave (hu : t.cancelled = true) (hi : t.idle ≠ 0) :
      Happens t (.quit .idle) (lessened { t with idle := t.idle - 1 })
  | halt {task : TaskItem ι} {rest : List (TaskItem ι)} (hu : t.cancelled = true)
      (hx : extract? (·.number = task.number) t.running = some (task, rest)) :
      Happens t (.quit (.running task.number)) (lessened { t with running := rest })
  | close (hb : t.blocked = none) : Happens t .close { t with closed := true }

theorem happens_work {t u : Tasks ι ρ} {e : Event ι ρ} (hu : t.cancelled = false)
    (h : t.work? e = some u) : Happens t e u := by
  cases e with
  | enter =>
    simp only [work?] at h
    split at h
    · rename_i task hb
      split at h
      · rename_i hr
        obtain rfl := Option.some.inj h
        exact .enter hu hb hr
      · cases h
    · cases h
  | start =>
    simp only [work?] at h
    split at h
    · rename_i task rest hq
      split at h
      · cases h
      · rename_i hi
        obtain rfl := Option.some.inj h
        exact .start hu hq hi
    · cases h
  | finish number outcome =>
    obtain ⟨⟨task, rest⟩, hx, rfl⟩ := Option.map_eq_some_iff.1 h
    obtain rfl : task.number = number := of_decide_eq_true (extract?_eq_some hx).1
    exact .finish hu hx
  | crash number =>
    obtain ⟨⟨task, rest⟩, hx, rfl⟩ := Option.map_eq_some_iff.1 h
    obtain rfl : task.number = number := of_decide_eq_true (extract?_eq_some hx).1
    exact .crash hu hx
  | submit | cancel | quit | close => cases h

theorem happens_quit {t u : Tasks ι ρ} {party : Party} (hu : t.cancelled = true)
    (h : t.quit? party = some u) : Happens t (.quit party) u := by
  cases party with
  | submitter =>
    simp only [quit?] at h
    split at h
    · rename_i hb
      obtain ⟨task, htask⟩ := Option.isSome_iff_exists.1 hb
      obtain rfl := Option.some.inj h
      exact .withdraw hu htask
    · cases h
  | idle =>
    simp only [quit?] at h
    split at h
    · cases h
    · rename_i hi
      obtain rfl := Option.some.inj h
      exact .leave hu hi
  | running number =>
    obtain ⟨⟨task, rest⟩, hx, rfl⟩ := Option.map_eq_some_iff.1 h
    obtain rfl : task.number = number := of_decide_eq_true (extract?_eq_some hx).1
    exact .halt hu hx

/-- **An event goes one of these ways.** -/
theorem happens {t u : Tasks ι ρ} {e : Event ι ρ} (h : t.step? e = some u) : Happens t e u := by
  cases e with
  | submit input =>
    simp only [step?] at h
    split at h
    · cases h
    · rename_i hn
      simp only [Bool.or_eq_true, not_or, Bool.not_eq_true, Option.isSome_eq_false_iff,
        Option.isNone_iff_eq_none] at hn
      obtain rfl := Option.some.inj h
      exact .submit hn.1 hn.2
  | cancel =>
    obtain rfl := Option.some.inj h
    exact .cancel
  | quit party =>
    simp only [step?] at h
    split at h
    · rename_i hu
      exact happens_quit hu h
    · cases h
  | close =>
    simp only [step?] at h
    split at h
    · cases h
    · rename_i hb
      rw [Option.not_isSome_iff_eq_none] at hb
      obtain rfl := Option.some.inj h
      exact .close hb
  | enter | start | finish | crash =>
    simp only [step?] at h
    split at h
    · cases h
    · rename_i hu
      exact happens_work (Bool.eq_false_iff.2 hu) h

/-- How a submission is taken in. -/
inductive Submitted (t : Tasks ι ρ) (task : TaskItem ι) : Tasks ι ρ → Prop
  | dropped (stopped : t.cancelled = false → t.live = 0) :
      Submitted t task { t with submitted := t.submitted + 1 }
  | queued (up : t.live ≠ 0) (room : t.queue.length < t.capacity) :
      Submitted t task { t with submitted := t.submitted + 1, queue := t.queue ++ [task] }
  | blocked (up : t.live ≠ 0) (full : t.capacity ≤ t.queue.length) :
      Submitted t task { t with submitted := t.submitted + 1, blocked := some task }

theorem submitted_submit (t : Tasks ι ρ) (input : ι) :
    Submitted t ⟨t.submitted, input⟩ (t.submit input) := by
  simp only [submit]
  split
  · rename_i hstopped
    refine .dropped fun hc => ?_
    rw [hc, Bool.false_or, decide_eq_true_eq] at hstopped
    exact hstopped
  · rename_i hgoing
    simp only [Bool.or_eq_true, not_or, decide_eq_true_eq] at hgoing
    split
    · rename_i hroom
      exact .queued hgoing.2 hroom
    · rename_i hfull
      exact .blocked hgoing.2 (Nat.le_of_not_lt hfull)

/-! ## Tasks among which nothing gets lost -/

/-- The tasks that have been submitted and have not ended. -/
def pending (t : Tasks ι ρ) : List (TaskItem ι) := t.blocked.toList ++ t.queue ++ t.running

/-- There are workers, and every pending task has a number of its own. -/
structure Whole (t : Tasks ι ρ) : Prop where
  live : 0 < t.live
  uncancelled : t.cancelled = false
  capacity : 0 < t.capacity
  numbered : (t.pending.map (·.number)).Nodup
  issued : ∀ task ∈ t.pending, task.number < t.submitted

theorem Whole.fresh (workers capacity : Nat) : (fresh workers capacity : Tasks ι ρ).Whole where
  live := by
    simp only [Tasks.live, Tasks.fresh, List.length_nil]
    omega
  uncancelled := rfl
  capacity := by
    simp only [Tasks.fresh]
    omega
  numbered := List.nodup_nil
  issued := by
    intro task hm
    cases hm

/-- Where there are workers, a submission enters the queue or waits for room in it. -/
theorem Whole.submit_eq {t : Tasks ι ρ} (h : t.Whole) (input : ι) : t.submit input =
    if t.queue.length < t.capacity then
      { t with submitted := t.submitted + 1, queue := t.queue ++ [⟨t.submitted, input⟩] }
    else { t with submitted := t.submitted + 1, blocked := some ⟨t.submitted, input⟩ } := by
  have hlive : ¬ Tasks.live { t with submitted := t.submitted + 1 } = 0 := Nat.ne_of_gt h.live
  refine if_neg ?_
  rw [h.uncancelled, Bool.false_or, decide_eq_true_eq]
  exact hlive

theorem Whole.pending_submit {t : Tasks ι ρ} (h : t.Whole) (hb : t.blocked = none) (input : ι) :
    (t.submit input).pending.Perm (⟨t.submitted, input⟩ :: t.pending) := by
  classical
  refine List.perm_iff_count.2 fun task => ?_
  rw [h.submit_eq]
  split
  · simp only [pending, hb, Option.toList_none, List.nil_append, List.count_append,
      List.count_cons, List.count_nil]
    omega
  · simp only [pending, hb, Option.toList_none, Option.toList_some, List.nil_append,
      List.cons_append, List.count_append, List.count_cons]

theorem Whole.submit {t : Tasks ι ρ} (h : t.Whole) (hb : t.blocked = none) (input : ι) :
    (t.submit input).Whole := by
  have hp := h.pending_submit hb input
  have hnumbered : ((t.submit input).pending.map (·.number)).Nodup := by
    rw [(hp.map _).nodup_iff, List.map_cons, List.nodup_cons]
    -- Numbers are given out in order, so the new one is past all that are in use.
    refine ⟨fun hm => ?_, h.numbered⟩
    obtain ⟨task, ht, he⟩ := List.mem_map.1 hm
    exact absurd (h.issued task ht) (by simp [he])
  have hissued : ∀ task ∈ (t.submit input).pending, task.number < t.submitted + 1 := by
    intro task ht
    rcases List.mem_cons.1 (hp.mem_iff.1 ht) with rfl | hold
    · exact Nat.lt_succ_self _
    · exact Nat.lt_succ_of_lt (h.issued task hold)
  rw [h.submit_eq] at hnumbered hissued ⊢
  split at hnumbered
  · rename_i hr
    rw [if_pos hr] at hissued ⊢
    exact ⟨h.live, h.uncancelled, h.capacity, hnumbered, hissued⟩
  · rename_i hr
    rw [if_neg hr] at hissued ⊢
    exact ⟨h.live, h.uncancelled, h.capacity, hnumbered, hissued⟩

/-- The number of a running task is that of no other. -/
theorem Whole.extract?_running {t : Tasks ι ρ} (h : t.Whole) {task : TaskItem ι}
    (ht : task ∈ t.running) :
    ∃ rest, extract? (·.number = task.number) t.running = some (task, rest) := by
  cases hx : extract? (·.number = task.number) t.running with
  | none => simpa using extract?_eq_none.1 hx task ht
  | some taken =>
    obtain ⟨other, rest⟩ := taken
    have hother : other ∈ t.running := (mem_of_extract? hx).2 (.inl rfl)
    have hnumber : other.number = task.number := of_decide_eq_true (extract?_eq_some hx).1
    have hsub : t.running.Sublist t.pending := List.sublist_append_right _ _
    have hnodup := h.numbered.sublist (hsub.map (·.number))
    obtain rfl := List.inj_on_of_nodup_map hnodup hother ht hnumber
    exact ⟨rest, rfl⟩

/-- Tasks that are pending in another order are as whole as before. -/
theorem Whole.of_perm {t u : Tasks ι ρ} (h : t.Whole) (hp : u.pending.Perm t.pending)
    (hl : u.live = t.live) (hu : u.cancelled = t.cancelled) (hc : u.capacity = t.capacity)
    (hs : u.submitted = t.submitted) : u.Whole where
  live := hl ▸ h.live
  uncancelled := hu ▸ h.uncancelled
  capacity := hc ▸ h.capacity
  numbered := (hp.map _).nodup_iff.2 h.numbered
  issued := fun task ht => hs ▸ h.issued task (hp.mem_iff.1 ht)

theorem pending_enter {t : Tasks ι ρ} {task : TaskItem ι} (hb : t.blocked = some task) :
    (pending { t with blocked := none, queue := t.queue ++ [task] }).Perm t.pending := by
  classical
  refine List.perm_iff_count.2 fun other => ?_
  simp only [pending, hb, Option.toList_none, Option.toList_some, List.count_append,
    List.count_cons, List.count_nil]
  omega

theorem pending_start {t : Tasks ι ρ} {task : TaskItem ι} {rest : List (TaskItem ι)}
    (hq : t.queue = task :: rest) :
    (pending { t with
      idle := t.idle - 1, queue := rest
      running := t.running ++ [task], started := t.started + 1 }).Perm t.pending := by
  classical
  refine List.perm_iff_count.2 fun other => ?_
  simp only [pending, hq, List.count_append, List.count_cons, List.count_nil]
  omega

theorem pending_finish {t : Tasks ι ρ} {f : TaskItem ι → Bool} {task : TaskItem ι}
    {rest : List (TaskItem ι)} (outcomes : List ρ)
    (hx : extract? f t.running = some (task, rest)) :
    t.pending.Perm
      (task :: pending { t with idle := t.idle + 1, running := rest, outcomes := outcomes }) := by
  have hr := (perm_of_extract? hx).append_left (t.blocked.toList ++ t.queue)
  exact hr.trans List.perm_middle

theorem Whole.finish {t : Tasks ι ρ} {f : TaskItem ι → Bool} {task : TaskItem ι}
    {rest : List (TaskItem ι)} (outcomes : List ρ) (h : t.Whole)
    (hx : extract? f t.running = some (task, rest)) :
    Whole { t with idle := t.idle + 1, running := rest, outcomes := outcomes } where
  live := Nat.lt_of_lt_of_le (Nat.succ_pos t.idle) (Nat.le_add_right _ _)
  uncancelled := h.uncancelled
  capacity := h.capacity
  numbered := by
    have hp := (pending_finish outcomes hx).map (·.number)
    exact (List.nodup_cons.1 (hp.nodup_iff.1 h.numbered)).2
  issued := fun other hm =>
    h.issued other ((pending_finish outcomes hx).mem_iff.2 (List.mem_cons_of_mem task hm))

end Tasks

namespace FanOut

variable {ι ρ : Type}

/-! ## What an event does to a list of inputs -/

/-- How an event goes. -/
inductive Happens (f : FanOut ι ρ) : Event ρ → FanOut ι ρ → Prop
  | next {input : ι} {rest : List ι} (hi : f.inputs = input :: rest)
      (hc : f.tasks.closed = false) (hb : f.tasks.blocked = none) :
      Happens f .next ⟨rest, f.tasks.submit input⟩
  | last (hi : f.inputs = []) (hc : f.tasks.closed = false) (hb : f.tasks.blocked = none) :
      Happens f .next ⟨[], { f.tasks with closed := true }⟩
  | enter {task : TaskItem ι} (hu : f.tasks.cancelled = false)
      (hb : f.tasks.blocked = some task) (hr : f.tasks.queue.length < f.tasks.capacity) :
      Happens f .enter
        { f with tasks := { f.tasks with blocked := none, queue := f.tasks.queue ++ [task] } }
  | start {task : TaskItem ι} {rest : List (TaskItem ι)} (hu : f.tasks.cancelled = false)
      (hq : f.tasks.queue = task :: rest) (hi : f.tasks.idle ≠ 0) :
      Happens f .start
        { f with tasks := { f.tasks with
          idle := f.tasks.idle - 1, queue := rest
          running := f.tasks.running ++ [task], started := f.tasks.started + 1 } }
  | finish {task : TaskItem ι} {rest : List (TaskItem ι)} {outcome : ρ}
      (hu : f.tasks.cancelled = false)
      (hx : extract? (·.number = task.number) f.tasks.running = some (task, rest)) :
      Happens f (.finish task.number outcome)
        { f with tasks := { f.tasks with
          idle := f.tasks.idle + 1, running := rest, outcomes := f.tasks.outcomes ++ [outcome] } }
  | crash {number : Nat} {t : Tasks ι ρ} (h : f.tasks.step? (.crash number) = some t) :
      Happens f (.crash number) { f with tasks := t }
  | cancel : Happens f .cancel { f with tasks := f.tasks.cancel }
  | quit {party : Tasks.Party} {t : Tasks ι ρ} (h : f.tasks.step? (.quit party) = some t) :
      Happens f (.quit party) { f with tasks := t }

/-- **An event goes one of these ways.** -/
theorem happens {f g : FanOut ι ρ} {e : Event ρ} (h : f.step? e = some g) : Happens f e g := by
  cases e with
  | next =>
    simp only [step?, next?] at h
    split at h
    · cases h
    · rename_i hc
      rw [Bool.not_eq_true] at hc
      split at h
      · rename_i input rest hi
        obtain ⟨t, ht, rfl⟩ := Option.map_eq_some_iff.1 h
        cases Tasks.happens ht with
        | submit _ hb => exact .next hi hc hb
      · rename_i hi
        obtain ⟨t, ht, rfl⟩ := Option.map_eq_some_iff.1 h
        cases Tasks.happens ht with
        | close hb => exact .last hi hc hb
  | enter =>
    obtain ⟨t, ht, rfl⟩ := Option.map_eq_some_iff.1 h
    cases Tasks.happens ht with
    | enter hu hb hr => exact .enter hu hb hr
  | start =>
    obtain ⟨t, ht, rfl⟩ := Option.map_eq_some_iff.1 h
    cases Tasks.happens ht with
    | start hu hq hi => exact .start hu hq hi
  | finish number outcome =>
    obtain ⟨t, ht, rfl⟩ := Option.map_eq_some_iff.1 h
    cases Tasks.happens ht with
    | finish hu hx => exact .finish hu hx
  | crash number =>
    obtain ⟨t, ht, rfl⟩ := Option.map_eq_some_iff.1 h
    exact .crash ht
  | cancel =>
    obtain rfl := Option.some.inj h
    exact .cancel
  | quit party =>
    obtain ⟨t, ht, rfl⟩ := Option.map_eq_some_iff.1 h
    exact .quit ht

/-! ## Rounds -/

/-- The events of a round in which every task ends with what a function makes of its input. -/
def Faithful (answer : ι → ρ) (f : FanOut ι ρ) : Event ρ → Prop
  | .finish number outcome =>
    ∀ task ∈ f.tasks.running, task.number = number → outcome = answer task.input
  | .crash _ | .cancel | .quit _ => False
  | .next | .enter | .start => True

/-- Whether an event belongs to a round. -/
def Event.isCalm : Event ρ → Bool
  | .crash _ | .cancel | .quit _ => false
  | .next | .enter | .start | .finish .. => true

/-- What an event adds to the log: the input of the task that ends with what comes of it. -/
def endedBy (f : FanOut ι ρ) : Event ρ → List (ι × ρ)
  | .finish number outcome =>
    ((extract? (·.number = number) f.tasks.running).map fun taken =>
      (taken.1.input, outcome)).toList
  | .next | .enter | .start | .crash _ | .cancel | .quit _ => []

/-- The task that a worker takes up with an event. -/
def startedBy (f : FanOut ι ρ) : Event ρ → List (TaskItem ι)
  | .start => f.tasks.queue.head?.toList
  | .next | .enter | .finish .. | .crash _ | .cancel | .quit _ => []

/-- The invariant of a round over the given inputs, with its log. -/
structure Logged (inputs : List ι) (f : FanOut ι ρ) (log : List (ι × ρ)) : Prop where
  whole : f.tasks.Whole
  ended : f.tasks.closed = true → f.inputs = [] ∧ f.tasks.blocked = none
  outcomes : f.tasks.outcomes = log.map (·.2)
  account : (f.inputs ++ (f.tasks.pending.map (·.input) ++ log.map (·.1))).Perm inputs

section Logged

variable {inputs : List ι} {f g : FanOut ι ρ} {log : List (ι × ρ)} {e : Event ρ}

theorem endedBy_finish {task : TaskItem ι} {rest : List (TaskItem ι)} {outcome : ρ}
    (hx : extract? (·.number = task.number) f.tasks.running = some (task, rest)) :
    f.endedBy (.finish task.number outcome) = [(task.input, outcome)] := by
  simp [endedBy, hx]

/-- What runs has started and has not ended. -/
theorem perm_running (he : e.isCalm = true) (h : f.step? e = some g) :
    (g.tasks.running.map (·.input) ++ (f.endedBy e).map (·.1)).Perm
      (f.tasks.running.map (·.input) ++ (f.startedBy e).map (·.input)) := by
  cases happens h with
  | @next input rest hi hc hb =>
    have hrunning : (f.tasks.submit input).running = f.tasks.running := by
      rw [Tasks.submit]
      split
      · rfl
      · split <;> rfl
    rw [hrunning]
    exact .refl _
  | last hi hc hb => exact .refl _
  | enter hu hb hr => exact .refl _
  | start hu hq hi =>
    rw [startedBy, hq, endedBy, List.map_append, List.map_nil, List.append_nil]
    exact .refl _
  | finish hu hx =>
    rw [endedBy_finish hx, startedBy, List.map_nil, List.append_nil]
    have hperm := (perm_of_extract? hx).map (·.input)
    exact (List.perm_append_singleton _ _).trans hperm.symm
  | crash | cancel | quit => cases he

theorem Logged.ofInputs (inputs : List ι) (workers capacity : Nat) :
    Logged inputs (ofInputs inputs workers capacity : FanOut ι ρ) [] where
  whole := .fresh workers capacity
  ended := by
    intro h
    cases h
  outcomes := rfl
  account := List.Perm.of_eq (List.append_nil inputs)

/-- The account of a round hangs on which tasks are pending and not on their order. -/
theorem Logged.account_of_perm {t : Tasks ι ρ} (h : Logged inputs f log)
    (hp : t.pending.Perm f.tasks.pending) :
    (f.inputs ++ (t.pending.map (·.input) ++ log.map (·.1))).Perm inputs :=
  (((hp.map _).append_right _).append_left f.inputs).trans h.account

/-- **Every event of a round keeps the invariant.** -/
theorem Logged.event (h : Logged inputs f log) (he : e.isCalm = true)
    (hs : f.step? e = some g) : Logged inputs g (log ++ f.endedBy e) := by
  cases happens hs with
  | @next input rest hi hc hb =>
    have hkeeps : (f.tasks.submit input).closed = f.tasks.closed ∧
        (f.tasks.submit input).outcomes = f.tasks.outcomes := by
      rw [h.whole.submit_eq]
      split <;> exact ⟨rfl, rfl⟩
    rw [endedBy, List.append_nil]
    refine ⟨h.whole.submit hb input, fun hclosed => ?_, hkeeps.2.trans h.outcomes, ?_⟩
    · rw [hkeeps.1, hc] at hclosed
      cases hclosed
    · -- The input moves from those to come to those of pending tasks.
      have hp := (h.whole.pending_submit hb input).map (·.input)
      refine List.Perm.trans ?_ h.account
      rw [hi]
      exact ((hp.append_right _).append_left rest).trans List.perm_middle
  | last hi hc hb =>
    rw [endedBy, List.append_nil]
    refine ⟨h.whole.of_perm (.refl _) rfl rfl rfl rfl, fun _ => ⟨rfl, hb⟩, h.outcomes, ?_⟩
    have ha := h.account
    rw [hi] at ha
    exact ha
  | enter hu hb hr =>
    rw [endedBy, List.append_nil]
    have hp := Tasks.pending_enter hb
    refine ⟨h.whole.of_perm hp rfl rfl rfl rfl, fun hclosed => ?_, h.outcomes,
      h.account_of_perm hp⟩
    exact ⟨(h.ended hclosed).1, rfl⟩
  | start hu hq hi =>
    rw [endedBy, List.append_nil]
    have hp := Tasks.pending_start hq
    refine ⟨h.whole.of_perm hp ?_ rfl rfl rfl, h.ended, h.outcomes, h.account_of_perm hp⟩
    simp only [Tasks.live, List.length_append, List.length_cons, List.length_nil]
    omega
  | @finish task rest outcome hu hx =>
    rw [endedBy_finish hx]
    refine ⟨h.whole.finish _ hx, h.ended, ?_, List.Perm.trans ?_ h.account⟩
    · simp only [h.outcomes, List.map_append, List.map_cons, List.map_nil]
    · -- The input moves from those of pending tasks to those of the log.
      have hp := (Tasks.pending_finish (f.tasks.outcomes ++ [outcome]) hx).map (·.input)
      refine List.Perm.append_left f.inputs (List.Perm.trans ?_ (hp.append_right _).symm)
      rw [List.map_append, ← List.append_assoc]
      exact List.perm_append_singleton task.input _
  | crash | cancel | quit => cases he

/-- Nobody quits a round, as it is not cancelled. -/
theorem Logged.not_quit {party : Tasks.Party} (h : Logged inputs f log) :
    f.step? (.quit party) ≠ some g := by
  intro hs
  cases happens hs with
  | quit hq => simp [Tasks.step?, h.whole.uncancelled] at hq

/-- When a round is over, its log has every input. -/
theorem Logged.perm_of_isDone (h : Logged inputs f log) (hd : f.isDone = true) :
    (log.map (·.1)).Perm inputs := by
  simp only [isDone, Tasks.isDone, Bool.and_eq_true, List.isEmpty_iff] at hd
  obtain ⟨⟨hclosed, hrunning⟩, hqueue⟩ := hd
  obtain ⟨hinputs, hblocked⟩ := h.ended hclosed
  have haccount := h.account
  rwa [Tasks.pending, hinputs, hblocked, hqueue, hrunning] at haccount

/-- What a faithful event adds to the log is what a function makes of an input. -/
theorem Faithful.endedBy {answer : ι → ρ} (he : Faithful answer f e) :
    ∀ entry ∈ f.endedBy e, entry.2 = answer entry.1 := by
  intro entry hentry
  cases e with
  | finish number outcome =>
    simp only [FanOut.endedBy, Option.mem_toList, Option.map_eq_some_iff] at hentry
    obtain ⟨⟨task, rest⟩, hx, rfl⟩ := hentry
    exact he task ((mem_of_extract? hx).2 (.inl rfl)) (of_decide_eq_true (extract?_eq_some hx).1)
  | _ => cases hentry

/-- A running task can end with what a function makes of its input. -/
theorem Logged.faithful_finish {answer : ι → ρ} (h : Logged inputs f log) {task : TaskItem ι}
    (ht : task ∈ f.tasks.running) : Faithful answer f (.finish task.number (answer task.input)) := by
  intro other hother hnumber
  obtain ⟨rest, hx⟩ := h.whole.extract?_running ht
  obtain ⟨rest', hx'⟩ := h.whole.extract?_running hother
  rw [hnumber, hx] at hx'
  cases hx'
  rfl

/-- A running task can end with any outcome. -/
theorem Logged.exists_finish (h : Logged inputs f log) {task : TaskItem ι}
    (ht : task ∈ f.tasks.running) (outcome : ρ) :
    ∃ g, f.step? (.finish task.number outcome) = some g := by
  obtain ⟨rest, hx⟩ := h.whole.extract?_running ht
  simp [step?, Tasks.step?, Tasks.work?, h.whole.uncancelled, hx]

/-- **A round that is not over goes on**: the submitter or a worker can take its next step, or there
is a running task, which can end with any outcome. -/
theorem Logged.progress (h : Logged inputs f log) (hd : f.isDone = false) :
    (∃ e g, e ∈ [.next, .enter, .start] ∧ f.step? e = some g) ∨
      ∃ task ∈ f.tasks.running, ∀ outcome, ∃ g, f.step? (.finish task.number outcome) = some g := by
  have hcapacity := h.whole.capacity
  have hlive := h.whole.live
  have hu := h.whole.uncancelled
  -- A running task can end; else a worker is idle, and takes what is queued.
  cases hrunning : f.tasks.running with
  | cons task rest =>
    have ht : task ∈ f.tasks.running := hrunning ▸ List.mem_cons_self
    exact .inr ⟨task, List.mem_cons_self, h.exists_finish ht⟩
  | nil =>
    refine .inl ?_
    have hidle : f.tasks.idle ≠ 0 := by
      simp only [Tasks.live, hrunning, List.length_nil] at hlive
      omega
    cases hqueue : f.tasks.queue with
    | cons task rest =>
      refine ⟨.start, ?_⟩
      simp [step?, Tasks.step?, Tasks.work?, hu, hqueue, hidle]
    | nil =>
      cases hblocked : f.tasks.blocked with
      | some task =>
        refine ⟨.enter, ?_⟩
        simp [step?, Tasks.step?, Tasks.work?, hu, hblocked, hqueue, hcapacity]
      | none =>
        have hopen : f.tasks.closed = false := by
          simpa [isDone, Tasks.isDone, hrunning, hqueue] using hd
        refine ⟨.next, ?_⟩
        cases hinputs : f.inputs <;> simp [step?, next?, Tasks.step?, hopen, hblocked, hinputs]

/-! ## Rounds come to an end -/

/-- What is left to happen in a round. -/
def weight (f : FanOut ι ρ) : Nat :=
  4 * f.inputs.length + 3 * f.tasks.blocked.toList.length + 2 * f.tasks.queue.length
    + f.tasks.running.length + if f.tasks.closed then 0 else 1

theorem Logged.weight_lt (h : Logged inputs f log) (he : e.isCalm = true)
    (hs : f.step? e = some g) : g.weight < f.weight := by
  cases happens hs with
  | next hi hc hb =>
    rw [Tasks.Whole.submit_eq h.whole]
    split <;> simp [weight, hi, hb] <;> omega
  | last hi hc hb => simp [weight, hi, hc]
  | enter hu hb hr =>
    simp [weight, hb]
    omega
  | start hu hq hi =>
    simp [weight, hq]
    omega
  | finish hu hx => simp [weight, length_of_extract? hx]
  | crash | cancel | quit => cases he

end Logged

end FanOut
end ChainExplorer
