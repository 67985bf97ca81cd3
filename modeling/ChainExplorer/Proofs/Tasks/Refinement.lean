import ChainExplorer.Proofs.Tasks.Accounting
import ChainExplorer.Proofs.Tasks.Conservation

/-!
# A crew does what tasks do

Who is on the way to the receiver, in line for it or at it makes no difference to the tasks: seen from
outside, workers that share a receiver are the workers of `Tasks` (`Shows`). Each event of a crew
shows as one of those or changes nothing there (`Shows.event`), so what holds in every run of `Tasks`
holds of what a crew shows (`shown_by_tasks`).

A worker with a task in its hands counts as running it. A worker that has gone home counts as idle,
because `Tasks` does not let anybody go.
-/

namespace ChainExplorer

/-- The task that a worker at the receiver has taken. -/
def Receiver.task? {ι : Type} : Receiver ι → Option (TaskItem ι)
  | .laden _ task => some task
  | .free | .held _ | .listening _ => none

namespace Crew

variable {ι ρ : Type}

/-- The tasks that workers have in their hands. -/
def inHand (c : Crew ι ρ) : List (TaskItem ι) := c.running.map (·.task) ++ c.receiver.task?.toList

theorem task?_wake (c : Crew ι ρ) : c.wake.receiver.task? = c.receiver.task? := by
  unfold wake
  split
  · rename_i worker hr
    rw [hr]
    rfl
  · rfl

theorem task?_handOn (c : Crew ι ρ) : c.handOn.receiver.task? = none := by
  unfold handOn
  split <;> rfl

theorem task?_ask (c : Crew ι ρ) (worker : Nat) :
    (c.ask worker).receiver.task? = c.receiver.task? := by
  unfold ask
  split
  · rename_i hr
    rw [hr]
    rfl
  · rfl

/-- The event of tasks that an event of a crew shows as, if it shows. A look for a task shows where
one is found, and a submission that is given up where it has not been refused. -/
def shown? (c : Crew ι ρ) : Event ι ρ → Option (Tasks.Event ι ρ)
  | .submit input => some (.submit input)
  | .enter => some .enter
  | .withdraw => c.submitter.task?.map fun _ => .quit .submitter
  | .receive => c.queue.head?.map fun _ => .start
  | .finish number outcome => some (.finish number outcome)
  | .crash number => some (.crash number)
  | .cancel => some .cancel
  | .quit (.bound _) | .quit (.line _) | .quit .receiver => some (.quit .idle)
  | .quit (.running number) => some (.quit (.running number))
  | .close => some .close
  | .arrive _ | .begin => none

/-- What a crew shows of itself. -/
structure Shows (capacity : Nat) (c : Crew ι ρ) (t : Tasks ι ρ) : Prop where
  capacity : t.capacity = capacity
  running : t.running = c.inHand
  queue : t.queue = c.queue
  blocked : t.blocked = c.submitter.task?
  submitted : t.submitted = c.submitted
  started : t.started = c.started
  outcomes : t.outcomes = c.outcomes
  cancelled : t.cancelled = c.cancelled
  closed : t.closed = c.closed
  live : ∃ home, t.live = c.workers.length + home ∧ (home ≠ 0 → c.closed = true ∧ c.queue = [])

section Shows

variable {capacity : Nat} {c d : Crew ι ρ} {t : Tasks ι ρ} {e : Event ι ρ}

theorem Shows.fresh (workers capacity : Nat) :
    Shows (max capacity 1) (fresh workers capacity : Crew ι ρ) (.fresh workers capacity) where
  capacity := rfl
  running := rfl
  queue := rfl
  blocked := rfl
  submitted := rfl
  started := rfl
  outcomes := rfl
  cancelled := rfl
  closed := rfl
  live := ⟨0, by simp [Tasks.live, Tasks.fresh, length_workers, Crew.fresh, Receiver.worker?], nofun⟩

/-- Before the end of all submissions nobody has gone home. -/
theorem Shows.live_eq (h : Shows capacity c t) (hc : c.closed = false) :
    t.live = c.workers.length := by
  obtain ⟨home, hlive, hhome⟩ := h.live
  have hnone : home = 0 := by
    by_contra hsome
    rw [hc] at hhome
    cases (hhome hsome).1
  rw [hlive, hnone, Nat.add_zero]

/-- A task that enters the queue shows there. -/
theorem Shows.push (h : Shows capacity c t) (hc : c.closed = false) (task : TaskItem ι) :
    Shows capacity (c.push task) { t with queue := t.queue ++ [task] } := by
  have hlive : t.live = (c.push task).workers.length + 0 := by
    rw [workers_push, h.live_eq hc, Nat.add_zero]
  have hreceiver : (c.push task).receiver.task? = c.receiver.task? := task?_wake c
  obtain ⟨receiver, heq⟩ := push_eq c task
  rw [heq] at hlive hreceiver ⊢
  refine ⟨h.capacity, ?_, congrArg (· ++ [task]) h.queue, h.blocked, h.submitted, h.started,
    h.outcomes, h.cancelled, h.closed, 0, hlive, nofun⟩
  rw [h.running, inHand, inHand, hreceiver]

theorem Shows.submit {input : ι} (h : Shows capacity c t) (hm : Manned capacity c)
    (hc : c.closed = false) (hs : c.submitter = .away) :
    Shows capacity (c.submit input) (t.submit input) := by
  have hroom := hm.stocked.room
  rw [hs, Submitter.share, Nat.add_zero] at hroom
  have hstopped : (t.cancelled || decide (t.live = 0)) = true ↔ c.Stopped := by
    rw [Bool.or_eq_true, decide_eq_true_eq, h.cancelled, h.live_eq hc, List.length_eq_zero_iff]
    exact Iff.rfl
  have hsubmitted : t.submitted + 1 = c.submitted + 1 := congrArg (· + 1) h.submitted
  have hnew := submitted_submit c input
  generalize c.submit input = d at hnew
  cases hnew with
  | dropped stopped =>
    have hdropped : t.submit input = { t with submitted := t.submitted + 1 } :=
      if_pos (hstopped.2 stopped)
    rw [hdropped]
    exact ⟨h.capacity, h.running, h.queue, h.blocked, hsubmitted, h.started, h.outcomes,
      h.cancelled, h.closed, h.live⟩
  | @queued up room hmore =>
    have hqueued : t.submit input = { t with
        submitted := t.submitted + 1, queue := t.queue ++ [⟨t.submitted, input⟩] } := by
      refine (if_neg (mt hstopped.1 up)).trans (if_pos ?_)
      show t.queue.length < t.capacity
      rw [h.queue, h.capacity]
      omega
    have hcounted : Shows capacity { c with submitted := c.submitted + 1, room }
        { t with submitted := t.submitted + 1 } :=
      ⟨h.capacity, h.running, h.queue, h.blocked, hsubmitted, h.started, h.outcomes,
        h.cancelled, h.closed, h.live⟩
    rw [hqueued, h.submitted]
    exact h.submitted ▸ hcounted.push hc _
  | blocked up full =>
    have hblocked : t.submit input = { t with
        submitted := t.submitted + 1, blocked := some ⟨t.submitted, input⟩ } := by
      refine (if_neg (mt hstopped.1 up)).trans (if_neg ?_)
      show ¬ t.queue.length < t.capacity
      rw [h.queue, h.capacity]
      omega
    rw [hblocked]
    refine ⟨h.capacity, h.running, h.queue, ?_, hsubmitted, h.started, h.outcomes,
      h.cancelled, h.closed, h.live⟩
    rw [h.submitted]
    rfl

/-- The worker that takes a task is one that was idle. -/
theorem Shows.take {worker : Nat} {task : TaskItem ι} {rest : List (TaskItem ι)}
    (h : Shows capacity c t) (hu : c.cancelled = false) (hr : c.receiver = .held worker)
    (hq : c.queue = task :: rest) :
    ∃ u, t.step? .start = some u ∧
      Shows capacity
        { makeRoom { c with queue := rest } with
          receiver := .laden worker task, started := c.started + 1 } u := by
  obtain ⟨home, hlive, hhome⟩ := h.live
  have hidle : t.idle ≠ 0 := by
    rw [Tasks.live, h.running, length_workers, hr] at hlive
    simp only [inHand, hr, Receiver.task?, Receiver.worker?, Option.toList_none,
      Option.toList_some, List.append_nil, List.length_map, List.length_singleton] at hlive
    omega
  have hnone : home = 0 := by
    by_contra hsome
    have hempty := (hhome hsome).2
    rw [hq] at hempty
    cases hempty
  obtain ⟨room, submitter, letIn, heq⟩ := makeRoom_eq { c with queue := rest }
  rw [heq]
  refine ⟨{ t with
    idle := t.idle - 1, queue := rest
    running := t.running ++ [task], started := t.started + 1 }, ?_, ?_⟩
  · simp [Tasks.step?, Tasks.work?, h.cancelled, hu, h.queue, hq, hidle]
  · refine ⟨h.capacity, ?_, rfl, h.blocked.trans letIn.task.symm, h.submitted,
      congrArg (· + 1) h.started, h.outcomes, h.cancelled, h.closed, 0, ?_, absurd rfl⟩
    · simp only [h.running, inHand, hr, Receiver.task?, Option.toList_none, Option.toList_some,
        List.append_nil]
    · rw [hnone, Tasks.live, length_workers, hr] at hlive
      simp only [Tasks.live, length_workers, List.length_append, List.length_singleton,
        Receiver.worker?, Option.toList_some] at hlive ⊢
      omega

/-- A task that ends or goes down is one that shows. -/
theorem Shows.extract {ended : Assignment ι} {rest : List (Assignment ι)} (h : Shows capacity c t)
    (hx : extract? (·.task.number = ended.task.number) c.running = some (ended, rest)) :
    extract? (·.number = ended.task.number) t.running =
      some (ended.task, rest.map (·.task) ++ c.receiver.task?.toList) := by
  have hmap : extract? (·.number = ended.task.number) (c.running.map (·.task)) =
      some (ended.task, rest.map (·.task)) := extract?_map hx
  rw [h.running, inHand]
  exact extract?_append hmap _

theorem Shows.finish {ended : Assignment ι} {rest : List (Assignment ι)} (outcome : ρ)
    (h : Shows capacity c t) (hu : c.cancelled = false)
    (hx : extract? (·.task.number = ended.task.number) c.running = some (ended, rest)) :
    ∃ u, t.step? (.finish ended.task.number outcome) = some u ∧
      Shows capacity
        { c with
          bound := c.bound ++ [ended.worker], running := rest,
          outcomes := c.outcomes ++ [outcome] } u := by
  have hshown := h.extract hx
  have hgoing : t.cancelled = false := h.cancelled.trans hu
  refine ⟨_, (if_neg (Bool.eq_false_iff.1 hgoing)).trans (Option.map_eq_some_iff.2 ⟨_, hshown, rfl⟩),
    h.capacity, rfl, h.queue, h.blocked,
    h.submitted, h.started, congrArg (· ++ [outcome]) h.outcomes, h.cancelled, h.closed, ?_⟩
  obtain ⟨home, hlive, hhome⟩ := h.live
  refine ⟨home, ?_, hhome⟩
  have hrunning := length_of_extract? hx
  have htasks := length_of_extract? hshown
  rw [Tasks.live, length_workers] at hlive ⊢
  simp only [List.length_append, List.length_singleton] at hlive htasks ⊢
  omega

/-- With the last worker goes all that waits, whether or not some have gone home. -/
theorem Shows.lessened (h : Shows capacity c t) (closed : c.closed = true → c.submitter = .away) :
    Shows capacity c.lessened t.lessened := by
  obtain ⟨home, hlive, hhome⟩ := h.live
  unfold Crew.lessened Tasks.lessened
  split
  · rename_i hdown
    have hrefused := Submitter.task?_refuse c.submitter
    split
    · exact ⟨h.capacity, h.running, rfl, hrefused.symm, h.submitted, h.started, h.outcomes,
        h.cancelled, h.closed, home, hlive, fun hsome => ⟨(hhome hsome).1, rfl⟩⟩
    · rename_i hup
      rw [hlive, List.isEmpty_iff.1 hdown, List.length_nil, Nat.zero_add] at hup
      obtain ⟨hclosed, hqueue⟩ := hhome hup
      refine ⟨h.capacity, h.running, h.queue.trans hqueue, ?_, h.submitted, h.started,
        h.outcomes, h.cancelled, h.closed, home, hlive, fun _ => ⟨hclosed, rfl⟩⟩
      rw [h.blocked, closed hclosed]
      exact hrefused.symm
  · rename_i hup
    rw [List.isEmpty_iff, ← List.length_eq_zero_iff] at hup
    rw [if_neg (by omega)]
    exact h

/-- A worker that is gone with its task is one less. -/
theorem Shows.less {ended : Assignment ι} {rest : List (Assignment ι)} (h : Shows capacity c t)
    (hm : Manned capacity c)
    (hx : extract? (·.task.number = ended.task.number) c.running = some (ended, rest)) :
    ∃ left, extract? (·.number = ended.task.number) t.running = some (ended.task, left) ∧
      Shows capacity (Crew.lessened { c with running := rest })
        (Tasks.lessened { t with running := left }) := by
  have hshown := h.extract hx
  have hrunning := length_of_extract? hx
  have htasks := length_of_extract? hshown
  obtain ⟨home, hlive, hhome⟩ := h.live
  generalize hleft : rest.map (·.task) ++ c.receiver.task?.toList = left at hshown htasks
  have hless : Shows capacity { c with running := rest } { t with running := left } := by
    refine ⟨h.capacity, hleft.symm, h.queue, h.blocked, h.submitted, h.started, h.outcomes,
      h.cancelled, h.closed, home, ?_, hhome⟩
    rw [Tasks.live, length_workers] at hlive ⊢
    simp only at hlive ⊢
    omega
  exact ⟨left, hshown, hless.lessened hm.stocked.closed⟩

theorem Shows.crash {ended : Assignment ι} {rest : List (Assignment ι)} (h : Shows capacity c t)
    (hm : Manned capacity c) (hu : c.cancelled = false)
    (hx : extract? (·.task.number = ended.task.number) c.running = some (ended, rest)) :
    ∃ u, t.step? (.crash ended.task.number) = some u ∧
      Shows capacity (Crew.lessened { c with running := rest }) u := by
  obtain ⟨left, hshown, hless⟩ := h.less hm hx
  refine ⟨_, ?_, hless⟩
  simp [Tasks.step?, Tasks.work?, h.cancelled, hu, hshown]

theorem Shows.quitRunning {ended : Assignment ι} {rest : List (Assignment ι)}
    (h : Shows capacity c t) (hm : Manned capacity c) (hu : c.cancelled = true)
    (hx : extract? (·.task.number = ended.task.number) c.running = some (ended, rest)) :
    ∃ u, t.step? (.quit (.running ended.task.number)) = some u ∧
      Shows capacity (Crew.lessened { c with running := rest }) u := by
  obtain ⟨left, hshown, hless⟩ := h.less hm hx
  refine ⟨_, ?_, hless⟩
  simp [Tasks.step?, Tasks.quit?, h.cancelled, hu, hshown]

/-- A worker that quits with no task in its hands is one that was idle. -/
theorem Shows.quitIdle {bound line : List Nat} {receiver : Receiver ι} (h : Shows capacity c t)
    (hm : Manned capacity c) (hu : c.cancelled = true)
    (hreceiver : receiver.task? = c.receiver.task?)
    (hless : (workers { c with bound, line, receiver }).length + 1 = c.workers.length) :
    ∃ u, t.step? (.quit .idle) = some u ∧
      Shows capacity (Crew.lessened { c with bound, line, receiver }) u := by
  have hat : receiver.task?.toList.length ≤ receiver.worker?.toList.length := by
    cases receiver <;> simp [Receiver.task?, Receiver.worker?]
  obtain ⟨home, hlive, hhome⟩ := h.live
  have hhand := congrArg List.length h.running
  rw [inHand, ← hreceiver, List.length_append, List.length_map] at hhand
  rw [length_workers] at hless
  rw [Tasks.live] at hlive
  simp only at hless
  have hidle : t.idle ≠ 0 := by omega
  have hleft : Shows capacity { c with bound, line, receiver } { t with idle := t.idle - 1 } := by
    refine ⟨h.capacity, ?_, h.queue, h.blocked, h.submitted, h.started, h.outcomes,
      h.cancelled, h.closed, home, ?_, hhome⟩
    · rw [h.running, inHand, inHand, hreceiver]
    · rw [Tasks.live, length_workers]
      simp only
      omega
  refine ⟨_, ?_, hleft.lessened hm.stocked.closed⟩
  simp [Tasks.step?, Tasks.quit?, h.cancelled, hu, hidle]

/-- A submission that is given up shows unless it has been refused. -/
theorem Shows.withdraw (h : Shows capacity c t)
    (hu : c.submitter = .refused ∨ c.cancelled = true) :
    ∃ u, (c.shown? .withdraw).elim (some t) t.step? = some u ∧ Shows capacity c.withdraw u := by
  have given {t : Tasks ι ρ} (h : Shows capacity c t) :
      Shows capacity c.withdraw { t with blocked := none } :=
    ⟨h.capacity, h.running, h.queue, rfl, h.submitted, h.started, h.outcomes, h.cancelled,
      h.closed, h.live⟩
  cases htask : c.submitter.task? with
  | none =>
    have hblocked : { t with blocked := none } = t := by
      rw [← h.blocked.trans htask]
    refine ⟨t, ?_, hblocked ▸ given h⟩
    rw [shown?, htask]
    rfl
  | some task =>
    have hcancelled : c.cancelled = true := by
      rcases hu with hu | hu
      · rw [hu] at htask
        cases htask
      · exact hu
    refine ⟨_, ?_, given h⟩
    rw [shown?, htask]
    simp [Tasks.step?, Tasks.quit?, h.cancelled, hcancelled, h.blocked, htask]

/-- **Each event of a crew is the event of tasks that it shows as, or it does not show.** -/
theorem Shows.event (h : Shows capacity c t) (hm : Manned capacity c) (he : Happens c e d) :
    ∃ u, (c.shown? e).elim (some t) t.step? = some u ∧ Shows capacity d u := by
  cases he with
  | @submit input hc hs =>
    refine ⟨t.submit input, ?_, h.submit hm hc hs⟩
    show t.step? (.submit input) = _
    rw [Tasks.step?, h.closed, hc, h.blocked, hs]
    rfl
  | @enter task hu hs =>
    have hroom := hm.stocked.room
    rw [hs, Submitter.share] at hroom
    have hopen : c.closed = false := by
      rw [Bool.eq_false_iff]
      intro hclosed
      have haway := hm.stocked.closed hclosed
      rw [hs] at haway
      cases haway
    have hentered : Shows capacity { c with submitter := .away } { t with blocked := none } :=
      ⟨h.capacity, h.running, h.queue, rfl, h.submitted, h.started, h.outcomes, h.cancelled,
        h.closed, h.live⟩
    refine ⟨_, ?_, hentered.push hopen task⟩
    have hless : t.queue.length < t.capacity := by
      rw [h.queue, h.capacity]
      omega
    show t.step? .enter = _
    simp [Tasks.step?, Tasks.work?, h.cancelled, hu, h.blocked, hs, Submitter.task?, hless]
  | withdraw hs hu => exact h.withdraw hu
  | @arrive worker rest hu hx =>
    have hlength := length_workers_arrive hx
    have hreceiver := task?_ask { c with bound := rest } worker
    obtain ⟨receiver, line, -, heq⟩ := ask_eq { c with bound := rest } worker
    rw [heq] at hlength hreceiver ⊢
    refine ⟨t, rfl, h.capacity, ?_, h.queue, h.blocked, h.submitted, h.started, h.outcomes,
      h.cancelled, h.closed, hlength ▸ h.live⟩
    rw [h.running, inHand, inHand, hreceiver]
  | take hu hr hq =>
    obtain ⟨u, hstep, later⟩ := h.take hu hr hq
    refine ⟨u, ?_, later⟩
    rw [shown?, hq]
    exact hstep
  | @listen worker hu hr hq hc =>
    refine ⟨t, by rw [shown?, hq]; rfl, h.capacity, ?_, h.queue, h.blocked, h.submitted,
      h.started, h.outcomes, h.cancelled, h.closed, ?_⟩
    · rw [h.running, inHand, hr]
      rfl
    · obtain ⟨home, hlive, hhome⟩ := h.live
      refine ⟨home, ?_, hhome⟩
      rw [hlive, length_workers, length_workers, hr]
      rfl
  | @leave worker hu hr hq hc =>
    -- Whoever goes home is counted as idle from then on.
    have hat : c.receiver.worker? = some worker := by rw [hr]; rfl
    have hless := length_workers_handOn hat
    have hreceiver := task?_handOn c
    obtain ⟨receiver, line, -, heq⟩ := handOn_eq c
    rw [heq] at hless hreceiver ⊢
    refine ⟨t, by rw [shown?, hq]; rfl, h.capacity, ?_, h.queue, h.blocked, h.submitted,
      h.started, h.outcomes, h.cancelled, h.closed, ?_⟩
    · rw [h.running, inHand, inHand, hr, hreceiver]
      rfl
    · obtain ⟨home, hlive, -⟩ := h.live
      refine ⟨home + 1, ?_, fun _ => ⟨hc, hq⟩⟩
      omega
  | @begin worker task hr =>
    have hlength := length_workers_begin hr
    have hreceiver := task?_handOn c
    obtain ⟨receiver, line, -, heq⟩ := handOn_eq c
    rw [heq] at hlength hreceiver ⊢
    refine ⟨t, rfl, h.capacity, ?_, h.queue, h.blocked, h.submitted, h.started, h.outcomes,
      h.cancelled, h.closed, hlength ▸ h.live⟩
    rw [h.running, inHand, inHand, hr, hreceiver]
    simp [Receiver.task?]
  | @finish ended rest outcome hu hx => exact h.finish outcome hu hx
  | crash hu hx => exact h.crash hm hu hx
  | cancel =>
    exact ⟨t.cancel, rfl, h.capacity, h.running, h.queue, h.blocked, h.submitted, h.started,
      h.outcomes, rfl, h.closed, h.live⟩
  | quitBound hu hx =>
    have hless := length_workers_quit (.quitBound hu hx)
    rw [workers_lessened] at hless
    exact h.quitIdle hm hu rfl hless
  | quitLine hu hx =>
    have hless := length_workers_quit (.quitLine hu hx)
    rw [workers_lessened] at hless
    exact h.quitIdle hm hu rfl hless
  | quitReceiver hu hr =>
    have hless := length_workers_quit (.quitReceiver hu hr)
    have hnone : c.receiver.task? = none := by
      rcases hr with hr | hr <;> rw [hr] <;> rfl
    have hreceiver := task?_handOn c
    obtain ⟨receiver, line, -, heq⟩ := handOn_eq c
    rw [workers_lessened, heq] at hless
    rw [heq] at hreceiver ⊢
    exact h.quitIdle hm hu (hreceiver.trans hnone.symm) hless
  | quitRunning hu hx => exact h.quitRunning hm hu hx
  | close hs =>
    have hlength := congrArg List.length (workers_wake c)
    have hreceiver := task?_wake c
    obtain ⟨receiver, -, heq⟩ := wake_eq c
    refine ⟨{ t with closed := true }, ?_, ?_⟩
    · show t.step? .close = _
      rw [Tasks.step?, h.blocked, hs]
      rfl
    · rw [heq] at hlength hreceiver ⊢
      refine ⟨h.capacity, ?_, h.queue, h.blocked, h.submitted, h.started, h.outcomes,
        h.cancelled, rfl, ?_⟩
      · rw [h.running, inHand, inHand, hreceiver]
      · obtain ⟨home, hlive, hhome⟩ := h.live
        exact ⟨home, hlive.trans (congrArg (· + home) hlength.symm), fun hsome =>
          ⟨rfl, (hhome hsome).2⟩⟩

end Shows

/-- **What a crew shows in a run, tasks show in one of theirs.** -/
theorem shown_by_tasks {workers capacity : Nat} {ms : Moments ι ρ} {c : Crew ι ρ}
    (run : Traced (fresh workers capacity) ms c) :
    ∃ ns t, Tasks.Traced (.fresh workers capacity) ns t ∧ Shows (max capacity 1) c t := by
  have hboth : Manned (max capacity 1) c ∧
      ∃ ns t, Tasks.Traced (.fresh workers capacity) ns t ∧ Shows (max capacity 1) c t := by
    refine run.keeps (I := fun _ c => Manned (max capacity 1) c ∧
      ∃ ns t, Tasks.Traced (.fresh workers capacity) ns t ∧ Shows (max capacity 1) c t) ?_ ?_ ?_
    · exact ⟨⟨.fresh workers capacity, .fresh workers capacity⟩, [], _, .start,
        .fresh workers capacity⟩
    · rintro ms m ⟨hm, ns, t, tasks, shows⟩ hs
      have he := happens_turn hs
      refine ⟨hm.event he, ?_⟩
      obtain ⟨u, hstep, shows⟩ := shows.event hm he
      cases hshown : m.before.shown? m.event with
      | none =>
        rw [hshown] at hstep
        cases hstep
        exact ⟨ns, t, tasks, shows⟩
      | some shown =>
        rw [hshown] at hstep
        have hturn : t.turn? shown = some (u, ()) := Option.map_eq_some_iff.2 ⟨u, hstep, rfl⟩
        exact ⟨_, u, tasks.moment (m := ⟨t, shown, (), u⟩) hturn, shows⟩
    · exact fun _ hd => hd.elim
  exact hboth.2

/-- No more tasks are in hand at once than there are workers, no more are queued than the queue
holds, and none has two outcomes. -/
theorem within_of_traced {workers capacity : Nat} {ms : Moments ι ρ} {c : Crew ι ρ}
    (run : Traced (fresh workers capacity) ms c) :
    c.inHand.length ≤ max workers 1 ∧ c.queue.length ≤ max capacity 1 ∧
      c.outcomes.length ≤ c.submitted := by
  obtain ⟨ns, t, tasks, shows⟩ := shown_by_tasks run
  have hwithin := Tasks.within_of_traced tasks
  obtain ⟨lost, halted, haccount⟩ := Tasks.accounted_of_traced tasks
  have hlive := hwithin.live
  have hended := haccount.ended_le
  rw [Tasks.live, shows.running] at hlive
  rw [shows.outcomes, ← haccount.submitted, shows.submitted] at hended
  exact ⟨Nat.le_trans (Nat.le_add_left _ _) hlive, shows.queue ▸ hwithin.queue,
    Nat.le_trans (Nat.le_add_right _ _) hended⟩

end Crew
end ChainExplorer
