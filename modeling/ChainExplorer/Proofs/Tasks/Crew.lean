import ChainExplorer.Proofs.Trace
import ChainExplorer.Tasks.Crew

/-!
# What keeps a crew awake

Workers that share a receiver sleep in two places, in line for it and at it, and a submission sleeps
until there is room. Each of them relies on somebody else to be woken, and two invariants say that
there is somebody. The receiver is not free while a worker is in line, and nobody listens at it while
a task is in the queue (`Attended`). And the room that is left, the tasks in the queue and the
submission that has been let in make up the capacity, so a submission that waits has a full queue in
front of it (`Stocked`).

What the small steps of a crew change is said once for each, by the parts of the state that they
leave alone (`wake_eq`, `push_eq`, `handOn_eq`, `makeRoom_eq`, `ask_eq`).
-/

namespace ChainExplorer

/-- The task of a submission that may yet enter the queue. -/
def Submitter.task? {ι : Type} : Submitter ι → Option (TaskItem ι)
  | .blocked task | .granted task => some task
  | .away | .refused => none

theorem Submitter.task?_refuse {ι : Type} (s : Submitter ι) : s.refuse.task? = none := by
  cases s <;> rfl

theorem Submitter.share_eq_zero {ι : Type} {s : Submitter ι} (h : s.task? = none) :
    s.share = 0 := by
  cases s <;> first | rfl | cases h

namespace Crew

variable {ι ρ : Type}

/-! ## What an event does -/

/-- How an event goes. -/
inductive Happens (c : Crew ι ρ) : Event ι ρ → Crew ι ρ → Prop
  | submit {input : ι} (hc : c.closed = false) (hs : c.submitter = .away) :
      Happens c (.submit input) (c.submit input)
  | enter {task : TaskItem ι} (hu : c.cancelled = false) (hs : c.submitter = .granted task) :
      Happens c .enter (push { c with submitter := .away } task)
  | withdraw (hs : c.submitter ≠ .away) (hu : c.submitter = .refused ∨ c.cancelled = true) :
      Happens c .withdraw c.withdraw
  | arrive {worker : Nat} {rest : List Nat} (hu : c.cancelled = false)
      (hx : extract? (· = worker) c.bound = some (worker, rest)) :
      Happens c (.arrive worker) (ask { c with bound := rest } worker)
  | take {worker : Nat} {task : TaskItem ι} {rest : List (TaskItem ι)} (hu : c.cancelled = false)
      (hr : c.receiver = .held worker) (hq : c.queue = task :: rest) :
      Happens c .receive
        { makeRoom { c with queue := rest } with
          receiver := .laden worker task, started := c.started + 1 }
  | listen {worker : Nat} (hu : c.cancelled = false) (hr : c.receiver = .held worker)
      (hq : c.queue = []) (hc : c.closed = false) :
      Happens c .receive { c with receiver := .listening worker }
  | leave {worker : Nat} (hu : c.cancelled = false) (hr : c.receiver = .held worker)
      (hq : c.queue = []) (hc : c.closed = true) : Happens c .receive c.handOn
  | begin {worker : Nat} {task : TaskItem ι} (hr : c.receiver = .laden worker task) :
      Happens c .begin { c.handOn with running := c.running ++ [⟨worker, task⟩] }
  | finish {ended : Assignment ι} {rest : List (Assignment ι)} {outcome : ρ}
      (hu : c.cancelled = false)
      (hx : extract? (·.task.number = ended.task.number) c.running = some (ended, rest)) :
      Happens c (.finish ended.task.number outcome)
        { c with
          bound := c.bound ++ [ended.worker], running := rest,
          outcomes := c.outcomes ++ [outcome] }
  | crash {ended : Assignment ι} {rest : List (Assignment ι)} (hu : c.cancelled = false)
      (hx : extract? (·.task.number = ended.task.number) c.running = some (ended, rest)) :
      Happens c (.crash ended.task.number) (lessened { c with running := rest })
  | cancel : Happens c .cancel c.cancel
  | quitBound {worker : Nat} {rest : List Nat} (hu : c.cancelled = true)
      (hx : extract? (· = worker) c.bound = some (worker, rest)) :
      Happens c (.quit (.bound worker)) (lessened { c with bound := rest })
  | quitLine {worker : Nat} {rest : List Nat} (hu : c.cancelled = true)
      (hx : extract? (· = worker) c.line = some (worker, rest)) :
      Happens c (.quit (.line worker)) (lessened { c with line := rest })
  | quitReceiver {worker : Nat} (hu : c.cancelled = true)
      (hr : c.receiver = .held worker ∨ c.receiver = .listening worker) :
      Happens c (.quit .receiver) c.handOn.lessened
  | quitRunning {ended : Assignment ι} {rest : List (Assignment ι)} (hu : c.cancelled = true)
      (hx : extract? (·.task.number = ended.task.number) c.running = some (ended, rest)) :
      Happens c (.quit (.running ended.task.number)) (lessened { c with running := rest })
  | close (hs : c.submitter = .away) : Happens c .close { c.wake with closed := true }

theorem isAway_iff {s : Submitter ι} : s.isAway = true ↔ s = .away := by
  cases s <;> simp [Submitter.isAway]

/-- How a worker's look for a task goes. -/
theorem happens_look {c : Crew ι ρ} {worker : Nat} (hu : c.cancelled = false)
    (hr : c.receiver = .held worker) : Happens c .receive (c.look worker) := by
  unfold look
  split
  · rename_i task rest hq
    exact .take hu hr hq
  · rename_i hq
    split
    · rename_i hc
      exact .leave hu hr hq hc
    · rename_i hc
      exact .listen hu hr hq (Bool.eq_false_iff.2 hc)

theorem happens_work {c d : Crew ι ρ} {e : Event ι ρ} (hu : c.cancelled = false)
    (h : c.work? e = some d) : Happens c e d := by
  cases e with
  | enter =>
    simp only [work?] at h
    split at h
    · rename_i task hs
      obtain rfl := Option.some.inj h
      exact .enter hu hs
    · cases h
  | arrive worker =>
    obtain ⟨⟨other, rest⟩, hx, rfl⟩ := Option.map_eq_some_iff.1 h
    obtain rfl : other = worker := of_decide_eq_true (extract?_eq_some hx).1
    exact .arrive hu hx
  | receive =>
    simp only [work?] at h
    split at h
    · rename_i worker hr
      obtain rfl := Option.some.inj h
      exact happens_look hu hr
    · cases h
  | finish number outcome =>
    obtain ⟨⟨ended, rest⟩, hx, rfl⟩ := Option.map_eq_some_iff.1 h
    obtain rfl : ended.task.number = number := of_decide_eq_true (extract?_eq_some hx).1
    exact .finish hu hx
  | crash number =>
    obtain ⟨⟨ended, rest⟩, hx, rfl⟩ := Option.map_eq_some_iff.1 h
    obtain rfl : ended.task.number = number := of_decide_eq_true (extract?_eq_some hx).1
    exact .crash hu hx
  | submit | withdraw | begin | cancel | quit | close => cases h

theorem happens_quit {c d : Crew ι ρ} {station : Station} (hu : c.cancelled = true)
    (h : c.quit? station = some d) : Happens c (.quit station) d := by
  cases station with
  | bound worker =>
    obtain ⟨⟨other, rest⟩, hx, rfl⟩ := Option.map_eq_some_iff.1 h
    obtain rfl : other = worker := of_decide_eq_true (extract?_eq_some hx).1
    exact .quitBound hu hx
  | line worker =>
    obtain ⟨⟨other, rest⟩, hx, rfl⟩ := Option.map_eq_some_iff.1 h
    obtain rfl : other = worker := of_decide_eq_true (extract?_eq_some hx).1
    exact .quitLine hu hx
  | receiver =>
    simp only [quit?] at h
    split at h
    · rename_i hr
      obtain rfl := Option.some.inj h
      exact .quitReceiver hu (.inl hr)
    · rename_i hr
      obtain rfl := Option.some.inj h
      exact .quitReceiver hu (.inr hr)
    · cases h
    · cases h
  | running number =>
    obtain ⟨⟨ended, rest⟩, hx, rfl⟩ := Option.map_eq_some_iff.1 h
    obtain rfl : ended.task.number = number := of_decide_eq_true (extract?_eq_some hx).1
    exact .quitRunning hu hx

/-- **An event goes one of these ways.** -/
theorem happens {c d : Crew ι ρ} {e : Event ι ρ} (h : c.step? e = some d) : Happens c e d := by
  cases e with
  | submit input =>
    simp only [step?] at h
    split at h
    · cases h
    · rename_i hn
      simp only [Bool.or_eq_true, Bool.not_eq_true', not_or, Bool.not_eq_true,
        Bool.not_eq_false, isAway_iff] at hn
      obtain rfl := Option.some.inj h
      exact .submit hn.1 hn.2
  | withdraw =>
    simp only [step?] at h
    cases hs : c.submitter with
    | away =>
      rw [hs] at h
      cases h
    | refused =>
      rw [hs] at h
      obtain rfl := Option.some.inj h
      exact .withdraw (by simp [hs]) (.inl hs)
    | blocked | granted =>
      rw [hs] at h
      simp only at h
      split at h
      · rename_i hu
        obtain rfl := Option.some.inj h
        exact .withdraw (by simp [hs]) (.inr hu)
      · cases h
  | begin =>
    simp only [step?] at h
    split at h
    · rename_i worker task hr
      obtain rfl := Option.some.inj h
      exact .begin hr
    · cases h
  | cancel =>
    obtain rfl := Option.some.inj h
    exact .cancel
  | quit station =>
    simp only [step?] at h
    split at h
    · rename_i hu
      exact happens_quit hu h
    · cases h
  | close =>
    simp only [step?] at h
    split at h
    · rename_i hs
      obtain rfl := Option.some.inj h
      exact .close (isAway_iff.1 hs)
    · cases h
  | enter | arrive | receive | finish | crash =>
    simp only [step?] at h
    split at h
    · cases h
    · rename_i hu
      exact happens_work (Bool.eq_false_iff.2 hu) h

/-- Nobody takes a task up any more. -/
def Stopped (c : Crew ι ρ) : Prop := c.cancelled = true ∨ c.workers = []

/-- How a submission is taken in. -/
inductive Submitted (c : Crew ι ρ) (task : TaskItem ι) : Crew ι ρ → Prop
  | dropped (stopped : c.Stopped) : Submitted c task { c with submitted := c.submitted + 1 }
  | queued (up : ¬ c.Stopped) {room : Nat} (hroom : c.room = room + 1) :
      Submitted c task (push { c with submitted := c.submitted + 1, room } task)
  | blocked (up : ¬ c.Stopped) (full : c.room = 0) :
      Submitted c task { c with submitted := c.submitted + 1, submitter := .blocked task }

theorem submitted_submit (c : Crew ι ρ) (input : ι) :
    Submitted c ⟨c.submitted, input⟩ (c.submit input) := by
  simp only [submit]
  split
  · rename_i hstopped
    refine .dropped ?_
    rw [Bool.or_eq_true, List.isEmpty_iff] at hstopped
    exact hstopped
  · rename_i hup
    rw [Bool.or_eq_true, List.isEmpty_iff] at hup
    split
    · rename_i hfull
      exact .blocked hup hfull
    · rename_i room hroom
      exact .queued hup hroom

/-! ## The receiver -/

/-- The receiver is free only where nobody is in line for it, and nobody listens at it while a task
is in the queue or none will come any more. -/
structure Attended (c : Crew ι ρ) : Prop where
  line : c.receiver = .free → c.line = []
  queue : ∀ worker, c.receiver = .listening worker → c.queue = [] ∧ c.closed = false

section Attended

variable {c d : Crew ι ρ}

theorem Attended.fresh (workers capacity : Nat) : Attended (fresh workers capacity : Crew ι ρ) where
  line _ := rfl
  queue := nofun

/-- Whoever hands the receiver on leaves it to the next, or free with nobody in line. -/
theorem Attended.handOn (c : Crew ι ρ) : Attended c.handOn := by
  unfold Crew.handOn
  split
  · rename_i hline
    exact ⟨fun _ => hline, nofun⟩
  · exact ⟨nofun, nofun⟩

/-- After a wake-up nobody listens. -/
theorem wake_ne_listening (c : Crew ι ρ) (worker : Nat) : c.wake.receiver ≠ .listening worker := by
  unfold wake
  split
  · exact nofun
  · rename_i hnot
    exact hnot worker

theorem Attended.wake (h : Attended c) : Attended c.wake := by
  refine ⟨?_, fun worker hr => absurd hr (wake_ne_listening c worker)⟩
  unfold Crew.wake
  split
  · exact nofun
  · exact h.line

theorem Attended.push (h : Attended c) (task : TaskItem ι) : Attended (c.push task) :=
  ⟨h.wake.line, fun worker hr => absurd hr (wake_ne_listening c worker)⟩

theorem Attended.ask (h : Attended c) (worker : Nat) : Attended (c.ask worker) := by
  unfold Crew.ask
  split
  · exact ⟨nofun, nofun⟩
  · rename_i htaken
    exact ⟨fun hr => absurd hr htaken, h.queue⟩

theorem Attended.submit (h : Attended c) (input : ι) : Attended (c.submit input) := by
  have hnew := submitted_submit c input
  generalize c.submit input = d at hnew
  cases hnew with
  | dropped | blocked => exact ⟨h.line, h.queue⟩
  | @queued _ room =>
    have hcounted : Attended { c with submitted := c.submitted + 1, room } := ⟨h.line, h.queue⟩
    exact hcounted.push _

theorem Attended.abandon (h : Attended c) : Attended c.abandon :=
  ⟨h.line, fun worker hr => ⟨rfl, (h.queue worker hr).2⟩⟩

theorem Attended.lessened (h : Attended c) : Attended c.lessened := by
  unfold Crew.lessened
  split
  · exact h.abandon
  · exact h

/-- **Every event keeps the receiver attended.** -/
theorem Attended.event {e : Event ι ρ} (h : Attended c) (he : Happens c e d) : Attended d := by
  cases he with
  | submit => exact h.submit _
  | enter =>
    have hless : Attended { c with submitter := .away } := ⟨h.line, h.queue⟩
    exact hless.push _
  | withdraw | cancel => exact ⟨h.line, h.queue⟩
  | @arrive worker rest =>
    have hless : Attended { c with bound := rest } := ⟨h.line, h.queue⟩
    exact hless.ask worker
  | take => exact ⟨nofun, nofun⟩
  | listen hu hr hq hc => exact ⟨nofun, fun _ _ => ⟨hq, hc⟩⟩
  | leave => exact .handOn c
  | begin => exact ⟨(Attended.handOn c).line, (Attended.handOn c).queue⟩
  | finish => exact ⟨h.line, h.queue⟩
  | crash | quitRunning | quitBound => exact Attended.lessened ⟨h.line, h.queue⟩
  | @quitLine worker rest hu hx =>
    refine Attended.lessened ⟨fun hfree => ?_, h.queue⟩
    rw [h.line hfree] at hx
    cases hx
  | quitReceiver => exact (Attended.handOn c).lessened
  | close => exact ⟨h.wake.line, fun worker hr => absurd hr (wake_ne_listening c worker)⟩

end Attended

/-! ## The queue -/

/-- The room that is left, the tasks in the queue and the submission that has been let in make up the
capacity, and there is no room left where a submission waits. Nothing waits for workers that are all
gone, and no submission is under way once there will be none. -/
structure Stocked (capacity : Nat) (c : Crew ι ρ) : Prop where
  room : c.room + c.queue.length + c.submitter.share = capacity
  blocked : ∀ task, c.submitter = .blocked task → c.room = 0
  forsaken : c.workers = [] → c.queue = [] ∧ c.submitter.task? = none
  closed : c.closed = true → c.submitter = .away

section Workers

variable {c d : Crew ι ρ}

/-- A wake-up changes nothing but the receiver, and not who is at it. -/
theorem wake_eq (c : Crew ι ρ) : ∃ receiver : Receiver ι, receiver.worker? = c.receiver.worker? ∧
    c.wake = { c with receiver } := by
  unfold wake
  split
  · rename_i worker hr
    exact ⟨.held worker, by rw [hr]; rfl, rfl⟩
  · exact ⟨c.receiver, rfl, rfl⟩

theorem workers_wake (c : Crew ι ρ) : c.wake.workers = c.workers := by
  obtain ⟨receiver, hworker, heq⟩ := wake_eq c
  simp only [heq, workers, waiting, hworker]

theorem workers_push (c : Crew ι ρ) (task : TaskItem ι) : (c.push task).workers = c.workers :=
  workers_wake c

theorem push_eq (c : Crew ι ρ) (task : TaskItem ι) : ∃ receiver : Receiver ι,
    c.push task = { c with receiver, queue := c.queue ++ [task] } := by
  obtain ⟨receiver, -, heq⟩ := wake_eq c
  exact ⟨receiver, by rw [push, heq]⟩

/-- Handing the receiver on changes nothing but the receiver and the line. -/
theorem handOn_eq (c : Crew ι ρ) : ∃ (receiver : Receiver ι) (line : List Nat),
    receiver.worker?.toList ++ line = c.line ∧ c.handOn = { c with receiver, line } := by
  unfold handOn
  split
  · rename_i hline
    exact ⟨.free, [], hline.symm, by rw [hline]⟩
  · rename_i next rest hline
    exact ⟨.held next, rest, hline.symm, rfl⟩

/-- The submission that waits is let in, or there is more room. -/
structure LetIn (c : Crew ι ρ) (room : Nat) (submitter : Submitter ι) : Prop where
  total : room + submitter.share = c.room + c.submitter.share + 1
  task : submitter.task? = c.submitter.task?
  unblocked : ∀ task, submitter ≠ .blocked task
  others : c.submitter.task? = none → submitter = c.submitter

theorem makeRoom_eq (c : Crew ι ρ) : ∃ room submitter, LetIn c room submitter ∧
    c.makeRoom = { c with room, submitter } := by
  unfold makeRoom
  split
  · rename_i task hs
    refine ⟨c.room, .granted task, ⟨?_, ?_, nofun, ?_⟩, rfl⟩ <;> rw [hs]
    · rfl
    · rfl
    · exact nofun
  · rename_i hs
    exact ⟨c.room + 1, c.submitter, ⟨Nat.add_right_comm _ _ _, rfl, hs, fun _ => rfl⟩, rfl⟩

/-- Whoever asks for the receiver is at it afterwards or in line for it. -/
theorem ask_eq (c : Crew ι ρ) (worker : Nat) : ∃ (receiver : Receiver ι) (line : List Nat),
    (line ++ receiver.worker?.toList).Perm (c.line ++ c.receiver.worker?.toList ++ [worker]) ∧
      c.ask worker = { c with receiver, line } := by
  unfold ask
  split
  · rename_i hr
    refine ⟨.held worker, c.line, ?_, rfl⟩
    rw [hr]
    exact .of_eq (by simp [Receiver.worker?])
  · refine ⟨c.receiver, c.line ++ [worker], ?_, rfl⟩
    rw [List.append_assoc, List.append_assoc]
    exact List.perm_append_comm.append_left c.line

theorem workers_ne_nil_of_receiver {worker : Nat} (h : c.receiver.worker? = some worker) :
    c.workers ≠ [] := by
  simp [workers, waiting, h]

end Workers

section Stocked

variable {capacity : Nat} {c d : Crew ι ρ}

theorem Stocked.fresh (workers capacity : Nat) :
    Stocked (max capacity 1) (fresh workers capacity : Crew ι ρ) where
  room := rfl
  blocked := nofun
  forsaken hnone := by
    have hmem : 0 ∈ (Crew.fresh workers capacity : Crew ι ρ).workers := by
      simp only [Crew.workers, waiting, Crew.fresh, List.mem_append, List.mem_range]
      omega
    rw [hnone] at hmem
    cases hmem
  closed := nofun

/-- A task that has been given room enters the queue. -/
theorem Stocked.push {task : TaskItem ι} (room : c.room + 1 + c.queue.length = capacity)
    (hs : c.submitter = .away) (up : c.workers ≠ []) : Stocked capacity (c.push task) := by
  have hup : (c.push task).workers ≠ [] := workers_push c task ▸ up
  obtain ⟨receiver, heq⟩ := push_eq c task
  rw [heq] at hup ⊢
  refine ⟨?_, ?_, fun hnone => absurd hnone hup, fun _ => hs⟩
  · simp only [hs, Submitter.share, List.length_append, List.length_singleton]
    omega
  · intro other hblocked
    rw [hs] at hblocked
    cases hblocked

theorem Stocked.submit {input : ι} (h : Stocked capacity c) (hc : c.closed = false)
    (hs : c.submitter = .away) : Stocked capacity (c.submit input) := by
  have hroom := h.room
  rw [hs, Submitter.share] at hroom
  have hnew := submitted_submit c input
  generalize c.submit input = d at hnew
  cases hnew with
  | dropped => exact ⟨h.room, h.blocked, h.forsaken, h.closed⟩
  | queued up hmore =>
    refine Stocked.push ?_ hs fun hnone => up (.inr hnone)
    simp only [hmore] at hroom ⊢
    exact hroom
  | blocked up hfull =>
    refine ⟨?_, fun _ _ => hfull, fun hnone => absurd (.inr hnone) up, fun hclosed => ?_⟩
    · simp only [Submitter.share, hfull] at hroom ⊢
      exact hroom
    · rw [hc] at hclosed
      cases hclosed

/-- A worker that takes a task makes room for another. -/
theorem Stocked.take {worker : Nat} {task : TaskItem ι} {rest : List (TaskItem ι)}
    (h : Stocked capacity c) (hq : c.queue = task :: rest) :
    Stocked capacity
      { makeRoom { c with queue := rest } with
        receiver := .laden worker task, started := c.started + 1 } := by
  obtain ⟨room, submitter, letIn, heq⟩ := makeRoom_eq { c with queue := rest }
  have hroom := h.room
  have htotal := letIn.total
  rw [hq, List.length_cons] at hroom
  rw [heq]
  refine ⟨?_, fun waiting hs => absurd hs (letIn.unblocked waiting),
    fun hnone => absurd hnone (workers_ne_nil_of_receiver rfl), fun hc => ?_⟩
  · simp only at htotal ⊢
    omega
  · have haway : c.submitter = .away := h.closed hc
    exact (letIn.others (haway ▸ rfl)).trans haway

theorem Stocked.handOn (h : Stocked capacity c) (hs : c.submitter = .away) (hq : c.queue = []) :
    Stocked capacity c.handOn := by
  obtain ⟨receiver, line, -, heq⟩ := handOn_eq c
  rw [heq]
  refine ⟨h.room, h.blocked, fun _ => ⟨hq, ?_⟩, h.closed⟩
  simp only [hs, Submitter.task?]

theorem Stocked.abandon (room : c.room + c.queue.length + c.submitter.share = capacity)
    (closed : c.closed = true → c.submitter = .away) : Stocked capacity c.abandon := by
  have htask := Submitter.task?_refuse c.submitter
  refine ⟨?_, ?_, fun _ => ⟨rfl, htask⟩, fun hc => congrArg Submitter.refuse (closed hc)⟩
  · simp only [Crew.abandon, Submitter.share_eq_zero htask, List.length_nil]
    exact room
  · intro task hblocked
    rw [show c.submitter.refuse = _ from hblocked] at htask
    cases htask

/-- With the last worker goes all that waits. -/
theorem Stocked.lessened (room : c.room + c.queue.length + c.submitter.share = capacity)
    (blocked : ∀ task, c.submitter = .blocked task → c.room = 0)
    (closed : c.closed = true → c.submitter = .away) : Stocked capacity c.lessened := by
  unfold Crew.lessened
  split
  · exact .abandon room closed
  · rename_i hleft
    exact ⟨room, blocked, fun hnone => absurd (List.isEmpty_iff.2 hnone) hleft, closed⟩

/-- **Every event keeps the account of the queue.** -/
theorem Stocked.event {e : Event ι ρ} (h : Stocked capacity c) (he : Happens c e d) :
    Stocked capacity d := by
  cases he with
  | submit hc hs => exact h.submit hc hs
  | @enter task hu hs =>
    have up : c.workers ≠ [] := by
      intro hnone
      have htask := (h.forsaken hnone).2
      rw [hs] at htask
      cases htask
    have hroom := h.room
    rw [hs, Submitter.share] at hroom
    refine Stocked.push ?_ rfl up
    simp only
    omega
  | withdraw =>
    refine ⟨?_, nofun, fun hnone => ⟨(h.forsaken hnone).1, rfl⟩, fun _ => rfl⟩
    rw [← h.room]
    simp only [Crew.withdraw, Submitter.share]
    omega
  | @arrive worker rest hu hx =>
    obtain ⟨receiver, line, hperm, heq⟩ := ask_eq { c with bound := rest } worker
    rw [heq]
    refine ⟨h.room, h.blocked, fun hnone => ?_, h.closed⟩
    have hmem : worker ∈ line ++ receiver.worker?.toList := hperm.mem_iff.2 (by simp)
    simp only [workers, waiting, List.append_eq_nil_iff] at hnone
    simp [hnone] at hmem
  | take hu hr hq => exact h.take hq
  | listen hu hr hq hc =>
    exact ⟨h.room, h.blocked, fun hnone => absurd hnone (workers_ne_nil_of_receiver rfl), h.closed⟩
  | leave hu hr hq hc => exact h.handOn (h.closed hc) hq
  | begin hr =>
    obtain ⟨receiver, line, -, heq⟩ := handOn_eq c
    rw [heq]
    exact ⟨h.room, h.blocked, fun hnone => by simp [workers] at hnone, h.closed⟩
  | finish =>
    exact ⟨h.room, h.blocked, fun hnone => by simp [workers, waiting] at hnone, h.closed⟩
  | crash | quitBound | quitLine | quitRunning => exact .lessened h.room h.blocked h.closed
  | quitReceiver =>
    obtain ⟨receiver, line, -, heq⟩ := handOn_eq c
    rw [heq]
    exact .lessened h.room h.blocked h.closed
  | cancel => exact ⟨h.room, h.blocked, h.forsaken, h.closed⟩
  | close hs =>
    obtain ⟨receiver, hworker, heq⟩ := wake_eq c
    have hworkers : workers { c with receiver, closed := true } = c.workers := by
      simp only [workers, waiting, hworker]
    rw [heq]
    exact ⟨h.room, h.blocked, fun hnone => h.forsaken (hworkers ▸ hnone), fun _ => hs⟩

end Stocked

/-! ## Runs -/

def turn? (c : Crew ι ρ) (e : Event ι ρ) : Option (Crew ι ρ × Unit) := (c.step? e).map (·, ())

/-- What has happened to some workers, in its order. -/
abbrev Moments (ι ρ : Type) := List (Moment (Crew ι ρ) (Event ι ρ) Unit)

/-- A run with its moments. -/
abbrev Traced (c : Crew ι ρ) (ms : Moments ι ρ) (d : Crew ι ρ) : Prop :=
  Trace turn? (fun _ _ => False) c ms d

theorem happens_turn {c d : Crew ι ρ} {e : Event ι ρ} {o : Unit}
    (hs : c.turn? e = some (d, o)) : Happens c e d := by
  obtain ⟨next, hstep, heq⟩ := Option.map_eq_some_iff.1 hs
  cases heq
  exact happens hstep

/-- Nobody sleeps whom nobody will wake. -/
structure Manned (capacity : Nat) (c : Crew ι ρ) : Prop where
  attended : Attended c
  stocked : Stocked capacity c

theorem Manned.event {capacity : Nat} {c d : Crew ι ρ} {e : Event ι ρ} (h : Manned capacity c)
    (he : Happens c e d) : Manned capacity d :=
  ⟨h.attended.event he, h.stocked.event he⟩

end Crew
end ChainExplorer
