import ChainExplorer.Proofs.Inevitable
import ChainExplorer.Proofs.Tasks.Crew

/-!
# No task waits while a worker sleeps

Without anything from outside the workers of a crew come to rest: each step that they take by
themselves lowers a weight (`Turn.lowers`). At rest a worker that is up is at work, or it is at the
receiver or behind somebody who is, and then there is no task to be had, nor a submission that waits
(`AtRest.conserves`).

That says something only if workers do not get lost on the way. So they are counted: those that are
up, those that went down with their task, and those that have gone home, which they do when
everything is over and not before (`Staffed`).

After a cancellation the way to rest is the way out: every worker quits, and so does the submission
that waits (`deserted_inevitable`).
-/

namespace ChainExplorer

/-- The steps that a worker at the receiver has still to take there. -/
def Receiver.weight {ι : Type} : Receiver ι → Nat
  | .free | .listening _ => 0
  | .held _ | .laden _ _ => 1

/-- The most steps that a submission can still bring about. -/
def Submitter.weight {ι : Type} : Submitter ι → Nat
  | .away => 0
  | .refused => 1
  | .blocked _ | .granted _ => 3

namespace Crew

variable {ι ρ : Type}

/-! ## Rest -/

/-- Whether an event is a step that the workers and the submission take by themselves. -/
def Event.isOwn : Event ι ρ → Bool
  | .enter | .withdraw | .arrive _ | .receive | .begin | .quit _ => true
  | .submit _ | .finish _ _ | .crash _ | .cancel | .close => false

/-- Nobody can go on without something from outside: the end of a task, or another submission. -/
def AtRest (c : Crew ι ρ) : Prop := ∀ e, e.isOwn = true → c.step? e = none

/-- A step that the workers and the submission take by themselves. -/
def Turn (c d : Crew ι ρ) : Prop := ∃ e, e.isOwn = true ∧ c.step? e = some d

/-- Nobody is on the way, and nobody is awake at the receiver or in a submission. -/
structure Asleep (c : Crew ι ρ) : Prop where
  bound : c.bound = []
  receiver : c.receiver = .free ∨ ∃ worker, c.receiver = .listening worker
  submitter : c.submitter = .away ∨ ∃ task, c.submitter = .blocked task

/-- Everybody has quit. -/
structure Deserted (c : Crew ι ρ) : Prop where
  workers : c.workers = []
  submitter : c.submitter = .away

section Rest

variable {c d : Crew ι ρ} {station : Station}

theorem workers_eq_nil : c.workers = [] ↔
    c.bound = [] ∧ c.line = [] ∧ c.receiver = .free ∧ c.running = [] := by
  have hreceiver : c.receiver.worker? = none ↔ c.receiver = .free := by
    cases c.receiver <;> simp [Receiver.worker?]
  simp only [workers, waiting, List.append_eq_nil_iff, List.map_eq_nil_iff,
    Option.toList_eq_nil_iff, hreceiver, and_assoc]

/-- A crew at rest that is not cancelled is asleep. -/
theorem AtRest.asleep (h : c.AtRest) (hu : c.cancelled = false) : c.Asleep := by
  refine ⟨?_, ?_, ?_⟩
  · cases hb : c.bound with
    | nil => rfl
    | cons worker rest =>
      have hstep := h (.arrive worker) rfl
      simp [step?, work?, hu, hb, extract?] at hstep
  · cases hr : c.receiver with
    | free => exact .inl rfl
    | listening worker => exact .inr ⟨worker, rfl⟩
    | held worker =>
      have hstep := h .receive rfl
      simp [step?, work?, hu, hr] at hstep
    | laden worker task =>
      have hstep := h .begin rfl
      simp [step?, hr] at hstep
  · cases hs : c.submitter with
    | away => exact .inl rfl
    | blocked task => exact .inr ⟨task, rfl⟩
    | granted task =>
      have hstep := h .enter rfl
      simp [step?, work?, hu, hs] at hstep
    | refused =>
      have hstep := h .withdraw rfl
      simp [step?, hs] at hstep

/-- In one that is cancelled everybody has quit. -/
theorem AtRest.deserted (h : c.AtRest) (hu : c.cancelled = true) : c.Deserted := by
  refine ⟨workers_eq_nil.2 ⟨?_, ?_, ?_, ?_⟩, ?_⟩
  · cases hb : c.bound with
    | nil => rfl
    | cons worker rest =>
      have hstep := h (.quit (.bound worker)) rfl
      simp [step?, quit?, hu, hb, extract?] at hstep
  · cases hl : c.line with
    | nil => rfl
    | cons worker rest =>
      have hstep := h (.quit (.line worker)) rfl
      simp [step?, quit?, hu, hl, extract?] at hstep
  · cases hr : c.receiver with
    | free => rfl
    | laden worker task =>
      have hstep := h .begin rfl
      simp [step?, hr] at hstep
    | held | listening =>
      have hstep := h (.quit .receiver) rfl
      simp [step?, quit?, hu, hr] at hstep
  · cases hr : c.running with
    | nil => rfl
    | cons a rest =>
      have hstep := h (.quit (.running a.task.number)) rfl
      simp [step?, quit?, hu, hr, extract?] at hstep
  · cases hs : c.submitter with
    | away => rfl
    | blocked | granted | refused =>
      have hstep := h .withdraw rfl
      simp [step?, hu, hs] at hstep

theorem Asleep.atRest (h : c.Asleep) (hu : c.cancelled = false) : c.AtRest := by
  intro e hown
  cases e with
  | enter =>
    rcases h.submitter with hs | ⟨task, hs⟩ <;> simp [step?, work?, hs]
  | withdraw =>
    rcases h.submitter with hs | ⟨task, hs⟩ <;> simp [step?, hu, hs]
  | arrive worker => simp [step?, work?, h.bound, extract?]
  | receive =>
    rcases h.receiver with hr | ⟨worker, hr⟩ <;> simp [step?, work?, hr]
  | begin =>
    rcases h.receiver with hr | ⟨worker, hr⟩ <;> simp [step?, hr]
  | quit station => simp [step?, hu]
  | submit | finish | crash | cancel | close => cases hown

theorem Deserted.atRest (h : c.Deserted) (hu : c.cancelled = true) : c.AtRest := by
  obtain ⟨hb, hl, hr, hrunning⟩ := workers_eq_nil.1 h.workers
  intro e hown
  cases e with
  | enter | arrive | receive => simp [step?, hu]
  | withdraw => simp [step?, h.submitter]
  | begin => simp [step?, hr]
  | quit station => cases station <;> simp [step?, quit?, hb, hl, hr, hrunning, extract?]
  | submit | finish | crash | cancel | close => cases hown

theorem readyWorker?_eq_none : c.readyWorker? = none ↔
    c.bound = [] ∧ (c.receiver = .free ∨ ∃ worker, c.receiver = .listening worker) := by
  unfold readyWorker?
  cases hr : c.receiver <;> simp

theorem quitter?_eq_none : c.quitter? = none ↔ c.Deserted := by
  have hnobody : c.quitter? = none ↔ c.workers = [] ∧ c.submitter = .away := by
    rw [workers_eq_nil]
    unfold quitter?
    cases hs : c.submitter with
    | blocked | granted | refused => simp
    | away =>
      cases hr : c.receiver with
      | held | listening | laden => simp
      | free => cases c.bound <;> cases c.line <;> cases c.running <;> simp
  exact hnobody.trans ⟨fun h => ⟨h.1, h.2⟩, fun h => ⟨h.workers, h.submitter⟩⟩

/-- **A crew is at rest exactly if it names nothing that it can do.** -/
theorem ready?_eq_none : c.ready? = none ↔ c.AtRest := by
  unfold ready?
  cases hu : c.cancelled with
  | true =>
    rw [if_pos rfl]
    exact quitter?_eq_none.trans ⟨fun h => h.atRest hu, fun h => h.deserted hu⟩
  | false =>
    rw [if_neg Bool.false_ne_true]
    refine Iff.trans ?_ ⟨fun h => h.atRest hu, fun h => h.asleep hu⟩
    constructor
    · intro h
      split at h
      · cases h
      · cases h
      · rename_i hs
        obtain ⟨hb, hr⟩ := readyWorker?_eq_none.1 h
        exact ⟨hb, hr, .inl hs⟩
      · rename_i task hs
        obtain ⟨hb, hr⟩ := readyWorker?_eq_none.1 h
        exact ⟨hb, hr, .inr ⟨task, hs⟩⟩
    · intro h
      have hworker := readyWorker?_eq_none.2 ⟨h.bound, h.receiver⟩
      rcases h.submitter with hs | ⟨task, hs⟩ <;> rw [hs, hworker]

/-! ## Workers that go -/

theorem length_workers (c : Crew ι ρ) : c.workers.length
    = c.bound.length + c.line.length + c.receiver.worker?.toList.length + c.running.length := by
  simp only [workers, waiting, List.length_append, List.length_map]

theorem workers_lessened (c : Crew ι ρ) : c.lessened.workers = c.workers := by
  unfold lessened
  split <;> rfl

/-- Whoever hands the receiver on is the only one who goes. -/
theorem length_workers_handOn {worker : Nat} (h : c.receiver.worker? = some worker) :
    c.handOn.workers.length + 1 = c.workers.length := by
  obtain ⟨receiver, line, hline, heq⟩ := handOn_eq c
  have hlength := congrArg List.length hline
  rw [List.length_append] at hlength
  rw [heq, length_workers, length_workers, h]
  simp only [Option.toList_some, List.length_singleton]
  omega

/-- A worker that asks for the receiver does not get lost. -/
theorem length_workers_arrive {worker : Nat} {rest : List Nat}
    (hx : extract? (· = worker) c.bound = some (worker, rest)) :
    (ask { c with bound := rest } worker).workers.length = c.workers.length := by
  obtain ⟨receiver, line, hperm, heq⟩ := ask_eq { c with bound := rest } worker
  have hbound := length_of_extract? hx
  have hlength := hperm.length_eq
  simp only [List.length_append, List.length_singleton] at hlength
  rw [heq, length_workers, length_workers]
  simp only
  omega

/-- Nor does one that leaves the receiver with a task. -/
theorem length_workers_begin {worker : Nat} {task : TaskItem ι}
    (hr : c.receiver = .laden worker task) :
    (workers { c.handOn with running := c.running ++ [⟨worker, task⟩] }).length
      = c.workers.length := by
  have hat : c.receiver.worker? = some worker := by rw [hr]; rfl
  have hless := length_workers_handOn hat
  obtain ⟨receiver, line, -, heq⟩ := handOn_eq c
  rw [heq, length_workers] at hless ⊢
  simp only [List.length_append, List.length_singleton] at hless ⊢
  omega

theorem workers_submit (c : Crew ι ρ) (input : ι) : (c.submit input).workers = c.workers := by
  have hnew := submitted_submit c input
  generalize c.submit input = d at hnew
  cases hnew with
  | dropped | blocked => rfl
  | queued => exact workers_push _ _

/-- A worker that goes down with its task, or gives it up and quits, is one less. -/
theorem length_workers_running {number : Nat} {ended : Assignment ι} {rest : List (Assignment ι)}
    (hx : extract? (·.task.number = number) c.running = some (ended, rest)) :
    (lessened { c with running := rest }).workers.length + 1 = c.workers.length := by
  have hlength := length_of_extract? hx
  rw [workers_lessened, length_workers, length_workers]
  simp only
  omega

/-- **Whoever quits is one less.** -/
theorem length_workers_quit (he : Happens c (.quit station) d) :
    d.workers.length + 1 = c.workers.length := by
  cases he with
  | quitBound hu hx =>
    have hlength := length_of_extract? hx
    rw [workers_lessened, length_workers, length_workers]
    simp only
    omega
  | quitLine hu hx =>
    have hlength := length_of_extract? hx
    rw [workers_lessened, length_workers, length_workers]
    simp only
    omega
  | @quitReceiver worker hu hr =>
    have hat : c.receiver.worker? = some worker := by
      rcases hr with hr | hr <;> rw [hr] <;> rfl
    rw [workers_lessened]
    exact length_workers_handOn hat
  | quitRunning hu hx => exact length_workers_running hx

/-! ## The way to rest -/

/-- The most steps that can still be taken without anything from outside, as long as nothing is
cancelled. -/
def weight (c : Crew ι ρ) : Nat :=
  c.submitter.weight + c.queue.length + 2 * c.bound.length + c.line.length + c.receiver.weight

/-- The most steps that can still be taken without anything from outside. After a cancellation every
worker has one to take. -/
def toRest (c : Crew ι ρ) : Nat := c.weight + c.workers.length

theorem LetIn.weight {room : Nat} {submitter : Submitter ι} (h : LetIn c room submitter) :
    submitter.weight = c.submitter.weight := by
  cases htask : c.submitter.task? with
  | none => rw [h.others htask]
  | some task =>
    have weighs {s : Submitter ι} (hs : s.task? = some task) : s.weight = 3 := by
      cases s <;> first | rfl | cases hs
    rw [weighs htask, weighs (h.task.trans htask)]

theorem weight_push (c : Crew ι ρ) (task : TaskItem ι) : (c.push task).weight ≤ c.weight + 2 := by
  have hwake : c.wake.weight ≤ c.weight + 1 := by
    unfold wake
    split
    · rename_i worker hr
      simp only [weight, hr, Receiver.weight]
      omega
    · exact Nat.le_succ _
  have hpush : (c.push task).weight ≤ c.wake.weight + 1 := by
    obtain ⟨receiver, -, heq⟩ := wake_eq c
    simp only [push, heq, weight, List.length_append, List.length_singleton]
    omega
  omega

theorem weight_handOn (c : Crew ι ρ) : c.handOn.weight + c.receiver.weight = c.weight := by
  have hfree : (Receiver.free : Receiver ι).weight = 0 := rfl
  have hheld (worker : Nat) : (Receiver.held worker : Receiver ι).weight = 1 := rfl
  unfold handOn
  split
  · simp only [weight, hfree]
    omega
  · rename_i next rest hline
    simp only [weight, hheld, hline, List.length_cons]
    omega

theorem weight_ask (c : Crew ι ρ) (worker : Nat) : (c.ask worker).weight ≤ c.weight + 1 := by
  unfold ask
  split
  · rename_i hr
    simp only [weight, hr, Receiver.weight]
    omega
  · simp only [weight, List.length_append, List.length_singleton]
    omega

theorem weight_lessened (c : Crew ι ρ) : c.lessened.weight ≤ c.weight := by
  have hrefuse : c.submitter.refuse.weight ≤ c.submitter.weight := by
    cases c.submitter <;> simp [Submitter.refuse, Submitter.weight]
  unfold lessened
  split
  · simp only [weight, abandon, List.length_nil]
    omega
  · exact Nat.le_refl _

theorem weight_quit (he : Happens c (.quit station) d) : d.weight ≤ c.weight := by
  cases he with
  | quitBound hu hx | quitLine hu hx =>
    have hlength := length_of_extract? hx
    refine Nat.le_trans (weight_lessened _) ?_
    simp only [weight]
    omega
  | quitReceiver =>
    have hhand := weight_handOn c
    exact Nat.le_trans (weight_lessened _) (by omega)
  | quitRunning => exact weight_lessened _

theorem toRest_quit (he : Happens c (.quit station) d) : d.toRest < c.toRest := by
  have hweight := weight_quit he
  have hworkers := length_workers_quit he
  simp only [toRest]
  omega

/-- **Each step of its own brings a crew closer to rest.** -/
theorem Turn.lowers (h : Turn c d) : d.toRest < c.toRest := by
  obtain ⟨e, hown, hstep⟩ := h
  cases happens hstep with
  | @enter task hu hs =>
    have hpush := weight_push { c with submitter := .away } task
    have hworkers := workers_push { c with submitter := .away } task
    rw [toRest, toRest, hworkers]
    simp only [weight, workers, waiting, hs, Submitter.weight] at hpush ⊢
    omega
  | withdraw hs =>
    have hweight : 0 < c.submitter.weight := by
      cases hsubmitter : c.submitter with
      | away => exact absurd hsubmitter hs
      | blocked | granted | refused => exact Nat.succ_pos _
    have haway : (Submitter.away : Submitter ι).weight = 0 := rfl
    simp only [toRest, weight, workers, waiting, withdraw, haway]
    omega
  | @arrive worker rest hu hx =>
    have hlength := length_of_extract? hx
    have hask := weight_ask { c with bound := rest } worker
    rw [toRest, toRest, length_workers_arrive hx]
    simp only [weight] at hask ⊢
    omega
  | @take worker task rest hu hr hq =>
    obtain ⟨room, submitter, letIn, heq⟩ := makeRoom_eq { c with queue := rest }
    have hsubmitter : submitter.weight = c.submitter.weight := letIn.weight
    rw [heq, toRest, toRest, length_workers, length_workers]
    simp only [weight, hr, hq, hsubmitter, Receiver.weight, Receiver.worker?, List.length_cons]
    omega
  | listen hu hr =>
    rw [toRest, toRest, length_workers, length_workers]
    simp only [weight, hr, Receiver.weight, Receiver.worker?]
    omega
  | leave hu hr =>
    have hhand := weight_handOn c
    have hworkers := length_workers_handOn (c := c) (by rw [hr]; rfl)
    simp only [toRest]
    omega
  | begin hr =>
    have hhand := weight_handOn c
    rw [hr, Receiver.weight] at hhand
    rw [toRest, toRest, length_workers_begin hr]
    exact Nat.add_lt_add_right (Nat.lt_of_succ_le (Nat.le_of_eq hhand)) _
  | quitBound hu hx => exact toRest_quit (.quitBound hu hx)
  | quitLine hu hx => exact toRest_quit (.quitLine hu hx)
  | quitReceiver hu hr => exact toRest_quit (.quitReceiver hu hr)
  | quitRunning hu hx => exact toRest_quit (.quitRunning hu hx)
  | submit | finish | crash | cancel | close => cases hown

theorem turn_of_not_atRest (h : ¬ c.AtRest) : ∃ d, Turn c d := by
  rw [AtRest, Classical.not_forall] at h
  obtain ⟨e, he⟩ := h
  obtain ⟨hown, hstep⟩ := Classical.not_imp.1 he
  obtain ⟨d, hd⟩ := Option.ne_none_iff_exists'.1 hstep
  exact ⟨d, e, hown, hd⟩

/-- Whatever steps the workers take by themselves, they come to rest, and what those steps keep
holds there. -/
theorem rest_inevitable {I : Crew ι ρ → Prop} (keeps : ∀ {c d}, I c → Turn c d → I d) (h : I c) :
    Inevitable Turn (fun d => d.AtRest ∧ I d) c := by
  refine Inevitable.of_rank Nat.lt_wfRel.wf toRest (I := I) ?_ ?_ h
  · intro d hd
    by_cases hrest : d.AtRest
    · exact .inl ⟨hrest, hd⟩
    · exact .inr (turn_of_not_atRest hrest)
  · intro d next hd hturn
    exact ⟨keeps hd hturn, hturn.lowers⟩

/-- The workers of a crew are not lost on the way there. -/
theorem Turn.manned {capacity : Nat} (hm : Manned capacity c) (h : Turn c d) :
    Manned capacity d := by
  obtain ⟨e, -, hstep⟩ := h
  exact hm.event (happens hstep)

/-! ## After a cancellation -/

@[simp] theorem cancelled_handOn (c : Crew ι ρ) : c.handOn.cancelled = c.cancelled := by
  unfold handOn
  split <;> rfl

@[simp] theorem cancelled_lessened (c : Crew ι ρ) : c.lessened.cancelled = c.cancelled := by
  unfold lessened
  split <;> rfl

/-- A cancellation lasts, whatever the workers and the submission do. -/
theorem Turn.cancelled (h : Turn c d) (hu : c.cancelled = true) : d.cancelled = true := by
  obtain ⟨e, hown, hstep⟩ := h
  cases happens hstep with
  | enter h | arrive h | take h | listen h | leave h => cases hu.symm.trans h
  | withdraw => exact hu
  | begin => exact (cancelled_handOn c).trans hu
  | quitBound | quitLine | quitRunning => exact (cancelled_lessened _).trans hu
  | quitReceiver => exact (cancelled_lessened _).trans ((cancelled_handOn c).trans hu)
  | submit | finish | crash | cancel | close => cases hown

/-- **Once everything is cancelled everybody quits**, whoever sees it first. -/
theorem deserted_inevitable (h : c.cancelled = true) : Inevitable Turn Deserted c := by
  have hrest := rest_inevitable (fun hu turn => turn.cancelled hu) h
  exact hrest.mono fun d hd => hd.1.deserted hd.2

/-! ## Work -/

/-- Every worker that is up is at work, or there is nothing to be done. -/
def Conserves (c : Crew ι ρ) : Prop :=
  c.waiting = [] ∨ c.queue = [] ∧ c.submitter.task? = none

/-- **At rest no task waits while a worker sleeps.** -/
theorem AtRest.conserves {capacity : Nat} (h : c.AtRest) (hm : Manned capacity c)
    (hc : 0 < capacity) : c.Conserves := by
  cases hu : c.cancelled with
  | true =>
    have hnone := (h.deserted hu).workers
    exact .inl (List.append_eq_nil_iff.1 hnone).1
  | false =>
    obtain ⟨hb, hr, hs⟩ := h.asleep hu
    rcases hr with hfree | ⟨worker, hlistening⟩
    · -- Nobody is at the receiver, so nobody is in line for it.
      refine .inl ?_
      rw [waiting, hb, hm.attended.line hfree, hfree]
      rfl
    · -- Somebody listens there, so the queue is empty, and a submission would find room.
      obtain ⟨hqueue, -⟩ := hm.attended.queue worker hlistening
      refine .inr ⟨hqueue, ?_⟩
      rcases hs with haway | ⟨task, hblocked⟩
      · rw [haway]
        rfl
      · have hroom := hm.stocked.room
        rw [hm.stocked.blocked task hblocked, hqueue, hblocked, List.length_nil] at hroom
        exact absurd hroom (Nat.ne_of_lt hc)

end Rest

/-! ## Workers -/

/-- Nothing is left to do, and nothing will come. -/
def Over (c : Crew ι ρ) : Prop := c.cancelled = true ∨ c.closed = true ∧ c.queue = []

/-- The workers that are up, those that went down and those that have gone home are all that there
were, and nobody goes home before everything is over. -/
def Staffed (total crashes : Nat) (c : Crew ι ρ) : Prop :=
  ∃ home, c.workers.length + crashes + home = total ∧ (home ≠ 0 → c.Over)

def Event.isCrash : Event ι ρ → Bool
  | .crash _ => true
  | _ => false

/-- How many workers a run took down. -/
def crashes (ms : Moments ι ρ) : Nat := ms.countP (·.event.isCrash)

section Staffed

variable {total n capacity : Nat} {c d : Crew ι ρ} {e : Event ι ρ}

theorem Over.lessened (h : c.Over) : c.lessened.Over := by
  unfold Crew.lessened
  split
  · exact h.imp_right fun h => ⟨h.1, rfl⟩
  · exact h

theorem Over.handOn (h : c.Over) : c.handOn.Over := by
  obtain ⟨receiver, line, -, heq⟩ := handOn_eq c
  rw [heq]
  exact h

/-- What is over stays over. -/
theorem Over.event (h : c.Over) (hm : Manned capacity c) (he : Happens c e d) : d.Over := by
  cases he with
  | @submit input hc =>
    rcases h with h | ⟨hclosed, -⟩
    · have hnew := submitted_submit c input
      generalize c.submit input = d at hnew
      cases hnew with
      | dropped => exact .inl h
      | queued up | blocked up => exact absurd (.inl h) up
    · rw [hc] at hclosed
      cases hclosed
  | @enter task hu hs =>
    obtain ⟨receiver, heq⟩ := push_eq { c with submitter := .away } task
    rw [heq]
    rcases h with h | ⟨hclosed, -⟩
    · exact .inl h
    · have haway := hm.stocked.closed hclosed
      rw [hs] at haway
      cases haway
  | @arrive worker rest =>
    obtain ⟨receiver, line, -, heq⟩ := ask_eq { c with bound := rest } worker
    rw [heq]
    exact h
  | @take worker task rest hu hr hq =>
    obtain ⟨room, submitter, -, heq⟩ := makeRoom_eq { c with queue := rest }
    rw [heq]
    rcases h with h | ⟨-, hempty⟩
    · exact .inl h
    · rw [hq] at hempty
      cases hempty
  | leave => exact h.handOn
  | begin => exact h.handOn
  | crash | quitBound | quitLine | quitRunning => exact Over.lessened h
  | quitReceiver => exact h.handOn.lessened
  | withdraw | listen | finish => exact h
  | cancel => exact .inl rfl
  | close =>
    obtain ⟨receiver, -, heq⟩ := wake_eq c
    rw [heq]
    exact h.imp_right fun h => ⟨rfl, h.2⟩

/-- **Every event keeps the account of the workers.** -/
theorem Staffed.event (h : Staffed total n c) (hm : Manned capacity c) (he : Happens c e d) :
    Staffed total (n + if e.isCrash then 1 else 0) d := by
  obtain ⟨home, htotal, hover⟩ := h
  have later (hhome : home ≠ 0) : d.Over := (hover hhome).event hm he
  -- Most events only move a worker from one place to another.
  have stays (hlength : d.workers.length = c.workers.length) : Staffed total n d :=
    ⟨home, by rw [hlength, htotal], later⟩
  have goes (hlength : d.workers.length + 1 = c.workers.length) (h : c.Over) :
      Staffed total n d := ⟨home + 1, by omega, fun _ => h.event hm he⟩
  cases he with
  | submit => exact stays (congrArg List.length (workers_submit c _))
  | enter => exact stays (congrArg List.length (workers_push _ _))
  | withdraw => exact stays rfl
  | arrive hu hx => exact stays (length_workers_arrive hx)
  | @take worker task rest hu hr =>
    obtain ⟨room, submitter, -, heq⟩ := makeRoom_eq { c with queue := rest }
    refine stays ?_
    rw [heq, length_workers, length_workers, hr]
    rfl
  | listen hu hr =>
    refine stays ?_
    rw [length_workers, length_workers, hr]
    rfl
  | @leave worker hu hr hq hc =>
    have hat : c.receiver.worker? = some worker := by rw [hr]; rfl
    exact goes (length_workers_handOn hat) (.inr ⟨hc, hq⟩)
  | begin hr => exact stays (length_workers_begin hr)
  | @finish ended rest outcome hu hx =>
    refine stays ?_
    have hrunning := length_of_extract? hx
    rw [length_workers, length_workers]
    simp only [List.length_append, List.length_singleton]
    omega
  | crash hu hx =>
    have hless := length_workers_running hx
    refine ⟨home, ?_, later⟩
    simp only [Event.isCrash, if_true]
    omega
  | quitBound hu hx => exact goes (length_workers_quit (.quitBound hu hx)) (.inl hu)
  | quitLine hu hx => exact goes (length_workers_quit (.quitLine hu hx)) (.inl hu)
  | quitReceiver hu hr => exact goes (length_workers_quit (.quitReceiver hu hr)) (.inl hu)
  | quitRunning hu hx => exact goes (length_workers_quit (.quitRunning hu hx)) (.inl hu)
  | cancel => exact stays rfl
  | close => exact stays (congrArg List.length (workers_wake c))

end Staffed

theorem staffed_of_traced {workers capacity : Nat} {ms : Moments ι ρ} {c : Crew ι ρ}
    (run : Traced (fresh workers capacity) ms c) :
    Manned (max capacity 1) c ∧ Staffed (max workers 1) (crashes ms) c := by
  refine run.keeps
    (I := fun ms c => Manned (max capacity 1) c ∧ Staffed (max workers 1) (crashes ms) c) ?_ ?_ ?_
  · refine ⟨⟨.fresh workers capacity, .fresh workers capacity⟩, 0, ?_, fun h => absurd rfl h⟩
    simp [length_workers, Crew.fresh, crashes, Receiver.worker?]
  · rintro ms m ⟨hm, hstaffed⟩ hs
    have he := happens_turn hs
    refine ⟨hm.event he, ?_⟩
    rw [crashes, List.countP_append, List.countP_singleton]
    exact hstaffed.event hm he
  · exact fun _ hd => hd.elim

/-- **No task waits while a worker sleeps.** In every run of some workers behind a queue, whatever is
submitted and whichever tasks end or take their worker down:

* no worker is lost but by its own task, and none goes home before everything is over;
* at rest every worker that is up is at work, or the queue is empty and no submission waits;
* when no worker is up, the queue is empty and no submission waits;
* and the workers come to rest, in whatever order they take their own steps. -/
theorem work_conserving {workers capacity : Nat} {ms : Moments ι ρ} {c : Crew ι ρ}
    (run : Traced (fresh workers capacity) ms c) :
    Staffed (max workers 1) (crashes ms) c ∧
    (c.AtRest → c.Conserves) ∧
    (c.workers = [] → c.queue = [] ∧ c.submitter.task? = none) ∧
    Inevitable Turn (fun d => d.AtRest ∧ d.Conserves) c := by
  obtain ⟨hm, hstaffed⟩ := staffed_of_traced run
  have hcapacity : 0 < max capacity 1 := Nat.lt_of_lt_of_le Nat.one_pos (Nat.le_max_right _ _)
  refine ⟨hstaffed, fun hrest => hrest.conserves hm hcapacity, hm.stocked.forsaken, ?_⟩
  refine (rest_inevitable Turn.manned hm).mono ?_
  rintro d ⟨hrest, hd⟩
  exact ⟨hrest, hrest.conserves hd hcapacity⟩

/-- Two workers and room for one task. One listens while the other is in line; a task wakes the
first, a second waits for room, gets it, and goes to the other; a third stays in the queue and a
fourth waits for room. -/
def handing : List (Event Unit Unit) :=
  [.arrive 1, .arrive 0, .receive, .submit (), .submit (), .receive, .enter, .begin, .receive,
    .submit (), .begin, .submit ()]

/-- Both workers go down, and the submission that waits is refused. -/
def falling : List (Event Unit Unit) := [.crash 0, .crash 1, .withdraw]

/-- The moments of some events, and the workers after them. -/
def handed (events : List (Event Unit Unit)) : Moments Unit Unit × Crew Unit Unit :=
  (Trace.retrace? turn? (fresh 2 1) events).getD ([], fresh 2 1)

/-- At rest with tasks that wait, both workers are at work; when both are down, nothing waits. -/
theorem work_conserving_handing :
    (∃ ms, ∃ c : Crew Unit Unit, Traced (fresh 2 1) ms c ∧ c.AtRest ∧
      c.queue.map (·.number) = [2] ∧ c.submitter.task?.map (·.number) = some 3 ∧
      c.waiting = [] ∧ c.running.map (·.worker) = [1, 0]) ∧
    ∃ ms, ∃ c : Crew Unit Unit, Traced (fresh 2 1) ms c ∧ crashes ms = 2 ∧ c.AtRest ∧
      c.workers = [] ∧ c.queue = [] ∧ c.submitter.task? = none := by
  have run (events : List (Event Unit Unit))
      (h : Trace.retrace? turn? (fresh 2 1) events = some (handed events)) :
      Traced (fresh 2 1) (handed events).1 (handed events).2 := Trace.of_retrace? h
  constructor
  · have hrun := run handing rfl
    have hrest : (handed handing).2.AtRest := ready?_eq_none.1 rfl
    obtain ⟨-, conserves, -, -⟩ := work_conserving hrun
    have hqueue : (handed handing).2.queue.map (·.number) = [2] := rfl
    refine ⟨_, _, hrun, hrest, hqueue, rfl, ?_, rfl⟩
    rcases conserves hrest with hwaiting | ⟨hempty, -⟩
    · exact hwaiting
    · rw [hempty] at hqueue
      cases hqueue
  · have hrun := run (handing ++ falling) rfl
    obtain ⟨-, -, forsaken, -⟩ := work_conserving hrun
    have hnone : (handed (handing ++ falling)).2.workers = [] := rfl
    obtain ⟨hqueue, htask⟩ := forsaken hnone
    exact ⟨_, _, hrun, rfl, ready?_eq_none.1 rfl, hnone, hqueue, htask⟩

end Crew
end ChainExplorer
