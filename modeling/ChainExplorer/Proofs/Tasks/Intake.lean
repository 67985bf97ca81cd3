import ChainExplorer.Proofs.Tasks.Delivery
import ChainExplorer.Proofs.Tasks.Refinement

/-!
# A list on its way through a crew

What a fan-out gives back is settled on `Tasks`, where nobody stands in line. Workers that share a
receiver have more ways to get stuck: a worker may sleep in line, or at the receiver, or the
submitter for want of room, and each waits for somebody else. Here a list goes through such a crew,
and it comes to its end all the same, with what the fan-out gives back (`fan_out_is_a_map`).

What the crew shows is a fan-out underway (`Sound`). A step of the crew is a step of that, which
brings the fan-out closer to its end, or it does not show, and then it brings the crew closer to rest
(`Sound.step`); so there are finitely many. And the crew is never stuck: where it is at rest and runs
nothing, no submission waits, so the submitter can go on until all is closed, and then nobody is left
at the receiver (`Sound.goes_on`).
-/

namespace ChainExplorer

/-- Inputs on their way through a crew. -/
structure Intake (ι ρ : Type) where
  inputs : List ι
  crew : Crew ι ρ

/-- What whoever waits for the end is given then. -/
def Crew.collect {ι ε α : Type} (c : Crew ι (Except ε α)) : Collected ε α :=
  .ofOutcomes c.submitted c.outcomes

namespace Intake

variable {ι ε α : Type}

/-- The inputs before anything is submitted. -/
def ofInputs {ρ : Type} (inputs : List ι) (workers capacity : Nat) : Intake ι ρ :=
  ⟨inputs, .fresh workers capacity⟩

/-- The inputs go on: nothing is cancelled, no task takes its worker down, and a task that ends has
what `process` makes of its input. -/
inductive Step {ρ : Type} (process : ι → ρ) : Intake ι ρ → Intake ι ρ → Prop
  | next {input : ι} {rest : List ι} {c d : Crew ι ρ} (h : c.step? (.submit input) = some d) :
      Step process ⟨input :: rest, c⟩ ⟨rest, d⟩
  | last {c d : Crew ι ρ} (hc : c.closed = false) (h : c.step? .close = some d) :
      Step process ⟨[], c⟩ ⟨[], d⟩
  /-- The workers or the submission go on by themselves. -/
  | turn {inputs : List ι} {c d : Crew ι ρ} (h : Crew.Turn c d) :
      Step process ⟨inputs, c⟩ ⟨inputs, d⟩
  | finish {inputs : List ι} {c d : Crew ι ρ} {a : Assignment ι} (ha : a ∈ c.running)
      (h : c.step? (.finish a.task.number (process a.task.input)) = some d) :
      Step process ⟨inputs, c⟩ ⟨inputs, d⟩

/-- What is left to happen that shows. -/
def weight {ρ : Type} (f : Intake ι ρ) : Nat :=
  4 * f.inputs.length + 3 * f.crew.submitter.task?.toList.length + 2 * f.crew.queue.length
    + f.crew.inHand.length + if f.crew.closed then 0 else 1

/-- What is left to happen, and then what the crew can do before it comes to rest. -/
def remaining {ρ : Type} (f : Intake ι ρ) : Nat × Nat := (f.weight, f.crew.toRest)

/-- The invariant: nobody sleeps whom nobody will wake, and what the crew shows is underway. -/
structure Sound (process : ι → Except ε α) (inputs : List ι) (capacity : Nat)
    (f : Intake ι (Except ε α)) : Prop where
  manned : f.crew.Manned capacity
  underway : ∃ t log, f.crew.Shows capacity t ∧ FanOut.Underway process inputs ⟨f.inputs, t⟩ log

section Sound

variable {process : ι → Except ε α} {inputs : List ι} {capacity : Nat}
  {f g : Intake ι (Except ε α)}

theorem Sound.ofInputs (process : ι → Except ε α) (inputs : List ι) (workers capacity : Nat) :
    Sound process inputs (max capacity 1) (ofInputs inputs workers capacity) where
  manned := ⟨.fresh workers capacity, .fresh workers capacity⟩
  underway := ⟨_, [], .fresh workers capacity, .ofInputs process inputs workers capacity⟩

theorem weight_of_shows {t : Tasks ι (Except ε α)} (h : f.crew.Shows capacity t) :
    FanOut.weight ⟨f.inputs, t⟩ = f.weight := by
  rw [FanOut.weight, weight, h.blocked, h.queue, h.running, h.closed]

/-- Of the steps that a crew takes by itself two show: a task enters the queue, and a worker takes
one. -/
theorem shown?_of_isOwn {ρ : Type} {c d : Crew ι ρ} {e : Crew.Event ι ρ} (he : Crew.Happens c e d)
    (hown : e.isOwn = true) (hu : c.cancelled = false) :
    c.shown? e = none ∨ c.shown? e = some .enter ∨ c.shown? e = some .start := by
  cases he with
  | enter => exact .inr (.inl rfl)
  | withdraw hs hrefused =>
    rcases hrefused with hrefused | h
    · refine .inl ?_
      rw [Crew.shown?, hrefused]
      rfl
    · cases hu.symm.trans h
  | take _ hr hq =>
    refine .inr (.inr ?_)
    rw [Crew.shown?, hq]
    rfl
  | listen _ hr hq | leave _ hr hq =>
    refine .inl ?_
    rw [Crew.shown?, hq]
    rfl
  | arrive | begin => exact .inl rfl
  | quitBound h | quitLine h | quitReceiver h | quitRunning h => cases hu.symm.trans h
  | submit | finish | crash | cancel | close => cases hown

/-- A step of a list through a crew is a step of the fan-out that shows, or nothing shows and the crew
has gone on. -/
theorem shown_step {t : Tasks ι (Except ε α)} {log : List (ι × Except ε α)}
    (hm : f.crew.Manned capacity) (shows : f.crew.Shows capacity t)
    (h : FanOut.Underway process inputs ⟨f.inputs, t⟩ log) (hs : Step process f g) :
    (∃ u, g.crew.Shows capacity u ∧ FanOut.Step process ⟨f.inputs, t⟩ ⟨g.inputs, u⟩) ∨
      g.crew.Shows capacity t ∧ g.inputs = f.inputs ∧ Crew.Turn f.crew g.crew := by
  cases hs with
  | @next input rest c d hstep =>
    have he := Crew.happens hstep
    obtain ⟨u, hu, later⟩ := shows.event hm he
    refine .inl ⟨u, later, .next, trivial, ?_⟩
    cases he with
    | submit hc =>
      have hopen : t.closed = false := shows.closed.trans hc
      have hnext : t.step? (.submit input) = some u := hu
      simp [FanOut.step?, FanOut.next?, hopen, hnext]
  | @last c d hc hstep =>
    obtain ⟨u, hu, later⟩ := shows.event hm (Crew.happens hstep)
    have hopen : t.closed = false := shows.closed.trans hc
    have hlast : t.step? .close = some u := hu
    refine .inl ⟨u, later, .next, trivial, ?_⟩
    simp [FanOut.step?, FanOut.next?, hopen, hlast]
  | @turn left c d hturn =>
    obtain ⟨e, hown, hstep⟩ := hturn
    have he := Crew.happens hstep
    have hgoing : c.cancelled = false := shows.cancelled.symm.trans h.logged.whole.uncancelled
    obtain ⟨u, hu, later⟩ := shows.event hm he
    rcases shown?_of_isOwn he hown hgoing with hshown | hshown | hshown
    · rw [hshown] at hu
      obtain rfl := Option.some.inj hu
      exact .inr ⟨later, rfl, e, hown, hstep⟩
    · rw [hshown] at hu
      exact .inl ⟨u, later, .enter, trivial, Option.map_eq_some_iff.2 ⟨u, hu, rfl⟩⟩
    · rw [hshown] at hu
      exact .inl ⟨u, later, .start, trivial, Option.map_eq_some_iff.2 ⟨u, hu, rfl⟩⟩
  | @finish left c d a ha hstep =>
    obtain ⟨u, hu, later⟩ := shows.event hm (Crew.happens hstep)
    have hrunning : a.task ∈ t.running := by
      rw [shows.running]
      exact List.mem_append_left _ (List.mem_map_of_mem ha)
    refine .inl ⟨u, later, .finish a.task.number (process a.task.input), ?_, ?_⟩
    · exact h.logged.faithful_finish hrunning
    · exact Option.map_eq_some_iff.2 ⟨u, hu, rfl⟩

theorem Step.event (hs : Step process f g) : ∃ e, f.crew.step? e = some g.crew := by
  cases hs with
  | next h => exact ⟨_, h⟩
  | last hc h => exact ⟨_, h⟩
  | turn h =>
    obtain ⟨e, -, hstep⟩ := h
    exact ⟨e, hstep⟩
  | finish ha h => exact ⟨_, h⟩

/-- **Every step keeps the invariant, and there is less to come after it.** -/
theorem Sound.step (h : Sound process inputs capacity f) (hs : Step process f g) :
    Sound process inputs capacity g ∧ Prod.Lex (· < ·) (· < ·) g.remaining f.remaining := by
  obtain ⟨t, log, shows, underway⟩ := h.underway
  obtain ⟨e, hstep⟩ := hs.event
  have hmanned := h.manned.event (Crew.happens hstep)
  rcases shown_step h.manned shows underway hs with ⟨u, later, hnext⟩ | ⟨later, hinputs, hturn⟩
  · obtain ⟨⟨log', hlog⟩, hless⟩ := underway.step hnext
    rw [weight_of_shows later, weight_of_shows shows] at hless
    exact ⟨⟨hmanned, u, log', later, hlog⟩, .left _ _ hless⟩
  · have hsame : g.weight = f.weight := by
      rw [← weight_of_shows later, hinputs, ← weight_of_shows shows]
    refine ⟨⟨hmanned, t, log, later, hinputs ▸ underway⟩, ?_⟩
    rw [remaining, remaining, hsame]
    exact .right _ hturn.lowers

/-- A crew at rest that runs nothing has no submission that waits. -/
theorem submitter_of_atRest {ρ : Type} {c : Crew ι ρ} (hm : c.Manned capacity)
    (hu : c.cancelled = false) (hrest : c.AtRest) (hcapacity : 0 < capacity)
    (hr : c.running = []) : c.submitter = .away := by
  rcases (hrest.asleep hu).submitter with haway | ⟨task, hblocked⟩
  · exact haway
  · have htask : c.submitter.task? = none := by
      rcases hrest.conserves hm hcapacity with hwaiting | ⟨-, htask⟩
      · have hnone : c.workers = [] := by simp [Crew.workers, hwaiting, hr]
        exact (hm.stocked.forsaken hnone).2
      · exact htask
    rw [hblocked] at htask
    cases htask

/-- Once all is closed nobody is left in a crew at rest that runs nothing. -/
theorem workers_of_atRest {ρ : Type} {c : Crew ι ρ} (hm : c.Manned capacity)
    (hu : c.cancelled = false) (hrest : c.AtRest) (hr : c.running = []) (hc : c.closed = true) :
    c.workers = [] := by
  have hasleep := hrest.asleep hu
  rcases hasleep.receiver with hfree | ⟨worker, hlistening⟩
  · exact Crew.workers_eq_nil.2 ⟨hasleep.bound, hm.attended.line hfree, hfree, hr⟩
  · have hopen := (hm.attended.queue worker hlistening).2
    rw [hc] at hopen
    cases hopen

/-- **The crew is never stuck before its end.** -/
theorem Sound.goes_on (h : Sound process inputs capacity f) (hcapacity : 0 < capacity)
    (hd : f.crew.isDone = false) : ∃ g, Step process f g := by
  obtain ⟨left, c⟩ := f
  have hm : c.Manned capacity := h.manned
  obtain ⟨t, log, shows, underway⟩ := h.underway
  have hu : c.cancelled = false := shows.cancelled.symm.trans underway.logged.whole.uncancelled
  by_cases hrest : c.AtRest
  · cases hr : c.running with
    | cons a rest =>
      have hfinish : (c.step? (.finish a.task.number (process a.task.input))).isSome := by
        simp [Crew.step?, Crew.work?, hu, hr, extract?]
      obtain ⟨d, hstep⟩ := Option.isSome_iff_exists.1 hfinish
      have ha : a ∈ c.running := hr ▸ List.mem_cons_self
      exact ⟨⟨left, d⟩, .finish ha hstep⟩
    | nil =>
      have haway := submitter_of_atRest hm hu hrest hcapacity hr
      have hopen : c.closed = false := by
        rw [Bool.eq_false_iff]
        intro hclosed
        have hnone := workers_of_atRest hm hu hrest hr hclosed
        simp [Crew.isDone, hclosed, hnone] at hd
      cases left with
      | cons input rest =>
        have hnext : c.step? (.submit input) = some (c.submit input) := by
          simp [Crew.step?, hopen, haway, Submitter.isAway]
        exact ⟨⟨rest, c.submit input⟩, .next hnext⟩
      | nil =>
        have hlast : c.step? .close = some { c.wake with closed := true } := by
          simp [Crew.step?, haway, Submitter.isAway]
        exact ⟨⟨[], { c.wake with closed := true }⟩, .last hopen hlast⟩
  · obtain ⟨d, hturn⟩ := Crew.turn_of_not_atRest hrest
    exact ⟨⟨left, d⟩, .turn hturn⟩

/-- **When the crew is done, the outcomes are those of a map.** -/
theorem Sound.delivered (h : Sound process inputs capacity f) (hd : f.crew.isDone = true) :
    FanOut.Delivered process inputs f.crew.collect := by
  obtain ⟨t, log, shows, underway⟩ := h.underway
  rw [Crew.isDone, Bool.and_eq_true, List.isEmpty_iff] at hd
  obtain ⟨hclosed, hnone⟩ := hd
  have hqueue := (h.manned.stocked.forsaken hnone).1
  have hhand : f.crew.inHand = [] := by
    obtain ⟨-, -, hreceiver, hrunning⟩ := Crew.workers_eq_nil.1 hnone
    rw [Crew.inHand, hrunning, hreceiver]
    rfl
  have hdone : (⟨f.inputs, t⟩ : FanOut ι (Except ε α)).isDone = true := by
    simp [FanOut.isDone, Tasks.isDone, shows.closed, hclosed, shows.running, hhand, shows.queue,
      hqueue]
  have hdelivered := underway.delivered hdone
  rwa [Tasks.collect, shows.submitted, shows.outcomes] at hdelivered

/-- Whatever steps are taken, the crew is done in the end. -/
theorem Sound.delivered_inevitable (h : Sound process inputs capacity f)
    (hcapacity : 0 < capacity) :
    Inevitable (Step process)
      (fun f => f.crew.isDone = true ∧ FanOut.Delivered process inputs f.crew.collect) f := by
  refine Inevitable.of_rank (Prod.lex Nat.lt_wfRel Nat.lt_wfRel).wf remaining
    (I := Sound process inputs capacity) ?_ ?_ h
  · intro f hf
    cases hd : f.crew.isDone with
    | true => exact .inl ⟨rfl, hf.delivered hd⟩
    | false => exact .inr (hf.goes_on hcapacity hd)
  · intro f g hf hs
    exact hf.step hs

end Sound

end Intake

namespace FanOut

variable {ι ε α : Type}

/-- **A fan-out is a map that loses nothing.** Whatever the number of workers and the room in the
queue, and whichever running task is the next to end, it comes to its end with the results and the
errors of a map over the inputs, each as often as there, and with nothing dropped. It gets there in
at most four steps for each input and one more. At each moment on the way every running task can
end, and where none runs the submitter or a worker can go on, unless everything has ended.

The same comes of workers that share a receiver, whoever of them is at it and whoever is in line. -/
theorem fan_out_is_a_map (process : ι → Except ε α) (inputs : List ι) (workers capacity : Nat) :
    Inevitable (Step process)
      (fun f => f.isDone = true ∧ Delivered process inputs f.tasks.collect)
      (ofInputs inputs workers capacity) ∧
    (∀ n f, Steps process (ofInputs inputs workers capacity) n f →
      n ≤ 4 * inputs.length + 1 ∧
      (∀ task ∈ f.tasks.running,
        ∃ g, f.step? (.finish task.number (process task.input)) = some g) ∧
      (f.tasks.running = [] → f.isDone = false →
        ∃ e g, e ∈ [.next, .enter, .start] ∧ f.step? e = some g) ∧
      (f.isDone = true → Delivered process inputs f.tasks.collect)) ∧
    Inevitable (Intake.Step process)
      (fun f => f.crew.isDone = true ∧ Delivered process inputs f.crew.collect)
      (.ofInputs inputs workers capacity) := by
  have hbegun := Underway.ofInputs process inputs workers capacity
  refine ⟨hbegun.delivered_inevitable, ?_, ?_⟩
  · intro n f hs
    obtain ⟨⟨log, h⟩, hbound⟩ := hbegun.steps hs
    have hweight : weight (ofInputs inputs workers capacity : FanOut ι (Except ε α))
        = 4 * inputs.length + 1 := rfl
    refine ⟨by omega, fun task ht => ?_, fun hr hd => h.goes_on hr hd, fun hd => h.delivered hd⟩
    obtain ⟨g, hg, -⟩ := h.finish ht
    exact ⟨g, hg⟩
  · have hcrew := Intake.Sound.ofInputs process inputs workers capacity
    exact hcrew.delivered_inevitable (Nat.lt_of_lt_of_le Nat.one_pos (Nat.le_max_right _ _))

/-- Squares; a number that five divides is an error. -/
def squares (n : Nat) : Except Nat Nat := if n % 5 = 0 then .error n else .ok (n * n)

/-- One worker behind a queue of one, which is what there is when none is asked for, with two inputs
alike: both have their result. -/
theorem fan_out_is_a_map_squares :
    Inevitable (Step squares)
      (fun f => f.isDone = true ∧ Delivered squares [5, 2, 2, 3] f.tasks.collect)
      (ofInputs [5, 2, 2, 3] 0 0) ∧
    (∀ n f, Steps squares (ofInputs [5, 2, 2, 3] 0 0) n f → n ≤ 17) ∧
    Inevitable (Intake.Step squares)
      (fun f => f.crew.isDone = true ∧ Delivered squares [5, 2, 2, 3] f.crew.collect)
      (.ofInputs [5, 2, 2, 3] 0 0) ∧
    ([5, 2, 2, 3].filterMap fun i => (squares i).toOption) = [4, 4, 9] ∧
    ([5, 2, 2, 3].filterMap fun i => errorOf? (squares i)) = [5] := by
  have h := fan_out_is_a_map squares [5, 2, 2, 3] 0 0
  exact ⟨h.1, fun n f hs => (h.2.1 n f hs).1, h.2.2, rfl, rfl⟩

end FanOut
end ChainExplorer
