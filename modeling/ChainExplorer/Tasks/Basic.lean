import ChainExplorer.Lists.Extract

/-!
# Tasks behind a bounded queue

A fixed number of workers take tasks from a bounded queue and run them one at a time. A task ends
with a result or an error, or it takes its worker down with it; its number is that of its
submission. A submission that finds the queue full waits, and there is at most one such, because the
submitter waits with it.

A cancellation sets a flag and does nothing else. A worker looks at the flag before anything else,
whether it waits for a task or runs one, and so does a submission that waits; so nothing starts or
ends any more, and one after another they see the flag and quit. With the last worker the queue is
forgotten, whether it quits or goes down. So every task is accounted for: it has an outcome, or it
was dropped.

An event is what somebody does between two points at which it waits. What lies between these points
is not interrupted.
-/

namespace ChainExplorer

/-- A task under its number. -/
structure TaskItem (ι : Type) where
  number : Nat
  input : ι
  deriving DecidableEq, Repr

/-- Workers and their queue. -/
structure Tasks (ι ρ : Type) where
  capacity : Nat
  /-- The workers that wait for a task. -/
  idle : Nat
  running : List (TaskItem ι)
  queue : List (TaskItem ι)
  /-- A submission that waits for room in the queue. -/
  blocked : Option (TaskItem ι)
  submitted : Nat
  started : Nat
  /-- The outcomes so far, in the order in which the tasks ended. -/
  outcomes : List ρ
  cancelled : Bool
  /-- Nothing more will be submitted. -/
  closed : Bool
  deriving Repr

namespace Tasks

variable {ι ρ : Type}

/-- Who can see that everything is cancelled. -/
inductive Party where
  /-- The submission that waits, which is given up. -/
  | submitter
  /-- A worker that waits for a task. -/
  | idle
  /-- The worker that runs a task, which it gives up. -/
  | running (number : Nat)
  deriving DecidableEq, Repr

/-- What can happen to workers and their queue. -/
inductive Event (ι ρ : Type) where
  | submit (input : ι)
  /-- The submission that waits enters the queue. -/
  | enter
  /-- A worker takes the first task of the queue. -/
  | start
  | finish (number : Nat) (outcome : ρ)
  /-- A task takes its worker down. -/
  | crash (number : Nat)
  | cancel
  /-- Somebody sees that everything is cancelled, and quits. -/
  | quit (party : Party)
  | close

/-- So many workers behind a queue of such a capacity, each at least one. -/
def fresh (workers capacity : Nat) : Tasks ι ρ where
  capacity := max capacity 1
  idle := max workers 1
  running := []
  queue := []
  blocked := none
  submitted := 0
  started := 0
  outcomes := []
  cancelled := false
  closed := false

/-- The workers that are up. -/
def live (t : Tasks ι ρ) : Nat := t.idle + t.running.length

/-- Forgets every task that has not started. -/
def forget (t : Tasks ι ρ) : Tasks ι ρ := { t with queue := [], blocked := none }

/-- Takes a submission in. Where nobody will ever take it up, it is dropped at once. -/
def submit (t : Tasks ι ρ) (input : ι) : Tasks ι ρ :=
  let task : TaskItem ι := ⟨t.submitted, input⟩
  let t := { t with submitted := t.submitted + 1 }
  if t.cancelled || t.live = 0 then t
  else if t.queue.length < t.capacity then { t with queue := t.queue ++ [task] }
  else { t with blocked := some task }

/-- Cancels everything. Nobody has seen it yet. -/
def cancel (t : Tasks ι ρ) : Tasks ι ρ := { t with cancelled := true }

/-- With the last worker the queue is gone. -/
def lessened (t : Tasks ι ρ) : Tasks ι ρ := if t.live = 0 then t.forget else t

/-- Somebody quits. -/
def quit? (t : Tasks ι ρ) : Party → Option (Tasks ι ρ)
  | .submitter => if t.blocked.isSome then some { t with blocked := none } else none
  | .idle => if t.idle = 0 then none else some (lessened { t with idle := t.idle - 1 })
  | .running number =>
    (extract? (·.number = number) t.running).map fun (_, rest) => lessened { t with running := rest }

/-- What the submission that waits and the workers do as long as nothing is cancelled. -/
def work? (t : Tasks ι ρ) : Event ι ρ → Option (Tasks ι ρ)
  | .enter =>
    match t.blocked with
    | some task =>
      if t.queue.length < t.capacity then
        some { t with blocked := none, queue := t.queue ++ [task] }
      else none
    | none => none
  | .start =>
    match t.queue with
    | task :: rest =>
      if t.idle = 0 then none
      else some { t with
        idle := t.idle - 1, queue := rest
        running := t.running ++ [task], started := t.started + 1 }
    | [] => none
  | .finish number outcome =>
    (extract? (·.number = number) t.running).map fun (_, rest) =>
      { t with idle := t.idle + 1, running := rest, outcomes := t.outcomes ++ [outcome] }
  | .crash number =>
    (extract? (·.number = number) t.running).map fun (_, rest) => lessened { t with running := rest }
  | .submit _ | .cancel | .quit _ | .close => none

/-- The state after an event; nothing where the event cannot happen. -/
def step? (t : Tasks ι ρ) : Event ι ρ → Option (Tasks ι ρ)
  | .submit input => if t.closed || t.blocked.isSome then none else some (t.submit input)
  | .cancel => some t.cancel
  | .quit party => if t.cancelled then t.quit? party else none
  | .close => if t.blocked.isSome then none else some { t with closed := true }
  | event => if t.cancelled then none else t.work? event

/-- Somebody who can quit, the workers that run a task before those that wait for one. -/
def quitter? (t : Tasks ι ρ) : Option Party :=
  if t.blocked.isSome then some .submitter
  else match t.running with
    | task :: _ => some (.running task.number)
    | [] => if t.idle = 0 then none else some .idle

/-- Whether everything that will ever end has ended. -/
def isDone (t : Tasks ι ρ) : Bool := t.closed && t.running.isEmpty && t.queue.isEmpty

/-- The submissions that have no outcome. -/
def dropped (t : Tasks ι ρ) : Nat := t.submitted - t.outcomes.length

end Tasks

/-! ## What has come of the tasks -/

/-- The error of an outcome, if it is one. -/
def errorOf? {ε α : Type} : Except ε α → Option ε
  | .error error => some error
  | .ok _ => none

/-- What has come of some submissions: results and errors, each in the order in which the tasks
ended, and how many submissions have neither. -/
structure Collected (ε α : Type) where
  results : List α
  errors : List ε
  dropped : Nat
  deriving Repr

/-- Sorts outcomes into results and errors. -/
def Collected.ofOutcomes {ε α : Type} (submitted : Nat) (outcomes : List (Except ε α)) :
    Collected ε α :=
  let results := outcomes.filterMap Except.toOption
  let errors := outcomes.filterMap errorOf?
  ⟨results, errors, submitted - (results.length + errors.length)⟩

/-- What whoever waits for the end is given then. -/
def Tasks.collect {ι ε α : Type} (t : Tasks ι (Except ε α)) : Collected ε α :=
  .ofOutcomes t.submitted t.outcomes

end ChainExplorer
