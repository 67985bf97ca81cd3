import ChainExplorer.Tasks.Basic

/-!
# Workers that share a receiver

The workers of `Tasks` have one receiving end of the queue among them, and only one worker at a time
can be at it. Whoever wants the next task asks for the receiver and stands in line while another has
it. So a worker that is up is on its way to the receiver, in line, at the receiver, or at work.

Whoever has to wait sleeps until somebody wakes it, and there are four who do:

* a worker that leaves the receiver hands it to the first in line;
* a worker that takes a task makes room in the queue, and the room goes to the submission that waits
  for it, if there is one;
* a task that enters the queue wakes the worker that listens at the receiver, and so does the end of
  all submissions;
* the last worker to go down takes the receiver with it, and with that the submission that waits is
  refused.

What the woken party does next is a step of its own, so anything may come in between. A cancellation
wakes everybody. Whoever goes on after that looks at the flag first and quits: the worker on its way
to the receiver as well as the one in line, the one at the receiver, which it hands on, and the one
at work, which gives its task up; and the submission, which gives back the room that it has been
given.
-/

namespace ChainExplorer

/-- A worker and the task that it runs. -/
structure Assignment (ι : Type) where
  worker : Nat
  task : TaskItem ι
  deriving Repr

/-- Who is at the receiver. -/
inductive Receiver (ι : Type) where
  | free
  /-- A worker that is about to look for a task. -/
  | held (worker : Nat)
  /-- A worker that has found no task and sleeps. -/
  | listening (worker : Nat)
  /-- A worker that has taken a task. -/
  | laden (worker : Nat) (task : TaskItem ι)
  deriving Repr

/-- The worker at the receiver. -/
def Receiver.worker? {ι : Type} : Receiver ι → Option Nat
  | .free => none
  | .held worker | .listening worker | .laden worker _ => some worker

/-- How far a submission has come. -/
inductive Submitter (ι : Type) where
  /-- There is none under way. -/
  | away
  /-- It waits for room in the queue. -/
  | blocked (task : TaskItem ι)
  /-- There is room for it. -/
  | granted (task : TaskItem ι)
  /-- Nobody will ever take it up. -/
  | refused
  deriving Repr

namespace Submitter

variable {ι : Type}

/-- Whether no submission is under way. -/
def isAway : Submitter ι → Bool
  | .away => true
  | .blocked _ | .granted _ | .refused => false

/-- The room that a submission has been given and has not used yet. -/
def share : Submitter ι → Nat
  | .granted _ => 1
  | .away | .blocked _ | .refused => 0

/-- Refuses a submission that is under way. -/
def refuse : Submitter ι → Submitter ι
  | .blocked _ | .granted _ | .refused => .refused
  | .away => .away

end Submitter

/-- Workers that share a receiver. -/
structure Crew (ι ρ : Type) where
  /-- The workers on their way to the receiver. -/
  bound : List Nat
  /-- The workers in line for it. -/
  line : List Nat
  receiver : Receiver ι
  running : List (Assignment ι)
  /-- How many more tasks the queue has room for. -/
  room : Nat
  queue : List (TaskItem ι)
  submitter : Submitter ι
  submitted : Nat
  started : Nat
  /-- The outcomes so far, in the order in which the tasks ended. -/
  outcomes : List ρ
  cancelled : Bool
  /-- Nothing more will be submitted. -/
  closed : Bool
  deriving Repr

namespace Crew

variable {ι ρ : Type}

/-- Where a worker is when it sees that everything is cancelled. -/
inductive Station where
  /-- On its way to the receiver. -/
  | bound (worker : Nat)
  | line (worker : Nat)
  | receiver
  /-- At work on a task. -/
  | running (number : Nat)
  deriving DecidableEq, Repr

/-- What can happen to workers that share a receiver. -/
inductive Event (ι ρ : Type) where
  | submit (input : ι)
  /-- The submission for which there is room enters the queue. -/
  | enter
  /-- The submission that nobody will take up is given up. -/
  | withdraw
  /-- A worker asks for the receiver. -/
  | arrive (worker : Nat)
  /-- The worker at the receiver looks for a task. -/
  | receive
  /-- The worker that has taken a task leaves the receiver and begins it. -/
  | begin
  | finish (number : Nat) (outcome : ρ)
  /-- A task takes its worker down. -/
  | crash (number : Nat)
  | cancel
  /-- A worker sees that everything is cancelled, and quits. -/
  | quit (station : Station)
  | close

/-- So many workers and a queue with room for so many tasks, each at least one. -/
def fresh (workers capacity : Nat) : Crew ι ρ where
  bound := List.range (max workers 1)
  line := []
  receiver := .free
  running := []
  room := max capacity 1
  queue := []
  submitter := .away
  submitted := 0
  started := 0
  outcomes := []
  cancelled := false
  closed := false

/-- The workers that run no task. -/
def waiting (c : Crew ι ρ) : List Nat := c.bound ++ c.line ++ c.receiver.worker?.toList

/-- The workers that are up. -/
def workers (c : Crew ι ρ) : List Nat := c.waiting ++ c.running.map (·.worker)

/-- Hands the receiver to the first in line. -/
def handOn (c : Crew ι ρ) : Crew ι ρ :=
  match c.line with
  | [] => { c with receiver := .free }
  | next :: rest => { c with receiver := .held next, line := rest }

/-- Makes room for one more task. -/
def makeRoom (c : Crew ι ρ) : Crew ι ρ :=
  match c.submitter with
  | .blocked task => { c with submitter := .granted task }
  | _ => { c with room := c.room + 1 }

/-- Wakes the worker that listens. -/
def wake (c : Crew ι ρ) : Crew ι ρ :=
  match c.receiver with
  | .listening worker => { c with receiver := .held worker }
  | _ => c

/-- Puts a task into the queue. -/
def push (c : Crew ι ρ) (task : TaskItem ι) : Crew ι ρ := { c.wake with queue := c.queue ++ [task] }

/-- Takes the receiver down: what is in the queue is forgotten, and nothing is let in any more. All
room is given back. -/
def abandon (c : Crew ι ρ) : Crew ι ρ :=
  { c with
    room := c.room + c.queue.length + c.submitter.share
    queue := []
    submitter := c.submitter.refuse }

/-- Takes a submission in. Where nobody will ever take it up, it is dropped at once. -/
def submit (c : Crew ι ρ) (input : ι) : Crew ι ρ :=
  let task : TaskItem ι := ⟨c.submitted, input⟩
  let c := { c with submitted := c.submitted + 1 }
  if c.cancelled || c.workers.isEmpty then c
  else match c.room with
    | 0 => { c with submitter := .blocked task }
    | room + 1 => push { c with room } task

/-- A worker asks for the receiver. -/
def ask (c : Crew ι ρ) (worker : Nat) : Crew ι ρ :=
  match c.receiver with
  | .free => { c with receiver := .held worker }
  | _ => { c with line := c.line ++ [worker] }

/-- A worker at the receiver looks for a task. If there will be none any more it goes home. -/
def look (c : Crew ι ρ) (worker : Nat) : Crew ι ρ :=
  match c.queue with
  | task :: rest =>
    { makeRoom { c with queue := rest } with
      receiver := .laden worker task, started := c.started + 1 }
  | [] => if c.closed then c.handOn else { c with receiver := .listening worker }

/-- Cancels everything. Nobody has seen it yet. -/
def cancel (c : Crew ι ρ) : Crew ι ρ := { c with cancelled := true }

/-- The last worker takes the receiver down. -/
def lessened (c : Crew ι ρ) : Crew ι ρ := if c.workers.isEmpty then c.abandon else c

/-- A worker quits. One that has taken a task leaves the receiver with it first. -/
def quit? (c : Crew ι ρ) : Station → Option (Crew ι ρ)
  | .bound worker =>
    (extract? (· = worker) c.bound).map fun (_, rest) => lessened { c with bound := rest }
  | .line worker =>
    (extract? (· = worker) c.line).map fun (_, rest) => lessened { c with line := rest }
  | .receiver =>
    match c.receiver with
    | .held _ | .listening _ => some c.handOn.lessened
    | .free | .laden _ _ => none
  | .running number =>
    (extract? (·.task.number = number) c.running).map fun (_, rest) =>
      lessened { c with running := rest }

/-- What the submission and the workers do as long as nothing is cancelled. -/
def work? (c : Crew ι ρ) : Event ι ρ → Option (Crew ι ρ)
  | .enter =>
    match c.submitter with
    | .granted task => some (push { c with submitter := .away } task)
    | _ => none
  | .arrive worker =>
    (extract? (· = worker) c.bound).map fun (_, rest) => ask { c with bound := rest } worker
  | .receive =>
    match c.receiver with
    | .held worker => some (c.look worker)
    | _ => none
  | .finish number outcome =>
    (extract? (·.task.number = number) c.running).map fun (ended, rest) =>
      { c with
        bound := c.bound ++ [ended.worker], running := rest, outcomes := c.outcomes ++ [outcome] }
  | .crash number =>
    (extract? (·.task.number = number) c.running).map fun (_, rest) =>
      lessened { c with running := rest }
  | .submit _ | .withdraw | .begin | .cancel | .quit _ | .close => none

/-- Gives the submission up, and the room with it that it has been given. -/
def withdraw (c : Crew ι ρ) : Crew ι ρ :=
  { c with room := c.room + c.submitter.share, submitter := .away }

/-- The state after an event; nothing where the event cannot happen. -/
def step? (c : Crew ι ρ) : Event ι ρ → Option (Crew ι ρ)
  | .submit input => if c.closed || !c.submitter.isAway then none else some (c.submit input)
  | .withdraw =>
    match c.submitter with
    | .refused => some c.withdraw
    | .blocked _ | .granted _ => if c.cancelled then some c.withdraw else none
    | .away => none
  | .begin =>
    match c.receiver with
    | .laden worker task => some { c.handOn with running := c.running ++ [⟨worker, task⟩] }
    | _ => none
  | .cancel => some c.cancel
  | .quit station => if c.cancelled then c.quit? station else none
  | .close => if c.submitter.isAway then some { c.wake with closed := true } else none
  | event => if c.cancelled then none else c.work? event

/-- Something that a worker can do without anything from outside, whoever is at the receiver first. -/
def readyWorker? (c : Crew ι ρ) : Option (Event ι ρ) :=
  match c.receiver with
  | .laden _ _ => some .begin
  | .held _ => some .receive
  | .free | .listening _ => c.bound.head?.map .arrive

/-- Somebody who can quit when everything is cancelled. -/
def quitter? (c : Crew ι ρ) : Option (Event ι ρ) :=
  match c.submitter, c.receiver with
  | .blocked _, _ | .granted _, _ | .refused, _ => some .withdraw
  | .away, .laden _ _ => some .begin
  | .away, .held _ | .away, .listening _ => some (.quit .receiver)
  | .away, .free =>
    match c.bound, c.line, c.running with
    | worker :: _, _, _ => some (.quit (.bound worker))
    | [], worker :: _, _ => some (.quit (.line worker))
    | [], [], a :: _ => some (.quit (.running a.task.number))
    | [], [], [] => none

/-- Something that can happen without anything from outside, the submission first. -/
def ready? (c : Crew ι ρ) : Option (Event ι ρ) :=
  if c.cancelled then c.quitter?
  else match c.submitter with
    | .granted _ => some .enter
    | .refused => some .withdraw
    | .away | .blocked _ => c.readyWorker?

/-- Whether every worker has gone home or down, and nothing more will be submitted. -/
def isDone (c : Crew ι ρ) : Bool := c.closed && c.workers.isEmpty

end Crew

end ChainExplorer
