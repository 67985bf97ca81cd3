import ChainExplorer.Json.Value
import ChainExplorer.Simulation.Scene
import ChainExplorer.Tasks.Crew
import ChainExplorer.Tasks.FanOut

/-!
# Scripts for tasks

Jobs that sleep for a while and then yield a value, fail or take their worker down, submitted one by
one to workers behind a queue; and the same for a whole list at once.
-/

namespace ChainExplorer.Simulation

/-- How a job ends. -/
inductive Ending where
  | value (v : Json)
  | failure (v : Json)
  | crash
  deriving Repr

/-- A job. -/
structure Job where
  span : Nat
  ending : Ending
  deriving Repr

/-- What has come of a job, and when. -/
structure JobResult where
  time : Nat
  result : Except Json Json

/-- What workers show of themselves. -/
inductive TaskOutput (ι : Type) where
  | began (task : TaskItem ι)
  | running (count : Nat)

/-- Workers that share a receiver as a machine. -/
def crewMachine {ι ρ : Type} : Machine (Crew ι ρ) (Crew.Event ι ρ) (TaskOutput ι) where
  step? c event :=
    (c.step? event).map fun after =>
      let began := match event, c.receiver with
        | .begin, .laden _ task => [.began task]
        | _, _ => []
      (after, .running after.running.length :: began)
  ready? := Crew.ready?
  due? _ := none
  atTime c _ := c

/-- A list on its way through the workers as a machine. -/
def fanOutMachine {ι ρ : Type} : Machine (FanOut ι ρ) (FanOut.Event ρ) (TaskOutput ι) where
  step? f event :=
    (f.step? event).map fun after =>
      (after, match event with
        | .start => f.tasks.queue.head?.toList.map .began
        | _ => [])
  ready? := FanOut.ready?
  due? _ := none
  atTime f _ := f

/-! ## Jobs one by one -/

/-- The end of a job that begins now. -/
def jobReaction (now : Nat) (task : TaskItem Job) : Reaction (Crew.Event Job JobResult) :=
  let job := task.input
  ⟨job.span, match job.ending with
    | .value v => .finish task.number ⟨now + job.span, .ok v⟩
    | .failure v => .finish task.number ⟨now + job.span, .error v⟩
    | .crash => .crash task.number⟩

/-- The world of a script of jobs: it keeps the most jobs that have run at once. -/
def jobWorld : World Nat (Crew.Event Job JobResult) (TaskOutput Job) where
  react peak now output :=
    match output with
    | .began task => (peak, some (jobReaction now task))
    | .running count => (max peak count, none)

/-- A step of a script of jobs. -/
inductive JobAction where
  | submit (job : Job)
  | sleep (span : Nat)
  | cancel
  /-- Cancels what the workers depend on, if they depend on anything. -/
  | cancelParent
  deriving Repr

/-- What a step of a script of jobs reports. -/
structure JobReport where
  time : Nat
  started : Nat
  running : Nat
  deriving Repr

/-- A script of jobs on its way. -/
abbrev JobScene := Scene (Crew Job JobResult) (Crew.Event Job JobResult) Nat

/-- The scene after a step. A submission waits until the queue has room. -/
def jobStep (hasParent : Bool) (scene : JobScene) : JobAction → JobScene
  | .submit job =>
    (scene.settle crewMachine jobWorld plenty [.submit job]).runUntil crewMachine jobWorld
      plenty (fun scene => scene.state.submitter.isAway) plenty
  | .sleep span => scene.runTo crewMachine jobWorld plenty (scene.now + span) plenty
  | .cancel => scene.settle crewMachine jobWorld plenty [.cancel]
  | .cancelParent =>
    if hasParent then scene.settle crewMachine jobWorld plenty [.cancel] else scene

/-- The reports of the steps of a script of jobs, and the scene after the last job. -/
def jobReports (hasParent : Bool) (scene : JobScene) : List JobAction → List JobReport × JobScene
  | [] =>
    ([], (scene.settle crewMachine jobWorld plenty [.close]).runUntil crewMachine jobWorld
      plenty (fun scene => scene.state.isDone) plenty)
  | action :: rest =>
    let scene := jobStep hasParent scene action
    let (reports, final) := jobReports hasParent scene rest
    (⟨scene.now, scene.state.started, scene.state.running.length⟩ :: reports, final)

/-- The scene before the first job. -/
def jobScene (workers capacity : Nat) : JobScene := ⟨0, .fresh workers capacity, 0, []⟩

/-! ## A list at once -/

/-- How the numbers of a list are worked on: each takes a while, and multiples of a number other
than zero fail. -/
structure Squaring where
  span : Nat
  failMultiplesOf : UInt64
  deriving Repr

/-- What comes of a number: its square, or the number itself where it fails. -/
def Squaring.result (s : Squaring) (n : UInt64) : Except UInt64 UInt64 :=
  if s.failMultiplesOf ≠ 0 ∧ n % s.failMultiplesOf = 0 then .error n else .ok (n * n)

/-- The world in which a list is worked on. -/
def squaringWorld (s : Squaring) :
    World Unit (FanOut.Event (Except UInt64 UInt64)) (TaskOutput UInt64) where
  react _ _ output :=
    match output with
    | .began task => ((), some ⟨s.span, .finish task.number (s.result task.input)⟩)
    | .running _ => ((), none)

/-- A list on its way through the workers. -/
abbrev SquaringScene :=
  Scene (FanOut UInt64 (Except UInt64 UInt64)) (FanOut.Event (Except UInt64 UInt64)) Unit

/-- Works on a list; a cancellation comes before the start or after a while. -/
def squareAll (s : Squaring) (inputs : List UInt64) (workers capacity : Nat)
    (cancelAfter : Option Nat) : SquaringScene :=
  let agenda := match cancelAfter with
    | some (span + 1) => [(span + 1, FanOut.Event.cancel)]
    | _ => []
  let first := if cancelAfter = some 0 then [FanOut.Event.cancel] else []
  let scene : SquaringScene := ⟨0, .ofInputs inputs workers capacity, (), agenda⟩
  (scene.settle fanOutMachine (squaringWorld s) plenty first).runUntil fanOutMachine
    (squaringWorld s) plenty (fun scene => scene.state.isDone) plenty

end ChainExplorer.Simulation
