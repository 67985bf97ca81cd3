import ChainExplorer.Tasks.Basic

/-!
# Fanning out

One task for each input of a list: the inputs are submitted in their order, each as soon as the one
before has been taken in, then nothing more is submitted and the workers run dry.
-/

namespace ChainExplorer

/-- A list of inputs on its way through the workers. -/
structure FanOut (ι ρ : Type) where
  inputs : List ι
  tasks : Tasks ι ρ
  deriving Repr

namespace FanOut

variable {ι ρ : Type}

/-- What can happen to a list of inputs on its way. -/
inductive Event (ρ : Type) where
  /-- The submitter takes its next step: the next input, or the end of the list. -/
  | next
  | enter
  | start
  | finish (number : Nat) (outcome : ρ)
  | crash (number : Nat)
  | cancel
  | quit (party : Tasks.Party)

/-- The inputs before anything is submitted. -/
def ofInputs (inputs : List ι) (workers capacity : Nat) : FanOut ι ρ :=
  ⟨inputs, .fresh workers capacity⟩

/-- The submitter's next step. -/
def next? (f : FanOut ι ρ) : Option (FanOut ι ρ) :=
  if f.tasks.closed then none
  else match f.inputs with
    | input :: rest => (f.tasks.step? (.submit input)).map fun tasks => ⟨rest, tasks⟩
    | [] => (f.tasks.step? .close).map fun tasks => ⟨[], tasks⟩

/-- The state after an event; nothing where the event cannot happen. -/
def step? (f : FanOut ι ρ) (event : Event ρ) : Option (FanOut ι ρ) :=
  let pass (event : Tasks.Event ι ρ) := (f.tasks.step? event).map fun tasks => { f with tasks }
  match event with
  | .next => f.next?
  | .enter => pass .enter
  | .start => pass .start
  | .finish number outcome => pass (.finish number outcome)
  | .crash number => pass (.crash number)
  | .cancel => pass .cancel
  | .quit party => pass (.quit party)

/-- Whether every input has been dealt with. -/
def isDone (f : FanOut ι ρ) : Bool := f.tasks.isDone

/-- Something that can happen without anything from outside, the submitter first. -/
def ready? (f : FanOut ι ρ) : Option (Event ρ) :=
  if !f.tasks.closed && f.tasks.blocked.isNone then some .next
  else if f.tasks.cancelled then f.tasks.quitter?.map .quit
  else if f.tasks.blocked.isSome && f.tasks.queue.length < f.tasks.capacity then some .enter
  else if 0 < f.tasks.idle && !f.tasks.queue.isEmpty then some .start
  else none

end FanOut

end ChainExplorer
