import ChainExplorer.Machine

/-!
# Virtual time

The machines of this library say what can happen; a scene decides what does. It joins a machine to a
world that answers what the machine asks for, and runs both on a clock that stands still as long as
anything can happen and then jumps to the next time at which something does.

The order of events at one time is fixed. An answer that takes no time comes at once, before
anything else goes on. Then comes what the machine can do by itself, then the answers that are due,
then the machine's own deadlines.

Loops are bounded by fuel, which callers choose well above any run they mean to make.
-/

namespace ChainExplorer.Simulation

/-- What a world does about an output: at once or after a while, an event comes back, or none. -/
structure Reaction (ε : Type) where
  delay : Nat
  event : ε

/-- A world: what it keeps, and how it reacts to an output. -/
structure World (ω ε ο : Type) where
  react : ω → Nat → ο → ω × Option (Reaction ε)

/-- A machine and its world at a time, with the answers on their way in the order of their times. -/
structure Scene (σ ε ω : Type) where
  now : Nat
  state : σ
  world : ω
  agenda : List (Nat × ε)

namespace Scene

variable {σ ε ο ω : Type}

/-- Puts an answer on its way, behind those of the same time. -/
def schedule (time : Nat) (event : ε) : List (Nat × ε) → List (Nat × ε)
  | [] => [(time, event)]
  | (t, e) :: rest =>
    if time < t then (time, event) :: (t, e) :: rest else (t, e) :: schedule time event rest

/-- Hands the outputs to the world; yields the answers that come at once. -/
def deliver (world : World ω ε ο) (scene : Scene σ ε ω) : List ο → Scene σ ε ω × List ε
  | [] => (scene, [])
  | output :: rest =>
    let (after, reaction) := world.react scene.world scene.now output
    match reaction with
    | none => deliver world { scene with world := after } rest
    | some r =>
      if r.delay = 0 then
        let (scene, events) := deliver world { scene with world := after } rest
        (scene, r.event :: events)
      else
        deliver world
          { scene with
            world := after, agenda := schedule (scene.now + r.delay) r.event scene.agenda }
          rest

/-- Lets one event happen, if it can; yields the answers that come at once. -/
def happen (machine : Machine σ ε ο) (world : World ω ε ο) (scene : Scene σ ε ω) (event : ε) :
    Scene σ ε ω × List ε :=
  match machine.step? scene.state event with
  | none => (scene, [])
  | some (state, outputs) => deliver world { scene with state } outputs

/-- What happens next at this time. -/
def next? (machine : Machine σ ε ο) (scene : Scene σ ε ω) : Option (Scene σ ε ω × ε) :=
  match machine.ready? scene.state with
  | some event => some (scene, event)
  | none =>
    match scene.agenda with
    | (time, event) :: rest =>
      if time ≤ scene.now then some ({ scene with agenda := rest }, event) else deadline
    | [] => deadline
where
  deadline : Option (Scene σ ε ω × ε) :=
    match machine.due? scene.state with
    | some (time, event) => if time ≤ scene.now then some (scene, event) else none
    | none => none

/-- Lets the given events happen, and everything that can happen without time passing. -/
def settle (machine : Machine σ ε ο) (world : World ω ε ο) :
    Nat → Scene σ ε ω → List ε → Scene σ ε ω
  | 0, scene, _ => scene
  | fuel + 1, scene, event :: events =>
    let (scene, first) := scene.happen machine world event
    settle machine world fuel scene (first ++ events)
  | fuel + 1, scene, [] =>
    match scene.next? machine with
    | none => scene
    | some (scene, event) => settle machine world fuel scene [event]

/-- The earliest time at which something happens. -/
def nextTime? (machine : Machine σ ε ο) (scene : Scene σ ε ω) : Option Nat :=
  match scene.agenda, machine.due? scene.state with
  | (t, _) :: _, some (d, _) => some (min t d)
  | (t, _) :: _, none => some t
  | [], some (d, _) => some d
  | [], none => none

/-- Lets the clock jump, and everything happen that can happen then. -/
def jump (machine : Machine σ ε ο) (world : World ω ε ο) (fuel : Nat) (scene : Scene σ ε ω)
    (time : Nat) : Scene σ ε ω :=
  settle machine world fuel
    { scene with now := time, state := machine.atTime scene.state time } []

/-- Lets time pass until a condition holds, or nothing will happen any more. -/
def runUntil (machine : Machine σ ε ο) (world : World ω ε ο) (settleFuel : Nat)
    (stop : Scene σ ε ω → Bool) : Nat → Scene σ ε ω → Scene σ ε ω
  | 0, scene => scene
  | fuel + 1, scene =>
    if stop scene then scene
    else match scene.nextTime? machine with
      | none => scene
      | some time =>
        runUntil machine world settleFuel stop fuel (scene.jump machine world settleFuel time)

/-- Lets time pass up to a time. -/
def runTo (machine : Machine σ ε ο) (world : World ω ε ο) (settleFuel : Nat) (limit : Nat) :
    Nat → Scene σ ε ω → Scene σ ε ω
  | 0, scene => scene
  | fuel + 1, scene =>
    match scene.nextTime? machine with
    | some time =>
      if time < limit then
        runTo machine world settleFuel limit fuel (scene.jump machine world settleFuel time)
      else scene.jump machine world settleFuel limit
    | none => scene.jump machine world settleFuel limit

end Scene

/-- Fuel for any run that is meant to end. -/
def plenty : Nat := 10000000

end ChainExplorer.Simulation
