import ChainExplorer.Pool.Machine
import ChainExplorer.Simulation.Scene

/-!
# Scripts for a pool

A script works a pool whose connections come from a factory that can be told to be slow, to fail or
to stall. Leases are kept under names. Each step of a script ends when everything has come to a
standstill, and reports what it saw.
-/

namespace ChainExplorer.Simulation

/-- How the factory treats an attempt. -/
inductive Mode where
  | succeed
  | fail
  | stall
  deriving DecidableEq, Repr

/-- A factory, and what it has seen of the pool. -/
structure Factory where
  connectMode : Mode := .succeed
  checkMode : Mode := .succeed
  connectDelay : Nat := 0
  checkDelay : Nat := 0
  connects : Nat := 0
  checks : Nat := 0
  /-- The acquires that have ended. -/
  answers : List (Nat × Except PoolError Nat) := []

/-- An attempt that takes a while and ends as the mode says. -/
def attempt (mode : Mode) (delay : Nat) (good bad : Pool.Event) : Option (Reaction Pool.Event) :=
  match mode with
  | .succeed => some ⟨delay, good⟩
  | .fail => some ⟨delay, bad⟩
  | .stall => none

/-- The failure of the connect with a number. -/
def refusal (number : Nat) : TransportError := .connect ("refused #" ++ Text.decimal number)

/-- How the factory reacts to the move of an acquire. -/
def Factory.react (factory : Factory) (output : Nat × Pool.Move) :
    Factory × Option (Reaction Pool.Event) :=
  let (ticket, move) := output
  match move with
  | .connect =>
    let count := factory.connects + 1
    ({ factory with connects := count },
      attempt factory.connectMode factory.connectDelay (.connected ticket)
        (.connectFailed ticket (refusal count)))
  | .probe _ =>
    ({ factory with checks := factory.checks + 1 },
      attempt factory.checkMode factory.checkDelay (.probed ticket) (.probeFailed ticket))
  | .grant conn => ({ factory with answers := factory.answers ++ [(ticket, .ok conn)] }, none)
  | .refuse error =>
    ({ factory with answers := factory.answers ++ [(ticket, .error error)] }, none)
  | .rest | .park => (factory, none)

/-- The world of a pool script. -/
def factoryWorld : World Factory Pool.Event (Nat × Pool.Move) where
  react factory _ output := factory.react output

/-- What a step of a pool script does. -/
inductive PoolAction where
  | acquire (name : String) (within : Option Nat)
  | spawn (name : String) (within : Option Nat)
  | join (name : String)
  | abort (name : String)
  | release (name : String)
  | invalidate (name : String)
  | set (connect check : Option Mode) (connectDelay checkDelay : Option Nat)
  | sleep (span : Nat)
  | close
  deriving Repr

/-- What a step of a pool script yields. -/
inductive PoolResult where
  | nothing
  | leased (conn : Nat)
  | refused (error : PoolError)
  | flag (value : Bool)
  deriving Repr

/-- What a step of a pool script reports. -/
structure PoolReport where
  result : PoolResult
  time : Nat
  status : PoolStatus
  connects : Nat
  checks : Nat
  closed : List Nat
  /-- The names of the background acquires that have ended and are not joined. -/
  done : List String
  deriving Repr

/-- A pool script on its way. -/
structure PoolRun where
  scene : Scene Pool Pool.Event Factory
  leases : List (String × Nat)
  background : List (String × Nat)
  nextTicket : Nat

namespace PoolRun

/-- The run before its first step. -/
def ofPool (pool : Pool) : PoolRun :=
  ⟨⟨0, pool, {}, []⟩, [], [], 0⟩

/-- Lets events happen and everything come to a standstill. -/
def settle (run : PoolRun) (events : List Pool.Event) : PoolRun :=
  { run with scene := run.scene.settle Pool.machine factoryWorld plenty events }

/-- How an acquire has ended. -/
def answer? (scene : Scene Pool Pool.Event Factory) (ticket : Nat) :
    Option (Except PoolError Nat) :=
  (scene.world.answers.find? (·.1 = ticket)).map (·.2)

/-- The ticket under a name. -/
def ticket? (names : List (String × Nat)) (name : String) : Option Nat :=
  (names.find? (·.1 = name)).map (·.2)

/-- The names without one of them. -/
def forget (names : List (String × Nat)) (name : String) : List (String × Nat) :=
  names.filter (·.1 ≠ name)

/-- Gives back the lease under a name. -/
def releaseName (run : PoolRun) (name : String) : PoolRun :=
  match ticket? run.leases name with
  | some ticket => { run with leases := forget run.leases name }.settle [.release ticket]
  | none => run

/-- Keeps a lease under a name; the one that was there goes back. -/
def keep (run : PoolRun) (name : String) (ticket : Nat) : PoolRun :=
  let run := run.releaseName name
  { run with leases := run.leases ++ [(name, ticket)] }

/-- The time until which an acquire may wait. -/
def deadline (run : PoolRun) (within : Option Nat) : Nat :=
  run.scene.now + within.getD run.scene.state.config.acquireTimeout

/-- Begins an acquire; yields its ticket. -/
def begin (run : PoolRun) (within : Option Nat) : PoolRun × Nat :=
  ({ run with nextTicket := run.nextTicket + 1 }.settle
    [.acquire run.nextTicket (run.deadline within)], run.nextTicket)

/-- Waits for an acquire to end and keeps what it got. -/
def await (run : PoolRun) (name : String) (ticket : Nat) : PoolRun × PoolResult :=
  let scene := run.scene.runUntil Pool.machine factoryWorld plenty
    (fun scene => (answer? scene ticket).isSome) plenty
  let run := { run with scene }
  match answer? scene ticket with
  | some (.ok conn) => (run.keep name ticket, .leased conn)
  | some (.error error) => (run, .refused error)
  | none => (run, .nothing)

/-- Drops a background acquire; whether it was still going on. -/
def abortName (run : PoolRun) (name : String) : PoolRun × PoolResult :=
  match ticket? run.background name with
  | none => (run, .nothing)
  | some ticket =>
    let run := { run with background := forget run.background name }
    match answer? run.scene ticket with
    | none => (run.settle [.abandon ticket], .flag true)
    | some (.ok _) => (run.settle [.release ticket], .flag false)
    | some (.error _) => (run, .flag false)

/-- Tells the factory how to treat later attempts. -/
def instruct (run : PoolRun) (connect check : Option Mode) (connectDelay checkDelay : Option Nat) :
    PoolRun :=
  let factory := run.scene.world
  { run with scene := { run.scene with world := { factory with
      connectMode := connect.getD factory.connectMode
      checkMode := check.getD factory.checkMode
      connectDelay := connectDelay.getD factory.connectDelay
      checkDelay := checkDelay.getD factory.checkDelay } } }

/-- The run after a step. -/
def act (run : PoolRun) : PoolAction → PoolRun × PoolResult
  | .acquire name within =>
    let (run, ticket) := run.begin within
    run.await name ticket
  | .spawn name within =>
    let (run, ticket) := run.begin within
    ({ run with background := forget run.background name ++ [(name, ticket)] }, .nothing)
  | .join name =>
    match ticket? run.background name with
    | none => (run, .nothing)
    | some ticket => { run with background := forget run.background name }.await name ticket
  | .abort name => run.abortName name
  | .release name => (run.releaseName name, .flag (ticket? run.leases name).isSome)
  | .invalidate name =>
    match ticket? run.leases name with
    | some ticket => (run.settle [.invalidate ticket], .flag true)
    | none => (run, .flag false)
  | .set connect check connectDelay checkDelay =>
    (run.instruct connect check connectDelay checkDelay, .nothing)
  | .sleep span =>
    let scene := run.scene.runTo Pool.machine factoryWorld plenty (run.scene.now + span) plenty
    ({ run with scene }, .nothing)
  | .close => (run.settle [.close], .nothing)

/-- The names of the background acquires that have ended. -/
def done (run : PoolRun) : List String :=
  ((run.background.filter fun b => (answer? run.scene b.2).isSome).map (·.1)).mergeSort

/-- What is seen after a step. -/
def report (run : PoolRun) (result : PoolResult) : PoolReport where
  result := result
  time := run.scene.now
  status := run.scene.state.status
  connects := run.scene.world.connects
  checks := run.scene.world.checks
  closed := run.scene.state.torn
  done := run.done

/-- The reports of the steps of a script. -/
def reports (run : PoolRun) : List PoolAction → List PoolReport
  | [] => []
  | action :: rest =>
    let (run, result) := run.act action
    let run := run.settle []
    run.report result :: run.reports rest

end PoolRun

end ChainExplorer.Simulation
