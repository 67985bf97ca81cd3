import ChainExplorer.Rpc.Machine
import ChainExplorer.Rpc.Query
import ChainExplorer.Simulation.Server

/-!
# Scripts for a client

A script makes calls to a scripted server, one after the other or several at once. Each step ends
when everything has come to a standstill, and reports what came back, what the server received and
how the pool stands.
-/

namespace ChainExplorer.Simulation

open ChainExplorer.Rpc

/-- What a command ends with. -/
inductive Outcome where
  | value (form : Json)
  | callFailed (error : RpcError)
  | queryFailed (error : QueryError)
  /-- The caller went away before the call ended. -/
  | aborted
  deriving Repr

/-- A call and the reading of its outcome. -/
structure Call where
  method : String
  params : List Json
  read : Except RpcError Json → Outcome

/-- What a caller wants: a call, or an outcome that is known without one. The caller may go away
after a while. -/
structure Command where
  task : Outcome ⊕ Call
  patience : Option Nat := none

/-- The outcome of a query. -/
def Outcome.ofQuery {α : Type} (form : α → Json) : Except QueryError α → Outcome
  | .ok x => .value (form x)
  | .error error => .queryFailed error

/-- The outcome of a bare call. -/
def Outcome.ofCall {α : Type} (form : α → Json) : Except RpcError α → Outcome
  | .ok x => .value (form x)
  | .error error => .callFailed error

/-- The call of a query. -/
def Call.ofQuery {α : Type} (query : Query α) (form : α → Json) : Call :=
  ⟨query.method, query.params, fun outcome => .ofQuery form (query.read outcome)⟩

/-- A bare call whose result is read by a shape. -/
def Call.ofShape {α : Type} (method : String) (params : List Json) (shape : Shape α)
    (form : α → Json) : Call :=
  ⟨method, params, fun outcome => .ofCall form (decodeAs method shape outcome)⟩

/-- The command that asks a query, if there is one to ask. -/
def Command.ofLookup {α : Type} (query : Except QueryError (Query α)) (form : α → Json) :
    Command :=
  match query with
  | .ok query => { task := .inr (.ofQuery query form) }
  | .error error => { task := .inl (.queryFailed error) }

/-- A step of a client script. -/
inductive ClientAction where
  | single (command : Command)
  | batch (commands : List Command)
  | sleep (span : Nat)
  | close

/-- What a step yields. -/
inductive ClientResult where
  | nothing
  | single (outcome : Outcome)
  | batch (outcomes : List Outcome)
  deriving Repr

/-- What a step reports. -/
structure ClientReport where
  result : ClientResult
  /-- The requests that reached the server in this step. -/
  received : List Request
  status : PoolStatus
  time : Nat
  deriving Repr

/-- The world of a client script: the server, and the answers to the callers. -/
structure Callers where
  server : Server
  answers : List (Nat × Except RpcError Json) := []

/-- How the world of a client script reacts. -/
def callersWorld : World Callers Client.Event Client.Output where
  react w _ output :=
    match output with
    | .answer ticket outcome => ({ w with answers := w.answers ++ [(ticket, outcome)] }, none)
    | output =>
      let (server, reaction) := w.server.react output
      ({ w with server }, reaction)

/-- A client script on its way. -/
structure ClientRun where
  scene : Scene Client Client.Event Callers
  nextTicket : Nat

namespace ClientRun

/-- The run before its first step. -/
def ofClient (client : Client) (server : Server) : ClientRun :=
  ⟨⟨0, client, ⟨server, []⟩, []⟩, 0⟩

/-- How a call has ended. -/
def answer? (scene : Scene Client Client.Event Callers) (ticket : Nat) :
    Option (Except RpcError Json) :=
  (scene.world.answers.find? (·.1 = ticket)).map (·.2)

/-- Begins the call of a command under a ticket; its caller may go away later. -/
def begin (run : ClientRun) (ticket : Nat) (command : Command) : ClientRun :=
  match command.task with
  | .inl _ => run
  | .inr call =>
    let scene := run.scene.settle Client.machine callersWorld plenty
      [.call ticket call.method call.params]
    match command.patience with
    | none => { run with scene }
    | some span =>
      let agenda := Scene.schedule (scene.now + span) (.drop ticket) scene.agenda
      { run with scene := { scene with agenda } }

/-- Whether a call has ended or its caller has gone away. -/
def isOver (scene : Scene Client Client.Event Callers) (ticket : Nat) : Bool :=
  (answer? scene ticket).isSome
    || !(scene.state.pending.any (·.ticket = ticket)
      || scene.state.exchanging.any (·.ticket = ticket))

/-- What a command has ended with. -/
def outcome (scene : Scene Client Client.Event Callers) (ticket : Nat) (command : Command) :
    Outcome :=
  match command.task with
  | .inl outcome => outcome
  | .inr call =>
    match answer? scene ticket with
    | some answer => call.read answer
    | none => .aborted

/-- Begins all commands, each under a ticket of its own, and waits until the last has ended. -/
def perform (run : ClientRun) (commands : List Command) : ClientRun × List Outcome :=
  let numbered := commands.zipIdx run.nextTicket
  let begun := numbered.foldl (fun run (command, ticket) => run.begin ticket command) run
  let scene := begun.scene.runUntil Client.machine callersWorld plenty
    (fun scene => numbered.all fun (_, ticket) => isOver scene ticket) plenty
  ({ begun with scene, nextTicket := run.nextTicket + commands.length },
    numbered.map fun (command, ticket) => outcome scene ticket command)

/-- The run after a step. -/
def act (run : ClientRun) : ClientAction → ClientRun × ClientResult
  | .single command =>
    let (run, outcomes) := run.perform [command]
    (run, match outcomes with
      | [outcome] => .single outcome
      | _ => .nothing)
  | .batch commands =>
    let (run, outcomes) := run.perform commands
    (run, .batch outcomes)
  | .sleep span =>
    let scene := run.scene.runTo Client.machine callersWorld plenty (run.scene.now + span) plenty
    ({ run with scene }, .nothing)
  | .close =>
    let scene := run.scene.settle Client.machine callersWorld plenty [.pool .close]
    ({ run with scene }, .nothing)

/-- The requests that have reached the server so far. -/
def received (run : ClientRun) : List Request := run.scene.world.server.received

/-- The reports of the steps of a script, and the run at its end. -/
def reports (run : ClientRun) : List ClientAction → List ClientReport × ClientRun
  | [] => ([], run)
  | action :: rest =>
    let (after, result) := run.act action
    let report : ClientReport :=
      { result
        received := after.received.drop run.received.length
        status := after.scene.state.pool.status
        time := after.scene.now }
    let (later, final) := after.reports rest
    (report :: later, final)

end ClientRun

end ChainExplorer.Simulation
