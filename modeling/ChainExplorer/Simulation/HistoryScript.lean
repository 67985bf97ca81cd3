import ChainExplorer.History.Explorer
import ChainExplorer.Simulation.Server

/-!
# Scripts for histories

Questions about addresses are put one after the other to one explorer, both of whose clients talk to
one scripted server. What an inquiry leaves in the store is there for the next.
-/

namespace ChainExplorer.Simulation

open ChainExplorer.History ChainExplorer.Rpc

/-- The server of both clients. -/
def sharedWorld : World Server Explorer.Event Explorer.Output where
  react u _ output :=
    let (u, reaction) := u.react output.output
    (u, reaction.map fun r => ⟨r.delay, .client output.side r.event⟩)

/-- A question about an address. The asker may cancel it before the start or after a while. -/
structure HistoryQuestion where
  address : String
  page : Nat
  size : Nat
  cancelAfter : Option Nat := none
  deriving DecidableEq, Repr

/-- What became of a question. -/
structure HistoryReport where
  outcome : Except QueryError Page
  received : List Request
  time : Nat

/-- An inquiry on its way. -/
abbrev HistoryScene := Scene Explorer Explorer.Event Server

/-- Whether an event is a cancellation. -/
def isCancel : Explorer.Event → Bool
  | .inquiry .cancel => true
  | _ => false

/-- Puts a question. -/
def openQuestion (scene : HistoryScene) (question : HistoryQuestion) : HistoryScene :=
  let state := scene.state.ask (question.cancelAfter = some 0) question.address question.page
    question.size
  let agenda := match question.cancelAfter with
    | some (span + 1) => Scene.schedule (scene.now + span + 1) (.inquiry .cancel) scene.agenda
    | _ => scene.agenda
  { scene with state, agenda }.settle Explorer.machine sharedWorld plenty []

/-- Puts a question and waits for its end. A cancellation that comes later has no effect. -/
def askHistory (scene : HistoryScene) (question : HistoryQuestion) :
    HistoryScene × HistoryReport :=
  let after := (openQuestion scene question).runUntil Explorer.machine sharedWorld plenty
    (fun scene => scene.state.inquiry.outcome?.isSome) plenty
  ({ after with agenda := after.agenda.filter (!isCancel ·.2) },
    { outcome := after.state.inquiry.outcome?.getD (.error .cancelled)
      received := after.world.received.drop scene.world.received.length
      time := after.now })

/-- The reports of the questions of a script. -/
def historyReports (scene : HistoryScene) : List HistoryQuestion → List HistoryReport
  | [] => []
  | question :: rest =>
    let (scene, report) := askHistory scene question
    report :: historyReports scene rest

/-- The scene before the first question. -/
def historyScene (limits : LookupLimits) (store : Option Store) (pool : Pool)
    (callTimeout : Nat) (firstId : UInt64) (server : Server) : HistoryScene :=
  let client : Client := .fresh pool callTimeout firstId
  ⟨0, .idle { limits with } store client client, server, []⟩

end ChainExplorer.Simulation
