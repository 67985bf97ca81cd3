import ChainExplorer.Cli.Arguments
import ChainExplorer.Forms
import ChainExplorer.History.Inquiry
import ChainExplorer.Http.Settings
import ChainExplorer.Pool.Basic

/-!
# What a command line comes down to

Before anything is asked, the settings of both servers are checked, the node's first. What a
command asks is one query to one of the servers, or a history inquiry to both. Everything that can
go wrong is reported with what was being done.
-/

namespace ChainExplorer.Cli

open ChainExplorer.Rpc

/-- What is being done when something goes wrong. -/
inductive Activity where
  | configureTransport
  | configureNodePool
  | configureIndexPool
  | carryOut (command : Command)
  deriving DecidableEq, Repr

/-- The wording of what is being done. -/
def Activity.message : Activity → String
  | .configureTransport => "configure node transport"
  | .configureNodePool => "configure node pool"
  | .configureIndexPool => "configure index pool"
  | .carryOut (.history address _ _) => "reconcile history of " ++ address
  | .carryOut (.balance address) => "fetch balance of " ++ address
  | .carryOut (.utxos address) => "fetch unspent outputs of " ++ address
  | .carryOut (.pool txid) => "decode pool state of " ++ txid

/-- Something that went wrong. -/
structure Failure where
  activity : Activity
  error : QueryError
  deriving Repr

/-- The milliseconds of a second. -/
def second : Nat := 1000

/-- The limits of the pools. -/
def Options.poolConfig (o : Options) : PoolConfig where
  maxOpen := o.maxOpen
  maxIdle := o.maxIdle
  idleTimeout := second * o.idleTimeout
  evictionInterval := second * o.evictionInterval
  acquireTimeout := second * o.acquireTimeout
  retryWindow := o.retryWindow

/-- The store of confirmed transactions; a capacity of zero means that there is none. -/
def Options.store? (o : Options) : Option Store :=
  if o.storeCapacity = 0 then none else some (Store.empty o.storeCapacity)

/-- The width of the rounds of an inquiry. -/
def Options.inquiryConfig (o : Options) : History.LookupLimits where
  workers := o.workers
  queueCapacity := o.queueCapacity

/-- Settings that have been checked. -/
structure Session where
  node : Http.Settings
  nodePool : Pool
  indexPool : Pool
  /-- In milliseconds. -/
  callTimeout : Nat

/-- Names what was being done. -/
def during {α : Type} (activity : Activity) (result : Except InputFault α) : Except Failure α :=
  result.mapError fun fault => ⟨activity, .invalidInput fault⟩

/-- Checks the settings. -/
def Options.session (o : Options) : Except Failure Session := do
  let node ← during .configureTransport
    (Http.Settings.ofInput o.nodeUrl o.nodeUser o.nodePassword o.nodeRate)
  let nodePool ← during .configureNodePool (Pool.ofConfig o.poolConfig)
  let indexPool ← during .configureIndexPool (Pool.ofConfig o.poolConfig)
  return ⟨node, nodePool, indexPool, second * o.callTimeout⟩

/-- What a command asks, and whom. -/
inductive Inquest where
  | inquiry (address : String) (page size : Nat)
  | askNode (query : Query Json)
  | askIndex (query : Query Json)

/-- The query whose answer is shown in its form. -/
def shown {α : Type} (form : α → Json) (query : Query α) : Query Json :=
  query.bind fun x => .ok (form x)

/-- What a command asks. -/
def Command.inquest : Command → Except QueryError Inquest
  | .history address page size => .ok (.inquiry address page size)
  | .balance address =>
    (Lookup.addressBalance address).map fun q => .askIndex (shown Lookup.AddressBalance.toJson q)
  | .utxos address =>
    (Lookup.addressUtxos address).map fun q =>
      .askIndex (shown (Json.ofList Lookup.Utxo.toJson) q)
  | .pool txid => (Lookup.poolState txid).map fun q => .askNode (shown Lookup.PoolState.toJson q)

end ChainExplorer.Cli
