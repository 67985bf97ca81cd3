import ChainExplorer.Rpc.Query
import ChainExplorer.Script.Tape

/-!
# Single lookups

What can be asked about one address or one pool. An address is turned into its key before anything
is asked, so a bad one never reaches a server.
-/

namespace ChainExplorer.Lookup

open ChainExplorer.Rpc

/-- The balance of an address, in base units and their sum in coins. -/
structure AddressBalance where
  address : String
  confirmed : Int
  unconfirmed : Int
  balance : Binary64
  deriving DecidableEq, Repr

/-- An unspent output of an address. -/
structure Utxo where
  txid : String
  vout : UInt32
  value : UInt64
  height : UInt64
  deriving DecidableEq, Repr

/-- The state of a pool and the output that carries it. -/
structure PoolState where
  txid : String
  vout : UInt32
  tape : PoolTape
  deriving DecidableEq, Repr

/-- The key of an address. -/
def key (address : String) : Except QueryError String :=
  (Address.indexKey address).mapError .decode

/-- The balance that the index states for an address. The sum stays within a signed word. -/
def AddressBalance.ofScript (address : String) (b : ScriptBalance) : AddressBalance :=
  { address, confirmed := b.confirmed, unconfirmed := b.unconfirmed
    balance := Amount.display (History.clampWord (b.confirmed + b.unconfirmed)) }

/-- Asks for the balance of an address. -/
def addressBalance (address : String) : Except QueryError (Query AddressBalance) :=
  (key address).map fun key => (balance key).bind fun b => .ok (.ofScript address b)

/-- The unspent output that the index states. -/
def Utxo.ofItem (item : UnspentItem) : Utxo :=
  ⟨item.txHash, item.txPos, item.value, confirmedHeight item.height⟩

/-- Asks for the unspent outputs of an address. -/
def addressUtxos (address : String) : Except QueryError (Query (List Utxo)) :=
  (key address).map fun key => (unspent key).bind fun items => .ok (items.map Utxo.ofItem)

/-- The state in the first tape of a transaction. -/
def PoolState.ofTransaction (asked : String) (tx : Transaction) : Except QueryError PoolState :=
  match tx.outputs.find? (·.script.kind = .poolTape) with
  | none => .error (.invalidInput (.noPoolTape asked))
  | some output =>
    ((PoolTape.ofScript output.script).mapError .decode).map fun tape =>
      ⟨tx.txid, output.index, tape⟩

/-- Asks for the state of a pool. -/
def poolState (txid : String) : Except QueryError (Query PoolState) :=
  if Transaction.isId txid then .ok ((transaction txid).bind (PoolState.ofTransaction txid))
  else .error (.invalidInput (.notATransactionId txid))

end ChainExplorer.Lookup
