import ChainExplorer.History.Page
import ChainExplorer.Rpc.Message
import ChainExplorer.Transaction.Reader
import ChainExplorer.Words

/-!
# What is asked of the servers

A query is a method, its parameters and the reading of whatever the call brings back. The node knows
transactions; the index knows scripts by their keys. Readers are strict: an integer is no number
with a point, and a record is an object with its members or an array of exactly them.
-/

namespace ChainExplorer.Rpc

open ChainExplorer.Text

/-- A call and the reading of its outcome. -/
structure Query (α : Type) where
  method : String
  params : List Json
  read : Except RpcError Json → Except QueryError α

/-- The same call, with more done to what it yields. -/
def Query.bind {α β : Type} (query : Query α) (f : α → Except QueryError β) : Query β :=
  ⟨query.method, query.params, fun outcome => (query.read outcome).bind f⟩

/-! ## Readers of results -/

/-- A reader of results. -/
abbrev Shape (α : Type) := Json → Option α

namespace Shape

/-- An unsigned word. -/
def word : Shape UInt64 := fun value => value.natural?.map UInt64.ofNat

/-- An unsigned word of thirty-two bits. -/
def word32 : Shape UInt32 := fun value =>
  value.natural?.bind fun n => if n < halfWordBound then some (UInt32.ofNat n) else none

/-- A signed word. -/
def integer : Shape Int := Json.integer?

/-- A string. -/
def string : Shape String := Json.string?

/-- A truth value. -/
def bool : Shape Bool := Json.bool?

/-- A list of values of one shape. -/
def list {α : Type} (shape : Shape α) : Shape (List α) := fun value =>
  value.array?.bind (·.mapM shape)

/-- The members of a record, in the order of its keys. -/
def members? (keys : List String) : Json → Option (List Json)
  | .object ms => keys.mapM fun key => (Json.object ms).get? key
  | .array items => if items.length = keys.length then some items else none
  | _ => none

end Shape

/-- What comes back, read by a shape. -/
def decodeAs {α : Type} (method : String) (shape : Shape α) (outcome : Except RpcError Json) :
    Except RpcError α :=
  outcome.bind fun value =>
    match shape value with
    | some x => .ok x
    | none => .error (.invalidResponse (.undecodable method))

/-- The query of a method whose result has a shape. -/
def Query.ofShape {α : Type} (method : String) (params : List Json) (shape : Shape α) : Query α :=
  ⟨method, params, fun outcome => (decodeAs method shape outcome).mapError .rpc⟩

/-! ## The node -/

/-- What the node says of its chain. -/
structure ChainInfo where
  chain : String
  blocks : UInt64
  bestBlockHash : String
  deriving DecidableEq, Repr

/-- The shape of what the node says of its chain. -/
def ChainInfo.shape : Shape ChainInfo := fun value =>
  match Shape.members? ["chain", "blocks", "bestblockhash"] value with
  | some [chain, blocks, best] => do
    return ⟨← Shape.string chain, ← Shape.word blocks, ← Shape.string best⟩
  | _ => none

/-- Asks the node about its chain. -/
def chainInfo : Query ChainInfo := .ofShape "getblockchaininfo" [] ChainInfo.shape

/-- A text with its ASCII letters in lower case. -/
def lowerText (text : String) : List Char := text.toList.map Char.toLower

/-- Whether a text occurs in another. -/
def occursIn (part : List Char) : List Char → Bool
  | [] => part.isEmpty
  | c :: cs => part.isPrefixOf (c :: cs) || occursIn part cs

/-- The two ways in which the node says that it does not know a transaction. -/
def notFoundPhrases : List String := ["not found", "no such mempool or blockchain transaction"]

/-- Whether a server error says that the node does not know the transaction. -/
def saysNotFound (code : Int) (message : String) : Bool :=
  code == -5 && notFoundPhrases.any fun phrase => occursIn phrase.toList (lowerText message)

/-- The cause of a failed lookup of a transaction. -/
def lookupError (txid : String) : RpcError → QueryError
  | .server code message =>
    if saysNotFound code message then .notFound txid else .rpc (.server code message)
  | error => .rpc error

/-- Reads the outcome of a lookup. -/
def readTransaction (txid : String) : Except RpcError Json → Except QueryError Transaction
  | .error error => .error (lookupError txid error)
  | .ok raw => (Transaction.ofJson raw).mapError .invalidTransaction

/-- Asks the node for a transaction. -/
def transaction (txid : String) : Query Transaction :=
  ⟨"getrawtransaction", [.string txid, .int 1], readTransaction txid⟩

/-! ## The index -/

/-- A transaction that touches a script. Outside a block its height is zero or less. -/
structure HistoryItem where
  txHash : String
  height : Int
  deriving DecidableEq, Repr

/-- The shape of a history item. -/
def HistoryItem.shape : Shape HistoryItem := fun value =>
  match Shape.members? ["tx_hash", "height"] value with
  | some [hash, height] => do return ⟨← Shape.string hash, ← Shape.integer height⟩
  | _ => none

/-- An output that nobody has taken yet. -/
structure UnspentItem where
  txHash : String
  txPos : UInt32
  height : Int
  value : UInt64
  deriving DecidableEq, Repr

/-- The shape of an unspent output. -/
def UnspentItem.shape : Shape UnspentItem := fun value =>
  match Shape.members? ["tx_hash", "tx_pos", "height", "value"] value with
  | some [hash, pos, height, amount] => do
    return ⟨← Shape.string hash, ← Shape.word32 pos, ← Shape.integer height, ← Shape.word amount⟩
  | _ => none

/-- The base units that a script holds. -/
structure ScriptBalance where
  confirmed : Int
  unconfirmed : Int
  deriving DecidableEq, Repr

/-- The shape of a balance. -/
def ScriptBalance.shape : Shape ScriptBalance := fun value =>
  match Shape.members? ["confirmed", "unconfirmed"] value with
  | some [confirmed, unconfirmed] => do
    return ⟨← Shape.integer confirmed, ← Shape.integer unconfirmed⟩
  | _ => none

/-- Asks for the transactions that touch a script, the oldest first. -/
def history (key : String) : Query (List HistoryItem) :=
  .ofShape "blockchain.scripthash.get_history" [.string key] (Shape.list HistoryItem.shape)

/-- Asks for the unspent outputs of a script. -/
def unspent (key : String) : Query (List UnspentItem) :=
  .ofShape "blockchain.scripthash.listunspent" [.string key] (Shape.list UnspentItem.shape)

/-- Asks for the balance of a script. -/
def balance (key : String) : Query ScriptBalance :=
  .ofShape "blockchain.scripthash.get_balance" [.string key] ScriptBalance.shape

/-- A height as a record shows it: zero outside a block. -/
def confirmedHeight (height : Int) : UInt64 := UInt64.ofNat height.toNat

/-- The reference that a history item makes. -/
def HistoryItem.reference (item : HistoryItem) : History.Reference :=
  ⟨item.txHash, confirmedHeight item.height⟩

end ChainExplorer.Rpc
