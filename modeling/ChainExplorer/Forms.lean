import ChainExplorer.Rpc.Lookup

/-!
# JSON forms

What is shown to an asker is JSON. The forms below are those of the shared types; amounts in base
units are integers and amounts in coins are floats.
-/

namespace ChainExplorer

/-- An unsigned word. -/
def Json.ofWord (w : UInt64) : Json := .int w.toNat

/-- A natural number. -/
def Json.ofNat (n : Nat) : Json := .int n

/-- A value, or `null`. -/
def Json.ofOption {α : Type} (form : α → Json) : Option α → Json
  | some x => form x
  | none => .null

/-- A list of values. -/
def Json.ofList {α : Type} (form : α → Json) (xs : List α) : Json := .array (xs.map form)

/-- The form of a flavor. -/
def TokenFlavor.toJson : TokenFlavor → Json
  | .fungible => .string "fungible"
  | .nonFungible => .string "non_fungible"

/-- The form of a kind of script. -/
def ScriptKind.toJson : ScriptKind → Json
  | .plainPay => .string "plain_pay"
  | .multisigPay => .string "multisig_pay"
  | .tokenCode flavor => .object [("token_code", flavor.toJson)]
  | .poolTape => .string "token_pool_tape"
  | .unknown => .string "unknown"

/-- The form of a script. -/
def Script.toJson (script : Script) : Json :=
  .object [("asm", .string script.asm), ("hex", .string script.hex), ("kind", script.kind.toJson)]

/-- The form of a holder. -/
def Holder.toJson : Holder → Json
  | .address a => .object [("Address", .string a)]
  | .controlled key => .object [("Controlled", .string key)]
  | .opaqueScript key => .object [("Opaque", .string key)]

/-- The members of a tape, in the order of their keys. -/
def PoolTape.members (tape : PoolTape) : List (String × Json) :=
  [("base_balance", .ofWord tape.baseBalance), ("contract_id", .string tape.contractId),
    ("fee_rate", .ofOption .ofWord tape.feeRate), ("lp_balance", .ofWord tape.lpBalance),
    ("lp_partial_hash", .string tape.lpPartialHash),
    ("token_balance", .ofWord tape.tokenBalance),
    ("token_partial_hash", .string tape.tokenPartialHash)]

/-- The form of a tape. -/
def PoolTape.toJson (tape : PoolTape) : Json := .object tape.members

/-- The form of the name of an output. -/
def OutPoint.toJson (point : OutPoint) : Json :=
  .object [("txid", .string point.txid), ("vout", .ofNat point.vout.toNat)]

/-- The form of an output. -/
def TxOutput.toJson (output : TxOutput) : Json :=
  .object [("index", .ofNat output.index.toNat), ("script", output.script.toJson),
    ("value", .ofWord output.value)]

/-- The form of a transaction. -/
def Transaction.toJson (tx : Transaction) : Json :=
  .object [("block_hash", .ofOption .string tx.blockHash),
    ("confirmations", .ofWord tx.confirmations),
    ("inputs", .ofList (fun input => .object [("prevout", .ofOption OutPoint.toJson input)])
      tx.inputs),
    ("outputs", .ofList TxOutput.toJson tx.outputs), ("time", .ofWord tx.time),
    ("txid", .string tx.txid)]

namespace History

/-- The form of a record. -/
def Record.toJson (record : Record) : Json :=
  .object [("balance_change", .float record.balanceChange), ("fee", .float record.fee),
    ("recipients", .ofList .string record.recipients), ("senders", .ofList .string record.senders),
    ("timestamp", .ofWord record.timestamp), ("tx_type", .string record.kind.name),
    ("txid", .string record.txid), ("utc_time", .string record.utcTime)]

/-- The form of a page. -/
def Page.toJson (page : Page) : Json :=
  .object [("address", .string page.address), ("history", .ofList Record.toJson page.records),
    ("page", .ofNat page.page), ("script_hash", .string page.indexKey),
    ("size", .ofNat page.size), ("skipped", .ofNat page.skipped), ("total", .ofNat page.total)]

end History

namespace Lookup

/-- The form of a balance. -/
def AddressBalance.toJson (b : AddressBalance) : Json :=
  .object [("address", .string b.address), ("balance", .float b.balance),
    ("confirmed", .int b.confirmed), ("unconfirmed", .int b.unconfirmed)]

/-- The form of an unspent output. -/
def Utxo.toJson (utxo : Utxo) : Json :=
  .object [("height", .ofWord utxo.height), ("txid", .string utxo.txid),
    ("value", .ofWord utxo.value), ("vout", .ofNat utxo.vout.toNat)]

/-- The form of the state of a pool: the members of its tape, and where it stands. -/
def PoolState.toJson (state : PoolState) : Json :=
  .ofMembers (state.tape.members
    ++ [("pool_txid", .string state.txid), ("tape_vout", .ofNat state.vout.toNat)])

end Lookup

namespace Rpc

/-- The form of what the node says of its chain. -/
def ChainInfo.toJson (info : ChainInfo) : Json :=
  .object [("bestblockhash", .string info.bestBlockHash), ("blocks", .ofWord info.blocks),
    ("chain", .string info.chain)]

/-- The form of a transaction that touches a script. -/
def HistoryItem.toJson (item : HistoryItem) : Json :=
  .object [("height", .int item.height), ("tx_hash", .string item.txHash)]

/-- The form of an unspent output as the index states it. -/
def UnspentItem.toJson (item : UnspentItem) : Json :=
  .object [("height", .int item.height), ("tx_hash", .string item.txHash),
    ("tx_pos", .ofNat item.txPos.toNat), ("value", .ofWord item.value)]

/-- The form of the base units that a script holds. -/
def ScriptBalance.toJson (b : ScriptBalance) : Json :=
  .object [("confirmed", .int b.confirmed), ("unconfirmed", .int b.unconfirmed)]

end Rpc

end ChainExplorer
