import ChainExplorer.Script.Pattern

/-!
# Transactions

A transaction takes outputs of earlier transactions and makes new ones. Amounts are words of base
units and output numbers are words of thirty-two bits, as on the wire. An input that takes nothing
is the one by which new coins enter.
-/

namespace ChainExplorer

/-- The name of an output: its transaction and its number. -/
structure OutPoint where
  txid : String
  vout : UInt32
  deriving DecidableEq, Repr

/-- An output. -/
structure TxOutput where
  value : UInt64
  index : UInt32
  script : Script
  deriving DecidableEq, Repr

/-- A transaction. The time is that of its block, zero outside one. -/
structure Transaction where
  txid : String
  blockHash : Option String
  confirmations : UInt64
  time : UInt64
  inputs : List (Option OutPoint)
  outputs : List TxOutput
  deriving DecidableEq, Repr

/-- What moves in a transaction. -/
inductive TransactionKind where
  | native
  | fungibleToken
  | nonFungibleToken
  | multisig
  deriving DecidableEq, Repr

/-- The short name of a kind. -/
def TransactionKind.name : TransactionKind → String
  | .native => "P2PKH"
  | .fungibleToken => "FT"
  | .nonFungibleToken => "NFT"
  | .multisig => "P2MS"

/-- The kind of transaction that a kind of script shows. -/
def ScriptKind.transactionKind? : ScriptKind → Option TransactionKind
  | .plainPay => some .native
  | .tokenCode .fungible => some .fungibleToken
  | .tokenCode .nonFungible => some .nonFungibleToken
  | .multisigPay => some .multisig
  | .poolTape => none
  | .unknown => none

namespace Transaction

/-- Whether a block holds the transaction. -/
def isConfirmed (tx : Transaction) : Bool := 0 < tx.confirmations

/-- Whether the transaction has one input, and that takes nothing. -/
def isCoinbase (tx : Transaction) : Bool := tx.inputs = [none]

/-- The output under a number: the first that declares it, else the one at that position. -/
def output? (tx : Transaction) (vout : UInt32) : Option TxOutput :=
  match tx.outputs.find? (·.index = vout) with
  | some output => some output
  | none => tx.outputs[vout.toNat]?

/-- The kind that the first telling output shows. -/
def kind (tx : Transaction) : TransactionKind :=
  (tx.outputs.findSome? (·.script.kind.transactionKind?)).getD .native

end Transaction

end ChainExplorer
