import ChainExplorer.Transaction.Amount
import ChainExplorer.Transaction.Basic
import ChainExplorer.Words

/-!
# Reading a transaction

The node describes a transaction as a JSON object. It is read whole or not at all: one bad input or
output makes the transaction unreadable, because a transaction with a part missing would balance
wrongly. Ids come out in lower case.
-/

namespace ChainExplorer.Transaction

/-- A result of reading a part of a transaction. -/
abbrev Read (α : Type) := Except TransactionFault α

/-- A value that has to be there. -/
def require {α : Type} (what : String) : Option α → Read α
  | some x => .ok x
  | none => .error (.missing what)

/-- Digits of a transaction id. -/
def idWidth : Nat := 64

/-- Whether a text is a transaction id. -/
def isId (text : String) : Bool := Hex.isHexOfLength idWidth text.toList

/-- An id in lower case. -/
def readId (field : String) (value : Option Json) : Read String := do
  let text ← require field (value.bind Json.string?)
  if isId text then return String.ofList (text.toList.map Hex.lower)
  else throw (.invalidId field text)

/-- A word of thirty-two bits. -/
def readWord32 (field : String) (value : Option Json) : Read UInt32 := do
  let n ← require field (value.bind Json.natural?)
  if n < halfWordBound then return UInt32.ofNat n else throw (.outOfRange field n)

/-- A word that counts as absent wherever it cannot be read. -/
def word? (raw : Json) (key : String) : Option UInt64 :=
  ((raw.get? key).bind Json.natural?).map UInt64.ofNat

/-- An input; one that has a `coinbase` member takes nothing. -/
def readInput (raw : Json) : Read (Option OutPoint) :=
  if (raw.get? "coinbase").isSome then return none
  else do
    let txid ← readId "vin.txid" (raw.get? "txid")
    let vout ← readWord32 "vin.vout" (raw.get? "vout")
    return some ⟨txid, vout⟩

/-- The amount of an output. -/
def readValue (raw : Json) : Read UInt64 := do
  let value ← require "value in vout" (raw.get? "value")
  match Amount.ofJson value with
  | .ok units => return units
  | .error fault => throw (.amount value fault)

/-- The number of the output at a position: the one it declares, else its position. -/
def readIndex (raw : Json) (position : Nat) : Read UInt32 :=
  match raw.get? "n" with
  | some n => readWord32 "vout.n" (some n)
  | none => if position < halfWordBound then .ok (UInt32.ofNat position) else .error .tooManyOutputs

/-- The script of an output. Without disassembly it counts as empty. -/
def readScript (raw : Json) : Read Script := do
  let script ← require "scriptPubKey in vout" (raw.get? "scriptPubKey")
  let hex ← require "hex in scriptPubKey" ((script.get? "hex").bind Json.string?)
  return .ofForms hex (((script.get? "asm").bind Json.string?).getD "")

/-- The output at a position. -/
def readOutput (raw : Json) (position : Nat) : Read TxOutput := do
  let value ← readValue raw
  let index ← readIndex raw position
  let script ← readScript raw
  return ⟨value, index, script⟩

/-- The block time; outside a block there is none, whatever the node says. -/
def readTime (raw : Json) (confirmations : UInt64) : UInt64 :=
  if 0 < confirmations then ((word? raw "blocktime").or (word? raw "time")).getD 0 else 0

/-- The items of an array member. -/
def readArray (raw : Json) (key : String) : Read (List Json) :=
  require (key ++ " array") ((raw.get? key).bind Json.array?)

/-- The transaction that the node describes. -/
def ofJson (raw : Json) : Read Transaction := do
  let txid ← readId "txid" (raw.get? "txid")
  let confirmations := (word? raw "confirmations").getD 0
  let inputs ← readArray raw "vin"
  let outputs ← readArray raw "vout"
  let inputs ← inputs.mapM readInput
  let outputs ← outputs.zipIdx.mapM fun (output, position) => readOutput output position
  return {
    txid, confirmations, inputs, outputs
    blockHash := (raw.get? "blockhash").bind Json.string?
    time := readTime raw confirmations }

end ChainExplorer.Transaction
