import ChainExplorer.Script.Holder
import ChainExplorer.Text.LabelSet
import ChainExplorer.Time.Utc
import ChainExplorer.Transaction.Amount
import ChainExplorer.Transaction.Basic
import ChainExplorer.Words

/-!
# Records

A record is one transaction as seen from an address: how much the address gained or lost, the fee,
who paid and who was paid. The value that flows in comes from the outputs that the transaction
takes, which live in earlier transactions; a record is made only where every one of them is known,
because a flow with a part missing shows a wrong balance.

Both sides are gone through output by output. The balance is one signed sum over both of them, wide
enough for all. The fee compares the totals of the two sides, each of which is counted in a word and
stays at the largest one.
-/

namespace ChainExplorer.History

/-- One transaction as seen from an address. -/
structure Record where
  txid : String
  balanceChange : Binary64
  fee : Binary64
  senders : LabelSet
  recipients : LabelSet
  timestamp : UInt64
  utcTime : String
  kind : TransactionKind
  deriving DecidableEq, Repr

/-- Where earlier transactions are looked up. -/
abbrev Earlier := String → Option Transaction

/-- The output that an input takes. -/
def takenOutput (earlier : Earlier) (point : OutPoint) : Except QueryError TxOutput :=
  match earlier point.txid with
  | none => .error (.notFound point.txid)
  | some tx =>
    match tx.output? point.vout with
    | none => .error (.invalidTransaction (.missingOutput point.txid point.vout.toNat))
    | some output => .ok output

/-- The outputs that a transaction takes, in the order of its inputs. -/
def takenOutputs (earlier : Earlier) (tx : Transaction) : Except QueryError (List TxOutput) :=
  (tx.inputs.filterMap id).mapM (takenOutput earlier)

/-- The holder of an output. -/
def holder? (output : TxOutput) : Option Holder := Holder.ofScript? output.script

/-- Whether an output belongs to an address. -/
def isHeldBy (address : String) (output : TxOutput) : Bool :=
  ((holder? output).bind Holder.address?) = some address

/-- A balance of an address after an output, which counts for it or against it if the address holds
the output. -/
def book (address : String) (sign : Int) (balance : Int) (output : TxOutput) : Int :=
  if isHeldBy address output then balance + sign * output.value.toNat else balance

/-- What an address gains: what is taken from it goes off, and then what is made for it comes on. -/
def balanceChange (address : String) (taken made : List TxOutput) : Int :=
  made.foldl (book address 1) (taken.foldl (book address (-1)) 0)

/-- A sum with an output more. It stays at the largest word. -/
def addCapped (sum : Nat) (output : TxOutput) : Nat :=
  min (sum + output.value.toNat) (wordBound - 1)

/-- The sum of the values of outputs, as far as a word counts. -/
def cappedTotal (outputs : List TxOutput) : Nat := outputs.foldl addCapped 0

/-- What goes to whoever makes the block; new coins pay nothing. -/
def fee (tx : Transaction) (taken : List TxOutput) : Int :=
  if tx.isCoinbase then 0 else (cappedTotal taken : Int) - cappedTotal tx.outputs

/-- The signed word nearest to an integer. -/
def clampWord (i : Int) : Int := max (-signedBound) (min i (signedBound - 1))

/-- The labels of the holders of outputs. -/
def labels (outputs : List TxOutput) : LabelSet :=
  .ofList ((outputs.filterMap holder?).map Holder.label)

/-- A side of a record. One without any holder shows the address itself. -/
def party (address : String) (outputs : List TxOutput) : LabelSet :=
  if (labels outputs).isEmpty then [address] else labels outputs

/-- The record of a transaction that takes the given outputs. -/
def recordOf (address : String) (tx : Transaction) (taken : List TxOutput) :
    Except QueryError Record :=
  match Time.blockTime tx.time with
  | .error fault => .error (.invalidTransaction (.blockTime fault))
  | .ok utcTime => .ok {
      txid := tx.txid
      balanceChange := Amount.display (clampWord (balanceChange address taken tx.outputs))
      fee := Amount.display (clampWord (fee tx taken))
      senders := party address taken
      recipients := party address tx.outputs
      timestamp := tx.time
      utcTime
      kind := tx.kind }

/-- The record of a transaction as seen from an address. -/
def reconcile (tx : Transaction) (earlier : Earlier) (address : String) :
    Except QueryError Record :=
  (takenOutputs earlier tx).bind (recordOf address tx)

end ChainExplorer.History
