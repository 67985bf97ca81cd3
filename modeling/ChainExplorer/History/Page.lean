import ChainExplorer.History.Record
import ChainExplorer.Words

/-!
# Pages of a history

The index lists the transactions of an address from the oldest on; pages run the other way. A page
is cut out of the list of references first and its records are sorted afterwards, so that a record
never moves to another page because of its block time.
-/

namespace ChainExplorer.History

/-- An entry of the index. The height is zero outside a block. -/
structure Reference where
  txid : String
  height : UInt64
  deriving DecidableEq, Repr

/-- A page. References that yielded no record are counted, not shown. -/
structure Page where
  address : String
  indexKey : String
  total : Nat
  page : Nat
  size : Nat
  skipped : Nat
  records : List Record
  deriving DecidableEq, Repr

/-- The entries of a page of a list that is read from its end. Past the largest word the start of a
page stays there, which is past any list. -/
def paginate {α : Type} (oldestFirst : List α) (page size : Nat) : List α :=
  (oldestFirst.reverse.drop (min (page * size) (wordBound - 1))).take size

/-- Whether a time may stand before another: those outside a block first, then the newest. -/
def mayPrecede (a b : UInt64) : Bool := a == 0 || (b != 0 && b ≤ a)

/-- Records in the order in which a page shows them; equal times keep their order. -/
def sortRecords (records : List Record) : List Record :=
  records.mergeSort fun a b => mayPrecede a.timestamp b.timestamp

/-- The records of the references whose transaction is known and balances, in their order. -/
def recordsOf (address : String) (found earlier : Earlier) (references : List Reference) :
    List Record :=
  references.filterMap fun reference =>
    (found reference.txid).bind fun tx => (reconcile tx earlier address).toOption

/-- The page of an address, given the index and what the two rounds of lookups found. -/
def assemble (address indexKey : String) (index : List Reference) (page size : Nat)
    (found earlier : Earlier) : Page :=
  let references := paginate index page size
  let records := recordsOf address found earlier references
  { address, indexKey, page, size
    total := index.length
    skipped := references.length - records.length
    records := sortRecords records }

end ChainExplorer.History
