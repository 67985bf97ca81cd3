import ChainExplorer.History.Page

/-!
# The store of transactions

What is in a block does not change any more, so a transaction that has been looked up once need not
be asked for again. The store holds so many of them, the latest used first; putting and finding both
count as use, and the one unused for longest gives way. A transaction outside a block is never kept.

A store may also keep the index of some scripts; one in memory keeps none.
-/

namespace ChainExplorer

/-- A bounded store. -/
structure Store where
  capacity : Nat
  entries : List (String × Transaction)
  index : List (String × List History.Reference)
  deriving DecidableEq, Repr

namespace Store

/-- The store that holds nothing yet. -/
def empty (capacity : Nat) : Store := ⟨capacity, [], []⟩

/-- The number of transactions held. -/
def size (store : Store) : Nat := store.entries.length

/-- Whether nothing is held. -/
def isEmpty (store : Store) : Bool := store.entries.isEmpty

/-- The transaction under an id. -/
def find? (store : Store) (txid : String) : Option Transaction :=
  (store.entries.find? (·.1 = txid)).map (·.2)

/-- The entries without the one under an id. -/
def without (store : Store) (txid : String) : List (String × Transaction) :=
  store.entries.filter (·.1 ≠ txid)

/-- The store with an entry as the latest used, cut to its capacity. -/
def touch (store : Store) (tx : Transaction) (txid : String) : Store :=
  { store with entries := ((txid, tx) :: store.without txid).take store.capacity }

/-- Offers a transaction. -/
def put (store : Store) (tx : Transaction) : Store :=
  if tx.isConfirmed then store.touch tx tx.txid else store

/-- Looks a transaction up, which counts as a use. -/
def get (store : Store) (txid : String) : Option Transaction × Store :=
  match store.find? txid with
  | some tx => (some tx, store.touch tx txid)
  | none => (none, store)

/-- The index of a script, if the store keeps it. -/
def references? (store : Store) (indexKey : String) : Option (List History.Reference) :=
  (store.index.find? (·.1 = indexKey)).map (·.2)

end Store

end ChainExplorer
