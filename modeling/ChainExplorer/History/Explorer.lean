import ChainExplorer.History.Inquiry
import ChainExplorer.Rpc.Machine
import ChainExplorer.Rpc.Query

/-!
# Inquiries over two clients

An inquiry asks the index through one client and the node through another. The three parts do not
know each other; what one of them has for another is an errand, and errands are run one at a time in
the order in which they came up, before anything else. What the clients ask of their servers is
all that is seen from outside.
-/

namespace ChainExplorer

open ChainExplorer.History ChainExplorer.Rpc

/-- One of the two clients. -/
inductive Side where
  | node
  | index
  deriving DecidableEq, Repr

/-- What one part has for another. -/
inductive Errand where
  | inquiry (event : Inquiry.Event)
  | client (side : Side) (event : Client.Event)

/-- A call to the node and the lookup that it is for. -/
structure LookupCall where
  ticket : Nat
  number : Nat
  txid : String
  deriving DecidableEq, Repr

/-- An inquiry and the two clients. -/
structure Explorer where
  inquiry : Inquiry
  node : Client
  index : Client
  nextTicket : Nat := 0
  lookups : List LookupCall := []
  errands : List Errand := []

namespace Explorer

/-- What can happen to an inquiry and its clients. -/
inductive Event where
  /-- The first errand is run. -/
  | errand
  | inquiry (event : Inquiry.Event)
  | client (side : Side) (event : Client.Event)

/-- What the clients ask of their servers. -/
structure Output where
  side : Side
  output : Client.Output

/-- The client on a side. -/
def client (x : Explorer) : Side → Client
  | .node => x.node
  | .index => x.index

/-- The explorer with another state of a client. -/
def withClient (x : Explorer) (c : Client) : Side → Explorer
  | .node => { x with node := c }
  | .index => { x with index := c }

/-- Adds an errand. -/
def send (x : Explorer) (errand : Errand) : Explorer := { x with errands := x.errands ++ [errand] }

/-- Has a query made by a client, under a ticket of its own. -/
def place {α : Type} (x : Explorer) (side : Side) (query : Query α) : Explorer :=
  { x with nextTicket := x.nextTicket + 1 }.send
    (.client side (.call x.nextTicket query.method query.params))

/-- Passes a demand of the inquiry on to a client. -/
def passDown (x : Explorer) : Inquiry.Ask → Explorer
  | .index key => x.place .index (Rpc.history key)
  | .lookup number txid =>
    let call : LookupCall := ⟨x.nextTicket, number, txid⟩
    { x with lookups := x.lookups ++ [call] }.place .node (Rpc.transaction txid)
  | .drop number =>
    match extract? (·.number = number) x.lookups with
    | some (l, rest) => { x with lookups := rest }.send (.client .node (.drop l.ticket))
    | none => x

/-- What the answer of a client means to the inquiry. -/
def passUp (x : Explorer) (side : Side) (ticket : Nat) (outcome : Except RpcError Json) :
    Explorer :=
  match side with
  | .index =>
    let items := (Rpc.history x.inquiry.indexKey).read outcome
    x.send (.inquiry (.index (items.map (·.map HistoryItem.reference))))
  | .node =>
    match extract? (·.ticket = ticket) x.lookups with
    | some (l, rest) =>
      { x with lookups := rest }.send
        (.inquiry (.found l.number ((Rpc.transaction l.txid).read outcome)))
    | none => x

/-- Passes up the answers among the outputs of a client; the others are seen from outside. -/
def sort (x : Explorer) (side : Side) : List Client.Output → Explorer × List Output
  | [] => (x, [])
  | .answer ticket outcome :: rest => (x.passUp side ticket outcome).sort side rest
  | output :: rest =>
    let (x, outputs) := x.sort side rest
    (x, ⟨side, output⟩ :: outputs)

/-- The explorer after an event of its inquiry. -/
def inquiryStep? (x : Explorer) (event : Inquiry.Event) : Option (Explorer × List Output) :=
  (x.inquiry.step? event).map fun (inquiry, asks) =>
    (asks.foldl passDown { x with inquiry }, [])

/-- The explorer after an event of a client. -/
def clientStep? (x : Explorer) (side : Side) (event : Client.Event) :
    Option (Explorer × List Output) :=
  ((x.client side).step? event).map fun (c, outputs) => (x.withClient c side).sort side outputs

/-- The explorer after its first errand; one that has become pointless has no effect. -/
def runErrand? (x : Explorer) : Option (Explorer × List Output) :=
  match x.errands with
  | [] => none
  | errand :: rest =>
    let x := { x with errands := rest }
    match errand with
    | .inquiry event => some ((x.inquiryStep? event).getD (x, []))
    | .client side event => some ((x.clientStep? side event).getD (x, []))

/-- The explorer after an event; nothing where the event cannot happen. -/
def step? (x : Explorer) : Event → Option (Explorer × List Output)
  | .errand => x.runErrand?
  | .inquiry event => x.inquiryStep? event
  | .client side event => x.clientStep? side event

/-- An inquiry about an address over two clients. -/
def ask (x : Explorer) (cancelled : Bool) (address : String) (page size : Nat) : Explorer :=
  let (inquiry, asks) := Inquiry.begin x.inquiry.config x.inquiry.store cancelled address page size
  asks.foldl passDown { x with inquiry }

/-- Something that can happen without anything from outside. -/
def ready? (x : Explorer) : Option Event :=
  if !x.errands.isEmpty then some .errand
  else match x.inquiry.ready? with
    | some event => some (.inquiry event)
    | none =>
      match x.node.ready? with
      | some event => some (.client .node event)
      | none => x.index.ready?.map (.client .index)

/-- The next deadline. -/
def due? (x : Explorer) : Option (Nat × Event) :=
  Pool.earlier (x.node.due?.map fun (t, e) => (t, .client .node e))
    (x.index.due?.map fun (t, e) => (t, .client .index e))

/-- The explorer at a later time. -/
def atTime (x : Explorer) (time : Nat) : Explorer :=
  { x with node := x.node.atTime time, index := x.index.atTime time }

/-- An inquiry over two clients as a machine. -/
def machine : Machine Explorer Event Output where
  step? := step?
  ready? := ready?
  due? := due?
  atTime := atTime

/-- Two clients, and an inquiry that has ended before it began. -/
def idle (config : InquiryConfig) (store : Option Store) (node index : Client) : Explorer where
  inquiry := ⟨config, "", "", 0, 0, store, false, .done (.error .cancelled)⟩
  node := node
  index := index

end Explorer

end ChainExplorer
