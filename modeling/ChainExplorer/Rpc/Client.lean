import ChainExplorer.Pool.Basic
import ChainExplorer.Rpc.Message

/-!
# Calls over a pool

A client runs any number of calls over one pool. Each call acquires a connection, sends one request
under the next id and gives the connection back as soon as the exchange is over. The connection goes
back as valid exactly when a reply with the id of the request has arrived. However else an exchange
ends (by another reply, a failure, the time limit, or the caller going away), the stream may still
carry a late reply, and the connection is closed.

A call is named by a ticket, the same under which the pool knows its acquire and its lease.
-/

namespace ChainExplorer.Rpc

/-- A call that waits for a connection. -/
structure Pending where
  ticket : Nat
  method : String
  params : List Json
  deriving Repr

/-- A call that waits for its reply. -/
structure Exchange where
  ticket : Nat
  conn : Nat
  request : Request
  deadline : Nat
  deriving Repr

/-- A client. -/
structure Client where
  pool : Pool
  callTimeout : Nat
  nextId : UInt64
  pending : List Pending
  exchanging : List Exchange
  deriving Repr

namespace Client

/-- What a client asks of the server, and what it answers to its callers. -/
inductive Output where
  | connect (ticket : Nat)
  | probe (ticket conn : Nat)
  | send (ticket conn : Nat) (request : Request)
  | answer (ticket : Nat) (outcome : Except RpcError Json)

/-- What can happen to a client. -/
inductive Event where
  | call (ticket : Nat) (method : String) (params : List Json)
  /-- Something happens to the pool that no call does by itself. -/
  | pool (event : Pool.Event)
  /-- An exchange ends with a reply or a failure. -/
  | replied (ticket : Nat) (reply : Except TransportError Reply)
  /-- An exchange reaches its time limit. -/
  | expire (ticket : Nat)
  /-- The caller goes away. -/
  | drop (ticket : Nat)

/-- The client over a pool that has made no call yet. -/
def fresh (pool : Pool) (callTimeout : Nat) (firstId : UInt64) : Client :=
  ⟨pool, callTimeout, firstId, [], []⟩

/-- Whether an event of the pool comes from outside the calls. The others are steps of a call, which
the client takes itself. -/
def isExternal : Pool.Event → Bool
  | .acquire _ _ | .abandon _ | .invalidate _ | .release _ => false
  | _ => true

/-- Sends the request of a call that has got a connection. -/
def begin (c : Client) (call : Pending) (conn : Nat) : Client × List Output :=
  let request : Request := ⟨c.nextId, call.method, call.params⟩
  ({ c with
      nextId := c.nextId + 1
      exchanging := c.exchanging
        ++ [⟨call.ticket, conn, request, c.pool.now + c.callTimeout⟩] },
    [.send call.ticket conn request])

/-- Follows what the acquire of a call does next. -/
def follow (c : Client) (ticket : Nat) : Pool.Move → Client × List Output
  | .rest | .park => (c, [])
  | .connect => (c, [.connect ticket])
  | .probe conn => (c, [.probe ticket conn])
  | .grant conn =>
    match extract? (·.ticket = ticket) c.pending with
    | some (call, rest) => begin { c with pending := rest } call conn
    | none => (c, [])
  | .refuse error =>
    ({ c with pending := c.pending.filter (·.ticket ≠ ticket) },
      [.answer ticket (.error (.pool error))])

/-- Ends the lease of a call. -/
def settle (c : Client) (ticket : Nat) (valid : Bool) : Client :=
  let marked := if valid then c.pool
    else ((c.pool.step? (.invalidate ticket)).map (·.1)).getD c.pool
  { c with pool := ((marked.step? (.release ticket)).map (·.1)).getD marked }

/-- Ends an exchange: what the caller is told, and whether the connection is good. -/
def conclude (request : Request) :
    Except TransportError Reply → Except RpcError Json × Bool
  | .error error => (.error (.transport error), false)
  | .ok reply => (reply.answerTo request.id, replyId? reply.id = some request.id.toNat)

/-- Whether the clock may show a time next. -/
def mayAdvance (c : Client) (time : Nat) : Bool := c.exchanging.all (time ≤ ·.deadline)

/-- Passes an event on to the pool. -/
def poolStep? (c : Client) (event : Pool.Event) : Option (Client × List Output) :=
  (c.pool.step? event).map fun (pool, move) =>
    match event.ticket? with
    | some ticket => follow { c with pool } ticket move
    | none => ({ c with pool }, [])

/-- The client after an event; nothing where the event cannot happen. -/
def step? (c : Client) : Event → Option (Client × List Output)
  | .call ticket method params =>
    poolStep? { c with pending := c.pending ++ [⟨ticket, method, params⟩] }
      (.acquire ticket (c.pool.now + c.pool.config.acquireTimeout))
  | .pool (.advance time) => if c.mayAdvance time then c.poolStep? (.advance time) else none
  | .pool event => if isExternal event then c.poolStep? event else none
  | .replied ticket reply =>
    (extract? (·.ticket = ticket) c.exchanging).map fun (exchange, rest) =>
      let (outcome, valid) := conclude exchange.request reply
      (settle { c with exchanging := rest } ticket valid, [.answer ticket outcome])
  | .expire ticket =>
    (extract? (fun x => x.ticket = ticket && x.deadline ≤ c.pool.now) c.exchanging).map
      fun (_, rest) =>
        (settle { c with exchanging := rest } ticket false,
          [.answer ticket (.error (.transport (.timeout c.callTimeout)))])
  | .drop ticket =>
    match extract? (·.ticket = ticket) c.exchanging with
    | some (_, rest) => some (settle { c with exchanging := rest } ticket false, [])
    | none =>
      (c.pool.step? (.abandon ticket)).map fun (pool, _) =>
        ({ c with pool, pending := c.pending.filter (·.ticket ≠ ticket) }, [])

end Client

end ChainExplorer.Rpc
