import ChainExplorer.Lists.Extract
import ChainExplorer.Pool.Config

/-!
# A bounded pool of connections

A pool lends connections to acquires, each named by a ticket. An acquire that gets a connection
holds a lease under its ticket until it releases it. Connections that come back wait in the idle
list for the next acquire, which probes them first; where there is none and the pool has room, an
acquire opens one; where there is no room either, it parks until something is given back.

The state is a list for each thing that an acquire can be doing, so a ticket stands in exactly one
of them, and what can happen next is one of the events of `Pool.Event`. Everything that takes time
lies outside: the pool asks for a connect or a probe (`Pool.Move`), and the outcome comes back as an
event. Time itself is an event too, and it passes only where nothing is left to do and no deadline
or sweep would be skipped.

An event is what runs between two waits and is not interrupted. That an acquire looks around and
joins the line, and that it decides for a connect or a probe, takes its place on the count and
starts it, is one event each, because it waits nowhere in between; so nothing else can happen after
the look and before what follows from it.

Waking is exact because starvation hangs on it. `wakeOne` wakes the longest parked acquire, or
leaves a permit for the next one that parks when there is none; `wakeAll` wakes whoever is parked
and leaves nothing. An acquire woken alone and then abandoned passes its wake-up on.
-/

namespace ChainExplorer

/-- A connection that waits for its next use. -/
structure Idle where
  conn : Nat
  since : Nat
  deriving DecidableEq, Repr

/-- An acquire that waits for room. -/
structure Waiter where
  ticket : Nat
  deadline : Nat
  deriving DecidableEq, Repr

/-- Whether an acquire was woken alone or with all others. -/
inductive WakeCause where
  | alone
  | together
  deriving DecidableEq, Repr

/-- An acquire that has been woken and has not looked around yet. -/
structure Woken where
  waiter : Waiter
  cause : WakeCause
  deriving DecidableEq, Repr

/-- An acquire that probes a connection. -/
structure Probe where
  ticket : Nat
  conn : Nat
  deadline : Nat
  deriving DecidableEq, Repr

/-- A connection in use. One marked invalid is closed on its release. -/
structure Lease where
  ticket : Nat
  conn : Nat
  invalid : Bool
  deriving DecidableEq, Repr

/-- A pool. Idle connections stand in the order in which they came back, parked acquires in the
order in which they parked, closed connections in the order in which they were closed. -/
structure Pool where
  config : PoolConfig
  now : Nat
  nextSweep : Nat
  closed : Bool
  /-- The count of connections that exist or are being opened. -/
  opened : Nat
  /-- Whether more was ever to be taken off the count than it held. -/
  overdrawn : Bool
  /-- A wake-up that found nobody parked. -/
  permit : Bool
  /-- When the latest connect failed and how the failure read, until one succeeds. -/
  failure : Option (Nat × String)
  idle : List Idle
  parked : List Waiter
  woken : List Woken
  probing : List Probe
  connecting : List Waiter
  leases : List Lease
  /-- The number of the next connection. -/
  nextConn : Nat
  torn : List Nat
  deriving DecidableEq, Repr

/-- What a pool shows of itself. -/
structure PoolStatus where
  idle : Nat
  opened : Nat
  maxOpen : Nat
  closed : Bool
  deriving DecidableEq, Repr

namespace Pool

/-- What an acquire does next. -/
inductive Move where
  /-- Nothing; the event was not about an acquire, or ended one that nobody waits for. -/
  | rest
  | park
  | connect
  | probe (conn : Nat)
  | grant (conn : Nat)
  | refuse (error : PoolError)
  deriving Repr

/-- What can happen to a pool. -/
inductive Event where
  | acquire (ticket deadline : Nat)
  /-- A woken acquire looks around. -/
  | resume (ticket : Nat)
  | probed (ticket : Nat)
  | probeFailed (ticket : Nat)
  | connected (ticket : Nat)
  | connectFailed (ticket : Nat) (error : TransportError)
  /-- The deadline of an acquire passes. -/
  | expire (ticket : Nat)
  /-- Whoever waits for an acquire stops waiting. -/
  | abandon (ticket : Nat)
  | invalidate (ticket : Nat)
  | release (ticket : Nat)
  | sweep
  | close
  | advance (time : Nat)
  deriving Repr

/-- The ticket that an event is about. -/
def Event.ticket? : Event → Option Nat
  | .acquire t _ | .resume t | .probed t | .probeFailed t | .connected t | .connectFailed t _
  | .expire t | .abandon t | .invalidate t | .release t => some t
  | .sweep | .close | .advance _ => none

/-- The pool that has done nothing yet. -/
def fresh (config : PoolConfig) : Pool where
  config := config
  now := 0
  nextSweep := config.evictionInterval
  closed := false
  opened := 0
  overdrawn := false
  permit := false
  failure := none
  idle := []
  parked := []
  woken := []
  probing := []
  connecting := []
  leases := []
  nextConn := 0
  torn := []

/-- A pool with the given limits, if they are usable. -/
def ofConfig (config : PoolConfig) : Except InputFault Pool :=
  match config.fault? with
  | some fault => .error fault
  | none => .ok (fresh config)

/-- What the pool shows of itself. -/
def status (p : Pool) : PoolStatus := ⟨p.idle.length, p.opened, p.config.maxOpen, p.closed⟩

/-- Takes so many off the count of connections. -/
def uncount (p : Pool) (n : Nat) : Pool :=
  { p with opened := p.opened - n, overdrawn := p.overdrawn || p.opened < n }

/-! ## Waking -/

/-- Wakes the longest parked acquire, or leaves a permit. -/
def wakeOne (p : Pool) : Pool :=
  match p.parked with
  | [] => { p with permit := true }
  | w :: ws => { p with parked := ws, woken := p.woken ++ [⟨w, .alone⟩] }

/-- Wakes every parked acquire. -/
def wakeAll (p : Pool) : Pool :=
  { p with parked := [], woken := p.woken ++ p.parked.map (⟨·, .together⟩) }

/-! ## The steps of an acquire -/

/-- How the latest connect failed, while its window lasts. -/
def recentFailure? (p : Pool) : Option String :=
  p.failure.bind fun (time, text) =>
    if p.now - time < p.config.retryWindow then some text else none

/-- Waits for room. A permit would be used up by looking around once more, and that finds the same,
so the acquire parks and the permit is gone. -/
def park (p : Pool) (waiter : Waiter) : Pool × Move :=
  ({ p with permit := false, parked := p.parked ++ [waiter] }, .park)

/-- Looks around: takes the connection that came back last, or opens one, or waits for room. -/
def look (p : Pool) (waiter : Waiter) : Pool × Move :=
  if p.closed then (p, .refuse .closed)
  else match p.idle.getLast? with
    | some last =>
      ({ p with
          idle := p.idle.dropLast
          probing := p.probing ++ [⟨waiter.ticket, last.conn, waiter.deadline⟩] },
        .probe last.conn)
    | none =>
      if p.opened < p.config.maxOpen then
        match p.recentFailure? with
        | some text => (p, .refuse (.connect (.connect text)))
        | none =>
          ({ p with opened := p.opened + 1, connecting := p.connecting ++ [waiter] }, .connect)
      else p.park waiter

/-- Takes a connection back. A good one joins the idle list of an open pool that has room for it;
any other is closed. -/
def giveBack (p : Pool) (conn : Nat) (invalid : Bool) : Pool :=
  wakeOne (
    if p.closed || invalid || p.config.maxIdle ≤ p.idle.length then
      { p.uncount 1 with torn := p.torn ++ [conn] }
    else { p with idle := p.idle ++ [⟨conn, p.now⟩] })

/-- Gives up the room reserved for a connect. -/
def giveUpRoom (p : Pool) : Pool := wakeOne (p.uncount 1)

/-- Records a lease. -/
def lease (p : Pool) (ticket conn : Nat) : Pool × Move :=
  ({ p with leases := p.leases ++ [⟨ticket, conn, false⟩] }, .grant conn)

/-! ## Sweeping and closing -/

/-- Whether an idle connection is still young enough to keep. -/
def isYoung (p : Pool) (idle : Idle) : Bool := p.now - idle.since < p.config.idleTimeout

/-- Closes the idle connections that are too old, then the oldest of those that are too many. -/
def evict (p : Pool) : Pool :=
  let young := p.idle.filter p.isYoung
  let excess := young.length - p.config.maxIdle
  let gone := p.idle.filter (!p.isYoung ·) ++ young.take excess
  let p := { p.uncount gone.length with
    idle := young.drop excess
    torn := p.torn ++ gone.map (·.conn) }
  if gone.isEmpty then p else p.wakeAll

/-- Closes the pool: every idle connection goes and every parked acquire wakes. Closing again
changes nothing. -/
def shut (p : Pool) : Pool :=
  if p.closed then p
  else
    wakeAll { p.uncount p.idle.length with
      closed := true
      idle := []
      torn := p.torn ++ p.idle.map (·.conn) }

/-! ## Deadlines -/

/-- Everyone who waits for something, with the deadline. -/
def waiters (p : Pool) : List Waiter :=
  p.parked ++ p.probing.map (fun a => ⟨a.ticket, a.deadline⟩) ++ p.connecting

/-- The tickets in use. -/
def tickets (p : Pool) : List Nat :=
  p.parked.map (·.ticket) ++ p.woken.map (·.waiter.ticket) ++ p.probing.map (·.ticket)
    ++ p.connecting.map (·.ticket) ++ p.leases.map (·.ticket)

/-- Whether the clock may show a time next: nobody is left to run, and no deadline and no sweep lies
before it. -/
def mayAdvance (p : Pool) (time : Nat) : Bool :=
  p.now ≤ time && p.woken.isEmpty && p.waiters.all (time ≤ ·.deadline)
    && (p.closed || time ≤ p.nextSweep)

/-! ## The step -/

/-- Ends an acquire whose deadline has passed. -/
def expire? (p : Pool) (ticket : Nat) : Option (Pool × Move) :=
  let due (w : Waiter) : Bool := w.ticket = ticket && w.deadline ≤ p.now
  match extract? due p.parked with
  | some (_, rest) => some ({ p with parked := rest }, .refuse .timeout)
  | none =>
    match extract? (fun a => due ⟨a.ticket, a.deadline⟩) p.probing with
    | some (a, rest) => some (giveBack { p with probing := rest } a.conn true, .refuse .timeout)
    | none =>
      match extract? due p.connecting with
      | some (_, rest) => some (giveUpRoom { p with connecting := rest }, .refuse .timeout)
      | none => none

/-- Ends an acquire that nobody waits for any more. A connection under probe goes back as it is, and
a wake-up that was meant for this acquire alone goes to the next. -/
def abandon? (p : Pool) (ticket : Nat) : Option Pool :=
  match extract? (·.ticket = ticket) p.parked with
  | some (_, rest) => some { p with parked := rest }
  | none =>
    match extract? (·.waiter.ticket = ticket) p.woken with
    | some (w, rest) =>
      match w.cause with
      | .alone => some (wakeOne { p with woken := rest })
      | .together => some { p with woken := rest }
    | none =>
      match extract? (·.ticket = ticket) p.probing with
      | some (a, rest) => some (giveBack { p with probing := rest } a.conn false)
      | none =>
        match extract? (·.ticket = ticket) p.connecting with
        | some (_, rest) => some (giveUpRoom { p with connecting := rest })
        | none => none

/-- The pool after an event, and what the acquire that the event is about does next; nothing where
the event cannot happen. -/
def step? (p : Pool) : Event → Option (Pool × Move)
  | .acquire ticket deadline =>
    if ticket ∈ p.tickets then none else some (p.look ⟨ticket, deadline⟩)
  | .resume ticket =>
    (extract? (·.waiter.ticket = ticket) p.woken).map fun (w, rest) =>
      look { p with woken := rest } w.waiter
  | .probed ticket =>
    (extract? (·.ticket = ticket) p.probing).map fun (a, rest) =>
      lease { p with probing := rest } ticket a.conn
  | .probeFailed ticket =>
    (extract? (·.ticket = ticket) p.probing).map fun (a, rest) =>
      look (giveBack { p with probing := rest } a.conn true) ⟨ticket, a.deadline⟩
  | .connected ticket =>
    (extract? (·.ticket = ticket) p.connecting).map fun (_, rest) =>
      lease { p with connecting := rest, failure := none, nextConn := p.nextConn + 1 }
        ticket p.nextConn
  | .connectFailed ticket error =>
    (extract? (·.ticket = ticket) p.connecting).map fun (_, rest) =>
      (giveUpRoom { p with connecting := rest, failure := some (p.now, error.message) },
        .refuse (.connect error))
  | .expire ticket => p.expire? ticket
  | .abandon ticket => (p.abandon? ticket).map fun p => (p, .rest)
  | .invalidate ticket =>
    (extract? (·.ticket = ticket) p.leases).map fun (l, rest) =>
      ({ p with leases := rest ++ [{ l with invalid := true }] }, .rest)
  | .release ticket =>
    (extract? (·.ticket = ticket) p.leases).map fun (l, rest) =>
      (giveBack { p with leases := rest } l.conn l.invalid, .rest)
  | .sweep =>
    if p.closed || p.now < p.nextSweep then none
    else some (evict { p with nextSweep := p.nextSweep + p.config.evictionInterval }, .rest)
  | .close => some (p.shut, .rest)
  | .advance time => if p.mayAdvance time then some ({ p with now := time }, .rest) else none

end Pool

end ChainExplorer
