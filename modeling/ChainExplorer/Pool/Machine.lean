import ChainExplorer.Machine
import ChainExplorer.Pool.Basic

/-!
# A pool as a machine

The deadlines of a pool are those of its acquires and the next sweep. Its outputs are the moves of
its acquires, each with its ticket.
-/

namespace ChainExplorer.Pool

/-- The earlier of two deadlines, the first where they are equal. -/
def earlier {ε : Type} : Option (Nat × ε) → Option (Nat × ε) → Option (Nat × ε)
  | some (s, a), some (t, b) => if t < s then some (t, b) else some (s, a)
  | some a, none => some a
  | none, b => b

/-- The next deadline of a pool. -/
def due? (p : Pool) : Option (Nat × Event) :=
  let sweep := if p.closed then none else some (p.nextSweep, Event.sweep)
  p.waiters.foldl (fun best w => earlier best (some (w.deadline, .expire w.ticket))) sweep

/-- The woken acquire that looks around next. -/
def ready? (p : Pool) : Option Event := p.woken.head?.map fun w => .resume w.waiter.ticket

/-- The pool at a later time. -/
def atTime (p : Pool) (time : Nat) : Pool := ((p.step? (.advance time)).map (·.1)).getD p

/-- A pool as a machine. -/
def machine : Machine Pool Event (Nat × Move) where
  step? p event :=
    (p.step? event).map fun (p, move) =>
      (p, match event.ticket? with
        | some ticket => [(ticket, move)]
        | none => [])
  ready? := ready?
  due? := due?
  atTime := atTime

end ChainExplorer.Pool
