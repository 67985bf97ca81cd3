import ChainExplorer.Pool.Machine
import ChainExplorer.Rpc.Client

/-!
# A client as a machine

The deadlines of a client are those of its pool and the time limits of its exchanges.
-/

namespace ChainExplorer.Rpc.Client

/-- Something that a client can do by itself. -/
def ready? (c : Client) : Option Event := c.pool.ready?.map .pool

/-- The next deadline of a client. -/
def due? (c : Client) : Option (Nat × Event) :=
  c.exchanging.foldl (fun best x => Pool.earlier best (some (x.deadline, .expire x.ticket)))
    (c.pool.due?.map fun (time, event) => (time, .pool event))

/-- A client at a later time. -/
def atTime (c : Client) (time : Nat) : Client :=
  ((c.step? (.pool (.advance time))).map (·.1)).getD c

/-- A client as a machine. -/
def machine : Machine Client Event Output where
  step? := step?
  ready? := ready?
  due? := due?
  atTime := atTime

end ChainExplorer.Rpc.Client
