/-!
# A cap on requests

At most so many requests leave in any burst, and in the long run so many in a second. One number
carries the state: the time by which everything let through so far would be worked off at the steady
pace. A request may leave as long as that time lies less than a whole second's worth ahead.

Times are in nanoseconds.
-/

namespace ChainExplorer.Http

/-- A cap of so many requests in a second, and when what has been let through is worked off. -/
structure Rate where
  perSecond : Nat
  workedOff : Option Nat := none
  deriving DecidableEq, Repr

namespace Rate

/-- The nanoseconds of a second. -/
def second : Nat := 1000000000

/-- The time that one request takes at the steady pace. -/
def pace (rate : Rate) : Nat := second / rate.perSecond

/-- Lets a request through, or says when to ask again. -/
def pass (rate : Rate) (now : Nat) : Except Nat Rate :=
  let workedOff := rate.workedOff.getD (now + rate.pace)
  let earliest := workedOff - rate.pace * rate.perSecond
  if now < earliest then .error earliest
  else .ok { rate with workedOff := some (max workedOff now + rate.pace) }

end Rate

end ChainExplorer.Http
