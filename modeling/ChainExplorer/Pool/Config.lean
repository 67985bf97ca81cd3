import ChainExplorer.Error.Query

/-!
# The limits of a pool

All spans are in milliseconds.
-/

namespace ChainExplorer

/-- The limits of a pool of connections. -/
structure PoolConfig where
  /-- The most connections that may exist, idle or in use. -/
  maxOpen : Nat := 16
  /-- The most connections that are kept idle. -/
  maxIdle : Nat := 4
  /-- An idle connection unused for this long is closed by the next sweep. -/
  idleTimeout : Nat := 90000
  /-- The time from one sweep to the next. -/
  evictionInterval : Nat := 30000
  /-- How long an acquire without a deadline of its own waits. -/
  acquireTimeout : Nat := 10000
  /-- For this long after a failed connect, no other is tried. -/
  retryWindow : Nat := 2000
  deriving DecidableEq, Repr

/-- What makes limits unusable, if anything. -/
def PoolConfig.fault? (config : PoolConfig) : Option InputFault :=
  if config.maxOpen = 0 then some .noConnections
  else if config.evictionInterval = 0 then some .noEvictionInterval
  else none

end ChainExplorer
