import SqlWire.Client.Config
import SqlWire.Pool.Error

/-! # Settings of a pool

How many sessions a pool holds, for how long, and how long a caller waits for one.
-/

namespace SqlWire

structure PoolConfig where
  minSize : UInt32
  maxSize : UInt32
  /-- How long a caller waits for a session; no time means without end. -/
  connectionTimeout : Duration
  /-- How long a session may lie idle; no time means without end. -/
  idleTimeout : Duration
  /-- How old a session may become; no time means without end. -/
  maxLifetime : Duration
  /-- Whether a session is reset when it comes back. -/
  connectionReset : Bool
deriving Repr, DecidableEq

namespace PoolConfig

def ofClient (c : Config) : PoolConfig where
  minSize := c.minPoolSize
  maxSize := c.maxPoolSize
  connectionTimeout := c.connectTimeout
  idleTimeout := c.connectionIdleTimeout
  maxLifetime := c.connectionLifetime
  connectionReset := c.connectionReset

/-- Refuses settings that leave no session, or fewer than are to be kept. -/
def validate (c : PoolConfig) : Except PoolConfigError Unit :=
  if c.maxSize == 0 then .error .noSessions
  else if c.maxSize < c.minSize then .error .fewerThanMinimum
  else .ok ()

end PoolConfig

end SqlWire
