import SqlWire.Pool.Config
import SqlWire.Pool.Health

/-! # Pools

A pool keeps sessions for later use and bounds how many there are at a time. Whoever has a session
holds a permit of the pool, and the pool notes the lease. A lease whose holder is gone without
giving the session back is a leak: its permit is found again when the pool looks for leaks.

Here is what a pool does with its own notes; what it does with sessions on a network is built on
this.
-/

namespace SqlWire

structure LeaseNote where
  /-- The number of the session. -/
  session : Nat
  /-- Whether somebody still holds the lease. -/
  isHeld : Bool
deriving Repr, DecidableEq

/-- Sessions for later use, and the permits to have one. -/
structure Pool where
  clientConfig : Config
  config : PoolConfig
  /-- How many times the pool has been cleared, a counter of 64 bits that is taken not to wrap. -/
  generation : Nat
  /-- The permits that nobody holds. -/
  permits : Nat
  /-- The sessions that nobody has; the one that came back last is first. -/
  idle : List Session
  leases : List LeaseNote
  /-- When the pool last looked for leaks because it had no permit. -/
  lastScan : Option Duration
deriving Repr, DecidableEq

/-- What a pool tells about itself. -/
structure PoolStatus where
  idle : Nat
  leased : Nat
  max : Nat
  generation : Nat
deriving Repr, DecidableEq

namespace Pool

/-- A pool without sessions. -/
def ofConfig (clientConfig : Config) (config : PoolConfig) : Except PoolConfigError Pool := do
  config.validate
  return {
    clientConfig, config
    generation := 0
    permits := config.maxSize.toNat
    idle := []
    leases := []
    lastScan := none }

def ofClient (clientConfig : Config) : Except PoolConfigError Pool :=
  ofConfig clientConfig (.ofClient clientConfig)

/-- How many sessions somebody has, or may have. -/
def leasedCount (p : Pool) : Nat := p.config.maxSize.toNat - p.permits

/-- How many sessions there are, as far as the pool knows. -/
def totalCount (p : Pool) : Nat := p.leasedCount + p.idle.length

def status (p : Pool) : PoolStatus :=
  ⟨p.idle.length, p.leasedCount, p.config.maxSize.toNat, p.generation⟩

def restorePermit (p : Pool) : Pool := { p with permits := p.permits + 1 }

def takePermit (p : Pool) : Pool := { p with permits := p.permits - 1 }

def note (p : Pool) (session : Nat) : Pool :=
  { p with leases := ⟨session, true⟩ :: p.leases.filter fun n => n.session != session }

def strike (p : Pool) (session : Nat) : Pool :=
  { p with leases := p.leases.filter fun n => n.session != session }

/-- A pool one of whose leases has no holder any more, without the session having come back. -/
def lose (p : Pool) (session : Nat) : Pool :=
  { p with leases := p.leases.map fun n =>
      if n.session == session then { n with isHeld := false } else n }

def leaks (p : Pool) : List LeaseNote := p.leases.filter fun n => !n.isHeld

/-- Takes back the permits of leases without a holder; says how many. -/
def recover (p : Pool) : Nat × Pool :=
  (p.leaks.length,
    { p with
      leases := p.leases.filter LeaseNote.isHeld, permits := p.permits + p.leaks.length })

/-- The least time between two searches for leaks that a lack of permits leads to. -/
def scanInterval : Duration := .ofSeconds 1

/-- Whether it is too early to look for leaks again. -/
def scannedLately (p : Pool) (now : Duration) : Bool :=
  p.lastScan.any fun last => now.nanos < last.nanos + scanInterval.nanos

/-- A pool that a caller has come to for a session: without a permit it looks for leaks. -/
def approached (p : Pool) (now : Duration) : Pool :=
  if p.permits == 0 && !p.scannedLately now then { p with lastScan := some now }.recover.2 else p

/-- A pool that has a session to hand out again. -/
def shelve (p : Pool) (s : Session) : Pool := { p with idle := s :: p.idle }

end Pool

end SqlWire
