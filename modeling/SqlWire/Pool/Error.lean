import SqlWire.Client.Error
import SqlWire.Clock.Duration

/-! # Errors of a pool

What keeps a pool from being made or from handing out a session.
-/

namespace SqlWire

inductive PoolConfigError where
  | noSessions
  | fewerThanMinimum
  /-- A caller gives a reason of its own. -/
  | refused (reason : String)
deriving Repr, DecidableEq

def PoolConfigError.message : PoolConfigError → String
  | noSessions => "max_size must be greater than 0"
  | fewerThanMinimum =>
    "maximum pool size must be greater than or equal to minimum pool size"
  | refused reason => reason

/-- Why a pool hands out no session. -/
inductive PoolError where
  /-- No session became free in the time allowed. -/
  | acquisitionTimeout (waited : Duration)
  | cancelled
  | configuration (cause : PoolConfigError)
  | client (cause : ClientError)
deriving Repr, DecidableEq

namespace PoolError

def label : PoolError → String
  | acquisitionTimeout _ => "AcquisitionTimeout"
  | cancelled => "Cancelled"
  | configuration _ => "Configuration"
  | client cause => "Client." ++ cause.label

def message : PoolError → String
  | acquisitionTimeout waited =>
    s!"timeout expired while waiting for a pooled session after {waited.text}"
  | cancelled => "session acquisition was cancelled"
  | configuration cause => s!"pool configuration error: {cause.message}"
  | client cause => cause.message

def isTransient : PoolError → Bool
  | acquisitionTimeout _ => true
  | client cause => cause.isTransient
  | _ => false

end PoolError

instance : ErrorText PoolError := ⟨PoolError.label, PoolError.message⟩

/-- An error of a pool's settings is the pool's. -/
instance : ErrorText PoolConfigError :=
  ⟨fun e => (PoolError.configuration e).label, fun e => (PoolError.configuration e).message⟩

end SqlWire
