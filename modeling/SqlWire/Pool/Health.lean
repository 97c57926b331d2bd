import SqlWire.Session.Basic

/-! # Health of sessions

A session can be handed out again if a new session would be no better: it is connected, of the
pool's generation, on the configured database and not too old. The first fault in this order is the
one that is named.
-/

namespace SqlWire

/-- Whether a session can be handed out again, or why not. -/
inductive Health where
  | healthy
  | broken
  /-- The pool has been cleared since the session was opened. -/
  | stale
  | databaseChanged
  | expired
deriving Repr, DecidableEq

namespace Health

def name : Health → String
  | healthy => "healthy"
  | broken => "broken"
  | stale => "stale"
  | databaseChanged => "database_changed"
  | expired => "expired"

def isHealthy : Health → Bool
  | healthy => true
  | _ => false

/-- The health of a session in a generation; no lifetime means without end. -/
def ofSession (s : Session) (generation : Nat) (maxLifetime now : Duration) : Health :=
  if !s.isConnected then broken
  else if s.generation != generation then stale
  else if s.databaseOverride.isSome then databaseChanged
  else if !maxLifetime.isZero && s.createdAt.nanos + maxLifetime.nanos ≤ now.nanos then expired
  else healthy

end Health

/-- Whether a session has lain idle for some time. -/
def Session.isIdleSince (s : Session) (time now : Duration) : Bool :=
  s.returnedAt.nanos + time.nanos ≤ now.nanos

end SqlWire
