import SqlWire.Pool.Connection

/-! # Blocking connections

A blocking connection does one thing at a time and waits for each. Once it is closed nothing can be
done with it, and closing it again does nothing.
-/

namespace SqlWire

/-- A connection until it is closed. -/
structure BlockingConnection where
  connection : Option Connection
deriving Repr, DecidableEq

namespace BlockingConnection

variable {ω : Type} [Network ω]

/-- Opens a connection. There is no outcome for a caller who waits without end. -/
def connect (r : Registry) (config : Config) (w : ω) :
    Option (Except PoolError BlockingConnection) × Registry × ω :=
  let (result, r, w) := Connection.connect r config .never w
  (result.map fun result => result.map fun c => ⟨some c⟩, r, w)

/-- Runs an action of the connection, unless it is closed. -/
def run {α : Type} (b : BlockingConnection)
    (action : Connection → ω → Except ClientError α × Connection × ω) (w : ω) :
    Except PoolError α × BlockingConnection × ω :=
  match b.connection with
  | none => (.error (.client .connectionClosed), b, w)
  | some c =>
    let (result, c, w) := action c w
    (result.mapError .client, ⟨some c⟩, w)

/-- Runs an action of the session, unless the connection is closed. -/
def runSession {α : Type} (b : BlockingConnection)
    (action : Session → ω → Except ClientError α × Session × ω) (w : ω) :
    Except PoolError α × BlockingConnection × ω :=
  b.run (fun c => c.onSession action) w

def close (b : BlockingConnection) (r : Registry) (w : ω) :
    Except PoolError Unit × BlockingConnection × Registry × ω :=
  match b.connection with
  | none => (.ok (), b, r, w)
  | some c =>
    let (result, r, w) := c.close r w
    (result, ⟨none⟩, r, w)

end BlockingConnection

end SqlWire
