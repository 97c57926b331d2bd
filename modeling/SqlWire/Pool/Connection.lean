import SqlWire.Pool.Registry
import SqlWire.Routine.Discovery

/-! # Connections

A connection is a session as a caller has it: leased from a pool, or the caller's own where the
settings ask for no pool. It remembers the routines that the server has described.
-/

namespace SqlWire

/-- A session in a caller's hands. -/
structure Connection where
  session : Session
  /-- The key of the pool that the session is leased from. -/
  pool : Option String
  config : Config
  /-- The routines that are known, by their qualified names. -/
  procedures : List (String × Procedure)
deriving Repr, DecidableEq

namespace Connection

/-- Whether the session is leased from a pool. -/
def isPooled (c : Connection) : Bool := c.pool.isSome

variable {ω : Type} [Network ω]

/-- Opens a connection of the caller's own. -/
def openUnpooled (config : Config) (w : ω) : Except PoolError Connection × ω :=
  match Session.connectNew config 0 w with
  | (.ok s, w) => (.ok ⟨s, none, config, []⟩, w)
  | (.error cause, w) => (.error (.client cause), w)

/-- Leases a session from the pool of a key. -/
def openPooled (r : Registry) (key : String) (pool : Pool) (cancellation : Cancellation) (w : ω) :
    Option (Except PoolError Connection) × Registry × ω :=
  let (result, pool, w) := pool.get cancellation w
  (result.map fun result => result.map fun s => ⟨s, some key, pool.clientConfig, []⟩,
    r.replace key pool, w)

/-- Opens a connection. There is no outcome for a caller who waits without end. -/
def connect (r : Registry) (config : Config) (cancellation : Cancellation) (w : ω) :
    Option (Except PoolError Connection) × Registry × ω :=
  match config.validate with
  | .error cause => (some (.error (.client (.config cause))), r, w)
  | .ok () =>
    match r.pool config with
    | (.error cause, r) => (some (.error cause), r, w)
    | (.ok none, r) =>
      let (result, w) := openUnpooled config w
      (some result, r, w)
    | (.ok (some (key, pool)), r) => openPooled r key pool cancellation w

/-- Gives a leased session back, and closes one that is the caller's own. -/
def close (c : Connection) (r : Registry) (w : ω) : Except PoolError Unit × Registry × ω :=
  match c.pool with
  | some key =>
    let (r, w) := r.withPool key (fun pool w => pool.release c.session w) w
    (.ok (), r, w)
  | none =>
    let (result, _, w) := c.session.dispose w
    (result.mapError .client, r, w)

def onSession {α : Type} (c : Connection) (action : Session → ω → α × Session × ω) (w : ω) :
    α × Connection × ω :=
  let (a, session, w) := action c.session w
  (a, { c with session }, w)

/-- The routine of a qualified name: it is remembered, or the server is asked. -/
def fetchProcedure (c : Connection) (name : RoutineName) (w : ω) :
    Except ClientError Procedure × Connection × ω :=
  match c.procedures.lookup name.qualified with
  | some procedure => (.ok procedure, c, w)
  | none =>
    match c.onSession (Procedure.fetch name) w with
    | (.ok procedure, c, w) =>
      (.ok procedure, { c with procedures := (name.qualified, procedure) :: c.procedures }, w)
    | (.error cause, c, w) => (.error cause, c, w)

/-- The routine that a text names on the selected database; a server that is too old to describe
routines is not asked. -/
def procedure (c : Connection) (text : String) (w : ω) :
    Except ClientError (Option Procedure) × Connection × ω :=
  if !c.session.serverVersion.describesRoutines then (.ok none, c, w)
  else
    match RoutineName.ofText c.session.database text with
    | .error cause => (.error (.binding cause), c, w)
    | .ok name =>
      let (result, c, w) := c.fetchProcedure name w
      (result.map some, c, w)

end Connection

end SqlWire
