import SqlWire.Session.Connect
import SqlWire.Session.Run

/-! # Cancelling

A handle cancels the command that its session waits for, by telling the server so on a connection
of its own. A handle counts only while the session has the lease under which the handle was taken;
after that it does nothing.

Cancelling has three parts: the session is marked, then the server is told, and if that fails the
mark is taken back.
-/

namespace SqlWire

/-- The means to cancel commands of a session. -/
structure CancelHandle where
  /-- The number of the session. -/
  session : Nat
  /-- The session's lease at the time when the handle was taken. -/
  lease : Nat
  config : Config
  host : String
  connectionId : UInt32
deriving Repr, DecidableEq

namespace CancelHandle

def ofSession (s : Session) : CancelHandle := ⟨s.id, s.lease, s.config, s.host, s.connectionId⟩

/-- Marks the command that the session waits for; says whether there is one that is not marked
yet. -/
def start (h : CancelHandle) (s : Session) : Bool × Session :=
  if s.lease == h.lease && s.state == .querying then (true, { s with state := .cancelling })
  else (false, s)

/-- Takes the mark back. -/
def abort (h : CancelHandle) (s : Session) : Session :=
  if s.lease == h.lease && s.state == .cancelling then { s with state := .querying } else s

/-- Whether the session waits for a command that is marked. -/
def isCancelling (h : CancelHandle) (s : Session) : Bool :=
  s.lease == h.lease && s.state == .cancelling

def connectTime : Duration := .ofSeconds 3

/-- The settings of the connection on which the server is told: the session's host and no
database. -/
def killerConfig (h : CancelHandle) : Config :=
  { h.config with
    hosts := [h.host], pooling := false, connectTimeout := connectTime, database := none }

def killStatement (h : CancelHandle) : String := s!"KILL QUERY {h.connectionId.toNat}"

variable {ω : Type} [Network ω]

/-- Tells the server on an open connection, if the command is still marked, and closes the
connection. -/
def tell (h : CancelHandle) (s killer : Session) (w : ω) : Except ClientError Unit × ω :=
  let (result, killer, w) :=
    if h.isCancelling s then
      let (result, killer, w) := killer.execute h.killStatement w
      (result.map fun _ => (), killer, w)
    else (.ok (), killer, w)
  (result, (killer.dispose w).2.2)

/-- Tells the server to stop the command, if it is marked. -/
def perform (h : CancelHandle) (s : Session) (w : ω) : Except ClientError Unit × ω :=
  if h.isCancelling s then
    match Session.connectNew h.killerConfig 0 w with
    | (.error cause, w) => (.error cause, w)
    | (.ok killer, w) => h.tell s killer w
  else (.ok (), w)

/-- Cancels the command that the session waits for; says whether the server has been told. -/
def cancel (h : CancelHandle) (s : Session) (w : ω) : Bool × Session × ω :=
  match h.start s with
  | (false, s) => (false, s, w)
  | (true, s) =>
    match h.perform s w with
    | (.ok (), w) => (true, s, w)
    | (.error _, w) => (false, h.abort s, w)

end CancelHandle

end SqlWire
