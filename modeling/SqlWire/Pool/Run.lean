import SqlWire.Pool.Basic
import SqlWire.Session.Connect
import SqlWire.Session.Run

/-! # Running a pool

Handing out sessions, taking them back and closing those that are not wanted any more, on a
network. Every way of handing out or taking back a session moves exactly one permit.
-/

namespace SqlWire

/-- When a caller stops waiting of its own accord. -/
inductive Cancellation where
  | never
  | already
  /-- After some time. -/
  | later (time : Duration)
deriving Repr, DecidableEq

namespace Pool

variable {ω : Type} [Network ω]

/-- The network after a session has been closed; a failure to do so does not matter. -/
def discard (s : Session) (w : ω) : ω := (s.dispose w).2.2

/-- What a caller is told who waits in vain, and after what time: whichever comes first of the
pool's limit and the caller's own. -/
def inVain (p : Pool) : Cancellation → Option (PoolError × Duration)
  | .already => some (.cancelled, .zero)
  | .later time =>
    match p.config.connectionTimeout.nonZero? with
    | some limit =>
      if limit.nanos < time.nanos then some (.acquisitionTimeout limit, limit)
      else some (.cancelled, time)
    | none => some (.cancelled, time)
  | .never =>
    p.config.connectionTimeout.nonZero?.map fun limit => (.acquisitionTimeout limit, limit)

/-- The idle session that came back last, if it still serves. -/
def reuse (p : Pool) (w : ω) : Option Session × Pool × ω :=
  match p.idle with
  | [] => (none, p, w)
  | s :: rest =>
    let p := { p with idle := rest }
    if s.generation != p.generation then (none, p, discard s w)
    else
      match s.ping w with
      | (true, s, w) => (some s, p, w)
      | (false, s, w) => (none, p, discard s w)

/-- Hands out a session to a caller who has a permit: one that lay idle, or else a new one. Without
a session the permit comes back. -/
def lease (p : Pool) (w : ω) : Except PoolError Session × Pool × ω :=
  match p.reuse w with
  | (some s, p, w) => (.ok s, p.note s.id, w)
  | (none, p, w) =>
    match Session.connectNew p.clientConfig p.generation w with
    | (.ok s, w) => (.ok s, p.note s.id, w)
    | (.error cause, w) => (.error (.client cause), p.restorePermit, w)

/-- Hands out a session. There is no outcome for a caller who waits without end. -/
def get (p : Pool) (cancellation : Cancellation) (w : ω) :
    Option (Except PoolError Session) × Pool × ω :=
  let p := p.approached (Network.now w)
  if cancellation = .already then (some (.error .cancelled), p, w)
  else if p.permits == 0 then
    match p.inVain cancellation with
    | some (cause, time) => (some (.error cause), p, Network.wait time w)
    | none => (none, p, w)
  else
    let (result, p, w) := p.takePermit.lease w
    (some result, p, w)

/-- The session as it is kept, if it is: a healthy one, reset if the settings ask for it. -/
def refreshed (p : Pool) (s : Session) (w : ω) : Bool × Session × ω :=
  if (Health.ofSession s p.generation p.config.maxLifetime (Network.now w)).isHealthy then
    if p.config.connectionReset then
      let (result, s, w) := s.reset w
      (result.isOk, s, w)
    else (true, s, w)
  else (false, s, w)

/-- Keeps a session whose lease has ended, unless the pool has been cleared since it was opened. -/
def keep (p : Pool) (s : Session) (w : ω) : Pool × ω :=
  let s := s.returned (Network.now w)
  if s.generation == p.generation then (p.shelve s, w) else (p, discard s w)

/-- Takes back a session. The handles to cancel its commands are void from now on. -/
def release (p : Pool) (s : Session) (w : ω) : Pool × ω :=
  let p := p.strike s.id
  match p.refreshed s.withoutHandles w with
  | (true, s, w) =>
    let (p, w) := p.keep s w
    (p.restorePermit, w)
  | (false, s, w) => (p.restorePermit, discard s w)

/-- Closes idle sessions from the oldest on, which is first here, until one is to stay. -/
def sweepOldest (mayClose : Nat → Bool) (isUnwanted : Duration → Session → Bool) :
    List Session → ω → List Session × ω
  | [], w => ([], w)
  | s :: newer, w =>
    if mayClose (newer.length + 1) && isUnwanted (Network.now w) s then
      sweepOldest mayClose isUnwanted newer (discard s w)
    else (s :: newer, w)

def sweepWait : Duration := .ofMillis 10

/-- Closes unwanted idle sessions from the oldest on, while as many are idle as may be closed. A
sweep needs a permit. -/
def sweep (p : Pool) (mayClose : Nat → Bool) (isUnwanted : Duration → Session → Bool) (w : ω) :
    Pool × ω :=
  if !mayClose p.idle.length then (p, w)
  else if p.permits == 0 then (p, Network.wait sweepWait w)
  else
    let (left, w) := sweepOldest mayClose isUnwanted p.idle.reverse w
    ({ p with idle := left.reverse }, w)

/-- Starts a new generation and closes the idle sessions of those before. -/
def clear (p : Pool) (w : ω) : Pool × ω :=
  let p := { p with generation := p.generation + 1 }
  p.sweep (fun _ => true) (fun _ s => s.generation != p.generation) w

/-- Looks for leaks, and closes sessions that have lain idle too long as long as more sessions are
left than are to be kept. -/
def reap (p : Pool) (w : ω) : Pool × ω :=
  let p := p.recover.2
  match p.config.idleTimeout.nonZero? with
  | none => (p, w)
  | some limit =>
    p.sweep (fun idle => p.config.minSize.toNat < p.leasedCount + idle)
      (fun now s => s.isIdleSince limit now) w

end Pool

end SqlWire
