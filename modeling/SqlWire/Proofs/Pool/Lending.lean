import Mathlib.Logic.Relation
import SqlWire.Proofs.Pool.Handover

/-! # Who has the sessions of a pool

A pool notes which sessions are leased, not who has them. A `Lending` has the pool and all of its
sessions: those that callers hold, those that callers have taken out of the pool's hands, and those
with which something is under way. `Operation` has all that can be done with a lending.

What the operations do to the notes of a pool and to its sessions is put together from a few moves
(`Move`), each of which moves at most one permit and one session. To settle a claim, for instance,
is to lend a session or to give the claim up. What all moves keep is thus kept by all operations but
one: to clear a pool starts a new generation, which no move does.
-/

namespace SqlWire

def numbers (sessions : List Session) : List Nat := sessions.map Session.id

@[simp] theorem numbers_nil : numbers [] = [] := rfl

@[simp] theorem numbers_cons (s : Session) (sessions : List Session) :
    numbers (s :: sessions) = s.id :: numbers sessions := rfl

@[simp] theorem numbers_append (first rest : List Session) :
    numbers (first ++ rest) = numbers first ++ numbers rest := List.map_append

/-- A pool, and who has its sessions. -/
structure Lending where
  pool : Pool
  /-- The sessions that callers have leased. -/
  held : List Session
  /-- The sessions that callers have taken out of the pool's hands. -/
  loose : List Session
  /-- The callers who have a permit and wait for a session. -/
  claims : List Claim
  /-- The sessions that are coming back. -/
  returns : List Return

/-- What can be done with a pool and its sessions. -/
inductive Operation where
  | get (cancellation : Cancellation)
  /-- The first moment of handing out a session. -/
  | claim (cancellation : Cancellation)
  /-- The second moment of handing out a session. -/
  | settle (c : Claim)
  /-- Gives up a claim instead of settling it. -/
  | giveUp (c : Claim)
  /-- Gives a session back, or drops its lease where the return runs by itself. -/
  | giveBack (number : Nat)
  /-- The first moment of taking a session back. -/
  | startReturn (number : Nat)
  /-- The second moment of taking a session back. -/
  | endReturn (r : Return)
  /-- Drops a session that is coming back instead of ending its return. -/
  | dropReturn (r : Return)
  /-- Drops a lease where nothing can run. -/
  | lose (number : Nat)
  /-- Takes a session out of the pool's hands. -/
  | detach (number : Nat)
  | recover
  | clear
  | reap
  | use (number : Nat) (u : Session.Use)

/-- Whether an operation is complete, and not one moment of two. -/
def Operation.isWhole : Operation → Bool
  | claim _ | settle _ | giveUp _ | startReturn _ | endReturn _ | dropReturn _ => false
  | _ => true

/-- Whether an operation clears the pool. -/
def Operation.isClear : Operation → Bool
  | clear => true
  | _ => false

/-- The session of a number. -/
def numbered (number : Nat) (sessions : List Session) : Option Session :=
  sessions.find? fun s => s.id == number

/-- The sessions but for the first of a number. -/
def without (number : Nat) (sessions : List Session) : List Session :=
  sessions.eraseP fun s => s.id == number

namespace Lending

/-- A pool whose sessions nobody has. -/
def ofPool (pool : Pool) : Lending := ⟨pool, [], [], [], []⟩

/-- The sessions that the pool has. -/
def shelved (l : Lending) : List Session :=
  l.pool.idle ++ l.claims.filterMap Claim.candidate ++ l.returns.map Return.session

theorem mem_shelved {l : Lending} {s : Session} : s ∈ l.shelved ↔
    s ∈ l.pool.idle ∨ (∃ c ∈ l.claims, c.candidate = some s) ∨
      ∃ r ∈ l.returns, r.session = s := by
  simp only [shelved, List.mem_append, List.mem_filterMap, List.mem_map, or_assoc]

/-- The sessions that callers have. -/
def lent (l : Lending) : List Session := l.held ++ l.loose

def sessions (l : Lending) : List Session := l.shelved ++ l.lent

theorem forall_sessions {l : Lending} {P : Session → Prop} : (∀ s ∈ l.sessions, P s) ↔
    (∀ s ∈ l.pool.idle, P s) ∧ (∀ c ∈ l.claims, ∀ s ∈ c.candidate, P s) ∧
      (∀ r ∈ l.returns, P r.session) ∧ ∀ s ∈ l.lent, P s := by
  simp only [sessions, shelved, List.forall_mem_append, List.mem_filterMap, List.mem_map,
    forall_exists_index, and_imp, forall_apply_eq_imp_iff₂, and_assoc, Option.mem_def]
  tauto

/-- How many claims and returns are under way; each of them has a permit. -/
def underWay (l : Lending) : Nat := l.claims.length + l.returns.length

/-- A lending whose sessions have been changed, each for itself. -/
def map (f : Session → Session) (l : Lending) : Lending where
  pool := { l.pool with idle := l.pool.idle.map f }
  held := l.held.map f
  loose := l.loose.map f
  claims := l.claims.map fun c => { c with candidate := c.candidate.map f }
  returns := l.returns.map fun r => { r with session := f r.session }

def replace (t : Session) (l : Lending) : Lending := l.map fun s => if s.id = t.id then t else s

variable {ω : Type} [Network ω]

def handedOut (l : Lending) (o : Operation) (w : ω) : Option Session :=
  match o with
  | .get cancellation => (l.pool.get cancellation w).1.bind Except.toOption
  | .settle c => if c ∈ l.claims then (c.settle l.pool w).1.toOption else none
  | _ => none

/-- A lending after an operation. What is to be done with a session that is not there is not
done. -/
def run (l : Lending) (o : Operation) (w : ω) : Lending × ω :=
  match o with
  | .get cancellation =>
    let (result, pool, w) := l.pool.get cancellation w
    ({ l with pool, held := (result.bind Except.toOption).toList ++ l.held }, w)
  | .claim cancellation =>
    let (result, pool, w) := l.pool.grant cancellation w
    ({ l with pool, claims := (result.bind Except.toOption).toList ++ l.claims }, w)
  | .settle c =>
    if c ∈ l.claims then
      let (result, pool, w) := c.settle l.pool w
      ({ l with pool, held := result.toOption.toList ++ l.held, claims := l.claims.erase c }, w)
    else (l, w)
  | .giveUp c =>
    if c ∈ l.claims then
      ({ l with pool := l.pool.restorePermit, claims := l.claims.erase c }, w)
    else (l, w)
  | .giveBack number =>
    match numbered number l.held with
    | some s =>
      let (pool, w) := l.pool.release s w
      ({ l with pool, held := without number l.held }, w)
    | none => (l, w)
  | .startReturn number =>
    match numbered number l.held with
    | some s =>
      let (r, pool, w) := l.pool.takeBack s w
      ({ l with pool, held := without number l.held, returns := r :: l.returns }, w)
    | none => (l, w)
  | .endReturn r =>
    if r ∈ l.returns then
      let (pool, w) := r.finish l.pool w
      ({ l with pool, returns := l.returns.erase r }, w)
    else (l, w)
  | .dropReturn r =>
    if r ∈ l.returns then
      ({ l with pool := l.pool.restorePermit, returns := l.returns.erase r }, w)
    else (l, w)
  | .lose number =>
    match numbered number l.held with
    | some s => ({ l with pool := l.pool.lose s.id, held := without number l.held }, w)
    | none => (l, w)
  | .detach number =>
    match numbered number l.held with
    | some s =>
      ({ l with pool := l.pool.lose s.id, held := without number l.held, loose := s :: l.loose }, w)
    | none => (l, w)
  | .recover => ({ l with pool := l.pool.recover.2 }, w)
  | .clear =>
    let (pool, w) := l.pool.clear w
    ({ l with pool }, w)
  | .reap =>
    let (pool, w) := l.pool.reap w
    ({ l with pool }, w)
  | .use number u =>
    match numbered number l.lent with
    | some s =>
      let (s, w) := u.run s w
      (l.replace s, w)
    | none => (l, w)

/-- Cancels what a session waits for. -/
def cancel (l : Lending) (h : CancelHandle) (w : ω) : Lending × ω :=
  match numbered h.session l.sessions with
  | some s =>
    let (_, s, w) := h.cancel s w
    (l.replace s, w)
  | none => (l, w)

/-- What becomes of a lending and of the numbers that have been given, in one move. -/
inductive Move : Lending × Nat → Lending × Nat → Prop
  /-- Others open sessions. -/
  | issue {l : Lending} {issued later : Nat} (le : issued ≤ later) : Move (l, issued) (l, later)
  | reorder {l : Lending} {held : List Session} {claims : List Claim} {returns : List Return}
    {issued : Nat} (sameHeld : l.held.Perm held) (sameClaims : l.claims.Perm claims)
    (sameReturns : l.returns.Perm returns) :
    Move (l, issued) ({ l with held, claims, returns }, issued)
  | scan {l : Lending} {issued : Nat} (time : Option Duration) :
    Move (l, issued) ({ l with pool := { l.pool with lastScan := time } }, issued)
  | recover {l : Lending} {issued : Nat} :
    Move (l, issued) ({ l with pool := l.pool.recover.2 }, issued)
  /-- A caller is given a permit and the idle session on top. -/
  | grant {l : Lending} {issued : Nat} (free : 0 < l.pool.permits) :
    Move (l, issued)
      ({ l with
        pool := { l.pool.takePermit with idle := l.pool.idle.tail }
        claims := ⟨l.pool.generation, l.pool.idle.head?⟩ :: l.claims }, issued)
  | giveUp {l : Lending} {c : Claim} {claims : List Claim} {issued : Nat} :
    Move ({ l with claims := c :: claims }, issued)
      ({ l with pool := l.pool.restorePermit, claims }, issued)
  | lend {l : Lending} {c : Claim} {claims : List Claim} {t : Session} {issued later : Nat}
    (le : issued ≤ later) (yields : c.Yields issued later t) :
    Move ({ l with claims := c :: claims }, issued)
      ({ l with pool := l.pool.note t.id, held := t :: l.held, claims }, later)
  | takeBack {l : Lending} {s : Session} {held : List Session} {r : Return} {issued : Nat}
    (same : r.session.identity = s.withoutHandles.identity)
    (kept : r.isKept = true →
      r.session.state = .connected ∧ r.session.databaseOverride = none) :
    Move ({ l with held := s :: held }, issued)
      ({ l with pool := l.pool.strike s.id, held, returns := r :: l.returns }, issued)
  | shelve {l : Lending} {r : Return} {returns : List Return} {issued : Nat} (now : Duration)
    (kept : r.isKept = true) (current : r.session.generation = l.pool.generation) :
    Move ({ l with returns := r :: returns }, issued)
      ({ l with pool := (l.pool.shelve (r.session.returned now)).restorePermit, returns }, issued)
  | drop {l : Lending} {r : Return} {returns : List Return} {issued : Nat} :
    Move ({ l with returns := r :: returns }, issued)
      ({ l with pool := l.pool.restorePermit, returns }, issued)
  /-- A lease ends without the session coming back. -/
  | detach {l : Lending} {s : Session} {held : List Session} {issued : Nat} :
    Move ({ l with held := s :: held }, issued)
      ({ l with pool := l.pool.lose s.id, held, loose := s :: l.loose }, issued)
  | forget {l : Lending} {s : Session} {loose : List Session} {issued : Nat} :
    Move ({ l with loose := s :: loose }, issued) ({ l with loose }, issued)
  | sweep {l : Lending} {idle : List Session} {issued : Nat} (left : idle <+: l.pool.idle) :
    Move (l, issued) ({ l with pool := { l.pool with idle } }, issued)
  | use {l : Lending} {f : Session → Session} {issued : Nat}
    (same : ∀ s ∈ l.lent, s.Continues (f s)) :
    Move (l, issued) ({ l with held := l.held.map f, loose := l.loose.map f }, issued)

def Moves : Lending × Nat → Lending × Nat → Prop := Relation.ReflTransGen Move

end Lending

end SqlWire
