import SqlWire.Pool.Run
import SqlWire.Proofs.Session.Numbering

/-! # Handing sessions out and taking them back

Handing out a session takes two moments. First a caller is given a permit and the idle session that
came back last (`Pool.grant`); then that session is tried, or a new one is opened
(`Claim.settle`). Taking a session back takes two as well: it is examined and reset
(`Pool.takeBack`), and then kept or closed (`Return.finish`). Other things may happen in between,
and the pool may be cleared. `Pool.get_eq` and `Pool.release_eq` say that the operations of the pool
are both moments in a row.

What each moment does to the pool and what becomes of the session is said once for each of them, in
`Pool.grant_cases`, `Claim.settle_cases`, `Pool.takeBack_spec` and `Return.finish_eq`.
-/

namespace SqlWire

/-- A caller who has a permit and waits for a session. -/
structure Claim where
  /-- The generation of the pool when the permit was given. -/
  generation : Nat
  /-- The session that lay idle. -/
  candidate : Option Session
deriving DecidableEq

/-- A session that is coming back. -/
structure Return where
  /-- Whether the session is fit to be kept. -/
  isKept : Bool
  session : Session
deriving DecidableEq

variable {ω : Type} [Network ω]

/-- Gives a caller a permit and the idle session that came back last. -/
def Pool.grant (p : Pool) (cancellation : Cancellation) (w : ω) :
    Option (Except PoolError Claim) × Pool × ω :=
  let p := p.approached (Network.now w)
  if cancellation = .already then (some (.error .cancelled), p, w)
  else if p.permits == 0 then
    match p.inVain cancellation with
    | some (cause, time) => (some (.error cause), p, Network.wait time w)
    | none => (none, p, w)
  else
    (some (.ok ⟨p.generation, p.idle.head?⟩), { p.takePermit with idle := p.idle.tail }, w)

/-- Examines a session that comes back, and resets it. -/
def Pool.takeBack (p : Pool) (s : Session) (w : ω) : Return × Pool × ω :=
  let p := p.strike s.id
  let (isKept, session, w) := p.refreshed s.withoutHandles w
  (⟨isKept, session⟩, p, w)

namespace Claim

/-- The idle session, if it still serves. -/
def revive (c : Claim) (w : ω) : Option Session × ω :=
  match c.candidate with
  | none => (none, w)
  | some s =>
    if s.generation != c.generation then (none, Pool.discard s w)
    else
      match s.ping w with
      | (true, s, w) => (some s, w)
      | (false, s, w) => (none, Pool.discard s w)

/-- Hands out a session: the one that lay idle, or else a new one. -/
def settle (c : Claim) (p : Pool) (w : ω) : Except PoolError Session × Pool × ω :=
  match c.revive w with
  | (some s, w) => (.ok s, p.note s.id, w)
  | (none, w) =>
    match Session.connectNew p.clientConfig c.generation w with
    | (.ok s, w) => (.ok s, p.note s.id, w)
    | (.error cause, w) => (.error (.client cause), p.restorePermit, w)

end Claim

/-- Keeps a session that has come back, or closes it. -/
def Return.finish (r : Return) (p : Pool) (w : ω) : Pool × ω :=
  if r.isKept then
    let (p, w) := p.keep r.session w
    (p.restorePermit, w)
  else (p.restorePermit, Pool.discard r.session w)

namespace Pool

/-- A caller who has a permit is handed a session by settling a claim on the idle one on top. -/
theorem lease_eq (p : Pool) (w : ω) :
    p.lease w = Claim.settle ⟨p.generation, p.idle.head?⟩ { p with idle := p.idle.tail } w := by
  obtain ⟨clientConfig, config, generation, permits, idle, leases, lastScan⟩ := p
  cases idle with
  | nil => rfl
  | cons s rest =>
    simp only [lease, reuse, Claim.settle, Claim.revive, List.head?_cons, List.tail_cons]
    cases s.generation != generation with
    | true => rfl
    | false => rcases s.ping w with ⟨_ | _, session, w⟩ <;> rfl

/-- A session is handed out to a caller who has been granted a permit. -/
theorem get_eq (p : Pool) (cancellation : Cancellation) (w : ω) :
    p.get cancellation w =
      match p.grant cancellation w with
      | (some (.ok c), p, w) =>
        let (result, p, w) := c.settle p w
        (some result, p, w)
      | (some (.error cause), p, w) => (some (.error cause), p, w)
      | (none, p, w) => (none, p, w) := by
  unfold get grant
  generalize p.approached (Network.now w) = p
  dsimp only
  split
  · rfl
  · split
    · cases p.inVain cancellation <;> rfl
    · rw [lease_eq]
      rfl

/-- A session that comes back is examined, and then kept or closed. -/
theorem release_eq (p : Pool) (s : Session) (w : ω) :
    p.release s w =
      let (r, p, w) := p.takeBack s w
      r.finish p w := by
  unfold release takeBack
  dsimp only
  rcases (p.strike s.id).refreshed s.withoutHandles w with ⟨_ | _, session, w⟩ <;> rfl

end Pool

/-- A session that has come back is kept if it is fit and of the pool's generation, and is closed
otherwise. In either case the permit is restored. -/
theorem Return.finish_eq (r : Return) (p : Pool) (w : ω) :
    r.finish p w =
      if r.isKept = true ∧ r.session.generation = p.generation then
        ((p.shelve (r.session.returned (Network.now w))).restorePermit, w)
      else (p.restorePermit, Pool.discard r.session w) := by
  unfold finish Pool.keep
  split
  · next kept =>
    dsimp only [Session.returned]
    split
    · next current => rw [if_pos ⟨kept, eq_of_beq current⟩]
    · next stale =>
      rw [if_neg fun both => stale (beq_of_eq both.2)]
      rfl
  · next unkept => rw [if_neg fun both => unkept both.1]

namespace Health

/-- A session is healthy only if it is connected, of the generation, and on the configured
database. -/
theorem isHealthy_ofSession {s : Session} {generation : Nat} {maxLifetime now : Duration}
    (healthy : (ofSession s generation maxLifetime now).isHealthy = true) :
    s.state = .connected ∧ s.generation = generation ∧ s.databaseOverride = none := by
  unfold ofSession at healthy
  split at healthy
  · cases healthy
  · next connected =>
    split at healthy
    · cases healthy
    · next current =>
      split at healthy
      · cases healthy
      · next unset =>
        simp only [Session.isConnected, Bool.not_eq_true', Bool.not_eq_false,
          beq_iff_eq] at connected
        simp only [bne_iff_ne, ne_eq, Decidable.not_not] at current
        simp only [Option.isSome_iff_ne_none, ne_eq, Decidable.not_not] at unset
        exact ⟨connected, current, unset⟩

end Health

namespace Claim

/-- Where a session that is handed out comes from: it lay idle, or it has been opened under a number
between two bounds. -/
inductive Yields (c : Claim) (low high : Nat) (t : Session) : Prop
  | revived (s : Session) (candidate : c.candidate = some s) (current : s.generation = c.generation)
    (same : t.identity = s.identity) (connected : t.state = .connected)
  | opened (new : t.IsNew t.id c.generation) (ge : low ≤ t.id) (lt : t.id < high)

theorem revive_some {c : Claim} {w : ω} {t : Session} (revived : (c.revive w).1 = some t)
    (low high : Nat) : c.Yields low high t := by
  unfold revive at revived
  split at revived
  · cases revived
  · next s candidate =>
    split at revived
    · cases revived
    · next current =>
      have same := s.identity_ping w
      split at revived
      · next answered =>
        have connected := Session.state_ping (s := s) (w := w) (by rw [answered])
        rw [answered] at same connected
        cases revived
        refine .revived s candidate ?_ same connected
        simpa using current
      · cases revived

end Claim

open NumberedNetwork

variable [NumberedNetwork ω]

namespace Pool

theorem issued_le_discard (s : Session) (w : ω) : issued w ≤ issued (discard s w) :=
  s.issued_le_dispose w

/-- A caller who is granted no permit leaves the pool as it was when it had looked for leaks. -/
theorem grant_cases (p : Pool) (cancellation : Cancellation) (w : ω) :
    (∀ c, (p.grant cancellation w).1 ≠ some (.ok c)) ∧
        (p.grant cancellation w).2.1 = p.approached (Network.now w) ∧
        issued w ≤ issued (p.grant cancellation w).2.2 ∨
      ∃ q, q = p.approached (Network.now w) ∧ 0 < q.permits ∧
        p.grant cancellation w = (some (.ok ⟨q.generation, q.idle.head?⟩),
          { q.takePermit with idle := q.idle.tail }, w) := by
  unfold grant
  generalize p.approached (Network.now w) = q
  dsimp only
  split
  · exact .inl ⟨by simp, rfl, Nat.le_refl _⟩
  · split
    · left
      cases q.inVain cancellation with
      | none => exact ⟨by simp, rfl, Nat.le_refl _⟩
      | some reason => exact ⟨by simp, rfl, issued_le_wait ..⟩
    · next some =>
      refine .inr ⟨q, rfl, ?_, rfl⟩
      simp only [beq_iff_eq] at some
      omega

/-- A caller is granted a permit and then handed a session, or leaves the pool as it was when it had
looked for leaks. -/
theorem get_cases (p : Pool) (cancellation : Cancellation) (w : ω) :
    (∀ s, (p.get cancellation w).1 ≠ some (.ok s)) ∧
        (p.get cancellation w).2.1 = p.approached (Network.now w) ∧
        issued w ≤ issued (p.get cancellation w).2.2 ∨
      ∃ q, q = p.approached (Network.now w) ∧ 0 < q.permits ∧
        p.get cancellation w =
          let (result, p, w) := Claim.settle ⟨q.generation, q.idle.head?⟩
            { q.takePermit with idle := q.idle.tail } w
          (some result, p, w) := by
  rw [get_eq]
  rcases p.grant_cases cancellation w with ⟨refused, same, grows⟩ | ⟨q, same, free, granted⟩
  · left
    revert refused same grows
    rcases p.grant cancellation w with ⟨_ | _ | c, p', w'⟩
    · exact fun _ same grows => ⟨by simp, same, grows⟩
    · exact fun _ same grows => ⟨by simp, same, grows⟩
    · exact fun refused _ _ => absurd rfl (refused c)
  · exact .inr ⟨q, same, free, by rw [granted]⟩

/-- A session that is examined stays the one that it is, and one that is to be kept is connected, of
the generation of the pool, and on the configured database. -/
theorem refreshed_spec (p : Pool) (s : Session) (w : ω) :
    (p.refreshed s w).2.1.identity = s.identity ∧
      ((p.refreshed s w).1 = true → s.generation = p.generation ∧
        (p.refreshed s w).2.1.state = .connected ∧
          (p.refreshed s w).2.1.databaseOverride = none) ∧
      issued w ≤ issued (p.refreshed s w).2.2 := by
  unfold refreshed
  split
  · next healthy =>
    obtain ⟨connected, current, unset⟩ := Health.isHealthy_ofSession healthy
    split
    · refine ⟨s.identity_reset w, ?_, s.issued_le_reset w⟩
      intro ok
      exact ⟨current, Session.state_reset ok, Session.databaseOverride_reset ok⟩
    · exact ⟨rfl, fun _ => ⟨current, connected, unset⟩, Nat.le_refl _⟩
  · exact ⟨rfl, nofun, Nat.le_refl _⟩

/-- A session that comes back has its lease struck and its handles made void. -/
theorem takeBack_spec (p : Pool) (s : Session) (w : ω) :
    (p.takeBack s w).2.1 = p.strike s.id ∧
      (p.takeBack s w).1.session.identity = s.withoutHandles.identity ∧
      ((p.takeBack s w).1.isKept = true → s.generation = p.generation ∧
        (p.takeBack s w).1.session.state = .connected ∧
          (p.takeBack s w).1.session.databaseOverride = none) ∧
      issued w ≤ issued (p.takeBack s w).2.2 :=
  ⟨rfl, (p.strike s.id).refreshed_spec s.withoutHandles w⟩

end Pool

namespace Claim

theorem issued_le_revive (c : Claim) (w : ω) : issued w ≤ issued (c.revive w).2 := by
  unfold revive
  split
  · exact Nat.le_refl _
  · next s _ =>
    have pinged := s.issued_le_ping w
    split
    · exact Pool.issued_le_discard s w
    · split
      · next made => rwa [made] at pinged
      · next made =>
        rw [made] at pinged
        exact pinged.trans (Pool.issued_le_discard ..)

/-- A claim is settled with a session, whose lease is noted, or the permit is restored. -/
theorem settle_cases (c : Claim) (p : Pool) (w : ω) :
    issued w ≤ issued (c.settle p w).2.2 ∧
      ((∃ cause, (c.settle p w).1 = .error cause ∧ (c.settle p w).2.1 = p.restorePermit) ∨
        ∃ t, (c.settle p w).1 = .ok t ∧ (c.settle p w).2.1 = p.note t.id ∧
          c.Yields (issued w) (issued (c.settle p w).2.2) t) := by
  have grows := c.issued_le_revive w
  unfold settle
  split
  · next t w' made =>
    rw [made] at grows
    have yields := revive_some (congrArg Prod.fst made) (issued w) (issued w')
    exact ⟨grows, .inr ⟨t, rfl, rfl, yields⟩⟩
  · next w' made =>
    rw [made] at grows
    have connected := Session.issued_le_connectNew p.clientConfig c.generation w'
    split
    · next t w'' opened =>
      obtain ⟨new, ge, lt⟩ := Session.connectNew_ok (congrArg Prod.fst opened)
      rw [opened] at connected lt
      exact ⟨grows.trans connected, .inr ⟨t, rfl, rfl, .opened new (grows.trans ge) lt⟩⟩
    · next cause w'' refused =>
      rw [refused] at connected
      exact ⟨grows.trans connected, .inl ⟨_, rfl, rfl⟩⟩

end Claim

end SqlWire
