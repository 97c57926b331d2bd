import SqlWire.Proofs.Pool.Balance

/-! # What is kept of the sessions of a pool

A session that lies idle is of the present generation, connected and on the configured database, and
its handles are void. This outlives whatever is done with a pool because something weaker is true of
the sessions that are elsewhere (`Guarded`): none is of a generation to come, the handles of those
that the pool has are void, and those of the others are of no later lease than the present one,
which is over when they come back.

`Guarded.move` and `Balanced.move` together make `Sound`. Along with it goes where sessions come
from (`Follows`): each was there before and has gone on, or has been opened since.
-/

namespace SqlWire

namespace Session

/-- Whether no handle of the session counts any more. -/
def IsVoid (handles : List CancelHandle) (s : Session) : Prop :=
  ∀ h ∈ handles, h.session = s.id → h.lease < s.lease

theorem IsVoid.cons {handles : List CancelHandle} {h : CancelHandle} {s : Session}
    (void : s.IsVoid handles) (other : s.id ≠ h.session) : s.IsVoid (h :: handles) := by
  intro k member its
  rcases List.mem_cons.mp member with rfl | member
  · exact absurd its.symm other
  · exact void k member its

/-- Whether no handle of the session is from a later lease. -/
def IsKnown (handles : List CancelHandle) (s : Session) : Prop :=
  ∀ h ∈ handles, h.session = s.id → h.lease ≤ s.lease

/-- Whether a session is fit to be handed out again. -/
structure IsFit (s : Session) : Prop where
  state : s.state = .connected
  databaseOverride : s.databaseOverride = none

end Session

namespace Lending

/-- What is kept of the sessions of a pool, wherever they are. -/
structure Guarded (handles : List CancelHandle) (x : Lending × Nat) : Prop where
  idle : ∀ s ∈ x.1.pool.idle,
    s.generation = x.1.pool.generation ∧ s.IsVoid handles ∧ s.IsFit
  claims : ∀ c ∈ x.1.claims, c.generation ≤ x.1.pool.generation ∧
    ∀ s ∈ c.candidate, s.generation ≤ x.1.pool.generation ∧ s.IsVoid handles
  returns : ∀ r ∈ x.1.returns, r.session.generation ≤ x.1.pool.generation ∧
    r.session.IsVoid handles ∧ (r.isKept = true → r.session.IsFit)
  lent : ∀ s ∈ x.1.lent, s.generation ≤ x.1.pool.generation ∧ s.IsKnown handles
  fresh : ∀ h ∈ handles, h.session < x.2

namespace Guarded

variable {handles : List CancelHandle} {issued : Nat} {l : Lending}

theorem grant (g : Guarded handles (l, issued)) :
    Guarded handles ({ l with
      pool := { l.pool.takePermit with idle := l.pool.idle.tail }
      claims := ⟨l.pool.generation, l.pool.idle.head?⟩ :: l.claims }, issued) := by
  obtain ⟨idle, claims, returns, lent, fresh⟩ := g
  refine ⟨fun s member => idle s (List.mem_of_mem_tail member), ?_, returns, lent, fresh⟩
  intro c member
  rcases List.mem_cons.mp member with rfl | member
  · refine ⟨Nat.le_refl _, ?_⟩
    intro s top
    obtain ⟨current, void, -⟩ := idle s (List.mem_of_mem_head? top)
    exact ⟨current.le, void⟩
  · exact claims c member

theorem lend {c : Claim} {claims : List Claim} {t : Session} {later : Nat}
    (g : Guarded handles ({ l with claims := c :: claims }, issued)) (le : issued ≤ later)
    (yields : c.Yields issued later t) :
    Guarded handles
      ({ l with pool := l.pool.note t.id, held := t :: l.held, claims }, later) := by
  obtain ⟨idle, claimed, returns, lent, fresh⟩ := g
  obtain ⟨⟨current, candidate⟩, others⟩ := List.forall_mem_cons.mp claimed
  refine ⟨idle, others, returns, ?_, fun h member => (fresh h member).trans_le le⟩
  intro s member
  rcases List.mem_cons.mp member with rfl | member
  swap
  · exact lent s member
  cases yields with
  | revived t lay _ same _ =>
    obtain ⟨old, void⟩ := candidate t lay
    obtain ⟨id, generation, lease⟩ := Session.identity_eq_iff.mp same
    constructor
    · exact generation ▸ old
    · intro h member its
      have := void h member (its.trans id)
      omega
  | opened new ge _ =>
    constructor
    · exact new.generation ▸ current
    · intro h member its
      have := fresh h member
      omega

theorem takeBack {s : Session} {held : List Session} {r : Return}
    (g : Guarded handles ({ l with held := s :: held }, issued))
    (same : r.session.identity = s.withoutHandles.identity)
    (kept : r.isKept = true →
      r.session.state = .connected ∧ r.session.databaseOverride = none) :
    Guarded handles
      ({ l with pool := l.pool.strike s.id, held, returns := r :: l.returns }, issued) := by
  obtain ⟨idle, claims, returns, lent, fresh⟩ := g
  obtain ⟨⟨old, known⟩, others⟩ := List.forall_mem_cons.mp lent
  refine ⟨idle, claims, ?_, others, fresh⟩
  intro a member
  rcases List.mem_cons.mp member with rfl | member
  swap
  · exact returns a member
  obtain ⟨id, generation, lease⟩ := Session.identity_eq_iff.mp same
  refine ⟨generation ▸ old, ?_, fun k => ⟨(kept k).1, (kept k).2⟩⟩
  intro h member its
  rw [lease]
  exact Nat.lt_succ_of_le (known h member (its.trans id))

theorem shelve {r : Return} {returns : List Return}
    (g : Guarded handles ({ l with returns := r :: returns }, issued)) (now : Duration)
    (kept : r.isKept = true) (current : r.session.generation = l.pool.generation) :
    Guarded handles ({ l with
      pool := (l.pool.shelve (r.session.returned now)).restorePermit, returns }, issued) := by
  obtain ⟨idle, claims, coming, lent, fresh⟩ := g
  obtain ⟨⟨-, void, fit⟩, others⟩ := List.forall_mem_cons.mp coming
  refine ⟨?_, claims, others, lent, fresh⟩
  intro s member
  rcases List.mem_cons.mp member with rfl | member
  · exact ⟨current, void, ⟨(fit kept).state, (fit kept).databaseOverride⟩⟩
  · exact idle s member

theorem use {f : Session → Session} (g : Guarded handles (l, issued))
    (same : ∀ s ∈ l.lent, s.Continues (f s)) :
    Guarded handles ({ l with held := l.held.map f, loose := l.loose.map f }, issued) := by
  obtain ⟨idle, claims, returns, lent, fresh⟩ := g
  refine ⟨idle, claims, returns, ?_, fresh⟩
  intro s member
  have changed : s ∈ l.lent.map f := by simpa only [Lending.lent, List.map_append] using member
  obtain ⟨s, before, rfl⟩ := List.mem_map.mp changed
  obtain ⟨id, generation, lease⟩ := same s before
  obtain ⟨old, known⟩ := lent s before
  refine ⟨generation ▸ old, ?_⟩
  intro h member its
  exact (known h member (id ▸ its)).trans lease

theorem reorder {held : List Session} {claims : List Claim} {returns : List Return}
    (g : Guarded handles (l, issued)) (sameHeld : l.held.Perm held)
    (sameClaims : l.claims.Perm claims) (sameReturns : l.returns.Perm returns) :
    Guarded handles ({ l with held, claims, returns }, issued) where
  idle := g.idle
  claims c member := g.claims c (sameClaims.mem_iff.mpr member)
  returns r member := g.returns r (sameReturns.mem_iff.mpr member)
  lent s member := g.lent s ((sameHeld.append_right l.loose).mem_iff.mpr member)
  fresh := g.fresh

/-- The handles of the sessions that the pool has are void. -/
theorem isVoid (g : Guarded handles (l, issued)) : ∀ s ∈ l.shelved, s.IsVoid handles := by
  intro s member
  rcases mem_shelved.mp member with idle | ⟨c, claimed, lay⟩ | ⟨r, coming, rfl⟩
  · exact (g.idle s idle).2.1
  · exact ((g.claims c claimed).2 s lay).2
  · exact (g.returns r coming).2.1

/-- No session is of a generation that is still to come. -/
theorem generation_le (g : Guarded handles (l, issued)) :
    ∀ s ∈ l.sessions, s.generation ≤ l.pool.generation := by
  intro s member
  rcases List.mem_append.mp member with shelved | lent
  · rcases mem_shelved.mp shelved with idle | ⟨c, claimed, lay⟩ | ⟨r, coming, rfl⟩
    · exact (g.idle s idle).1.le
    · exact ((g.claims c claimed).2 s lay).1
    · exact (g.returns r coming).1
  · exact (g.lent s lent).1

/-- One more handle is of no session that the pool has, and of no later lease of one that a caller
has. -/
theorem addHandle {h : CancelHandle} (g : Guarded handles (l, issued)) (lt : h.session < issued)
    (other : ∀ s ∈ l.shelved, s.id ≠ h.session)
    (known : ∀ s ∈ l.lent, s.id = h.session → h.lease ≤ s.lease) :
    Guarded (h :: handles) (l, issued) := by
  obtain ⟨idle, claims, returns, lent, fresh⟩ := g
  constructor
  · intro s member
    obtain ⟨current, void, fit⟩ := idle s member
    exact ⟨current, void.cons (other s (mem_shelved.mpr (.inl member))), fit⟩
  · intro c member
    obtain ⟨old, candidate⟩ := claims c member
    refine ⟨old, fun s lay => ?_⟩
    obtain ⟨before, void⟩ := candidate s lay
    exact ⟨before, void.cons (other s (mem_shelved.mpr (.inr (.inl ⟨c, member, lay⟩))))⟩
  · intro r member
    obtain ⟨old, void, fit⟩ := returns r member
    exact ⟨old, void.cons (other _ (mem_shelved.mpr (.inr (.inr ⟨r, member, rfl⟩)))), fit⟩
  · intro s member
    obtain ⟨old, before⟩ := lent s member
    refine ⟨old, fun k among its => ?_⟩
    rcases List.mem_cons.mp among with rfl | among
    · exact known s member its.symm
    · exact before k among its
  · intro k member
    rcases List.mem_cons.mp member with rfl | member
    · exact lt
    · exact fresh k member

/-- Every move keeps the guard. -/
theorem move {x y : Lending × Nat} (g : Guarded handles x) (moved : Move x y) :
    Guarded handles y := by
  cases moved with
  | issue le => exact { g with fresh := fun h member => (g.fresh h member).trans_le le }
  | reorder sameHeld sameClaims sameReturns => exact g.reorder sameHeld sameClaims sameReturns
  | scan | recover => exact { g with }
  | grant => exact g.grant
  | giveUp => exact { g with claims := (List.forall_mem_cons.mp g.claims).2 }
  | lend le yields => exact g.lend le yields
  | takeBack same kept => exact g.takeBack same kept
  | shelve now kept current => exact g.shelve now kept current
  | drop => exact { g with returns := (List.forall_mem_cons.mp g.returns).2 }
  | detach =>
    refine { g with lent := fun s member => g.lent s ?_ }
    exact List.perm_middle.mem_iff.mp member
  | forget =>
    refine { g with lent := fun s member => g.lent s ?_ }
    exact ((List.sublist_cons_self ..).append_left _).subset member
  | sweep left => exact { g with idle := fun s member => g.idle s (left.subset member) }
  | use same => exact g.use same

end Guarded

/-- What is true of sessions whatever is done with them, and of new ones, stays true. -/
theorem forall_move {P : Session → Prop} (up : ∀ s t, P s → s.Continues t → P t)
    {x y : Lending × Nat} (moved : Move x y) (new : ∀ s : Session, x.2 ≤ s.id → P s)
    (all : ∀ s ∈ x.1.sessions, P s) : ∀ s ∈ y.1.sessions, P s := by
  rw [forall_sessions] at all ⊢
  obtain ⟨idle, claims, returns, lent⟩ := all
  cases moved with
  | issue | scan | recover => exact ⟨idle, claims, returns, lent⟩
  | reorder sameHeld sameClaims sameReturns =>
    refine ⟨idle, fun c member => claims c (sameClaims.mem_iff.mpr member),
      fun r member => returns r (sameReturns.mem_iff.mpr member), fun s member => lent s ?_⟩
    exact (sameHeld.append_right _).mem_iff.mpr member
  | grant =>
    refine ⟨fun s member => idle s (List.mem_of_mem_tail member), ?_, returns, lent⟩
    intro c member s lay
    rcases List.mem_cons.mp member with rfl | member
    · exact idle s (List.mem_of_mem_head? lay)
    · exact claims c member s lay
  | giveUp => exact ⟨idle, (List.forall_mem_cons.mp claims).2, returns, lent⟩
  | lend le yields =>
    obtain ⟨candidate, others⟩ := List.forall_mem_cons.mp claims
    refine ⟨idle, others, returns, ?_⟩
    intro s member
    rcases List.mem_cons.mp member with rfl | member
    · cases yields with
      | revived t lay _ same _ => exact up t s (candidate t lay) (.of_identity same)
      | opened _ ge _ => exact new s ge
    · exact lent s member
  | takeBack same =>
    obtain ⟨id, generation, lease⟩ := Session.identity_eq_iff.mp same
    obtain ⟨first, others⟩ := List.forall_mem_cons.mp lent
    refine ⟨idle, claims, ?_, others⟩
    intro r member
    rcases List.mem_cons.mp member with rfl | member
    · exact up _ _ first ⟨id, generation, (Nat.le_succ _).trans lease.ge⟩
    · exact returns r member
  | shelve =>
    obtain ⟨first, others⟩ := List.forall_mem_cons.mp returns
    refine ⟨?_, claims, others, lent⟩
    intro s member
    rcases List.mem_cons.mp member with rfl | member
    · exact up _ _ first ⟨rfl, rfl, Nat.le_refl _⟩
    · exact idle s member
  | drop => exact ⟨idle, claims, (List.forall_mem_cons.mp returns).2, lent⟩
  | detach =>
    exact ⟨idle, claims, returns, fun s member => lent s (List.perm_middle.mem_iff.mp member)⟩
  | forget =>
    refine ⟨idle, claims, returns, fun s member => lent s ?_⟩
    exact ((List.sublist_cons_self ..).append_left _).subset member
  | sweep left => exact ⟨fun s member => idle s (left.subset member), claims, returns, lent⟩
  | @use l f _ same =>
    refine ⟨idle, claims, returns, ?_⟩
    intro s member
    have changed : s ∈ l.lent.map f := by simpa only [Lending.lent, List.map_append] using member
    obtain ⟨s, before, rfl⟩ := List.mem_map.mp changed
    exact up s (f s) (lent s before) (same s before)

/-- What is kept along every move. -/
structure Sound (max : Nat) (handles : List CancelHandle) (x : Lending × Nat) : Prop where
  balanced : Balanced max x
  guarded : Guarded handles x

/-- What moves leave as it is, and where the sessions after them come from. -/
structure Follows (x y : Lending × Nat) : Prop where
  issued_le : x.2 ≤ y.2
  config : y.1.pool.config = x.1.pool.config
  origin : ∀ s ∈ y.1.sessions, (∃ t ∈ x.1.sessions, t.Continues s) ∨ x.2 ≤ s.id

theorem Follows.refl (x : Lending × Nat) : Follows x x :=
  ⟨Nat.le_refl _, rfl, fun s member => .inl ⟨s, member, .refl s⟩⟩

theorem Follows.trans {x y z : Lending × Nat} (first : Follows x y) (second : Follows y z) :
    Follows x z where
  issued_le := first.issued_le.trans second.issued_le
  config := second.config.trans first.config
  origin s member := by
    rcases second.origin s member with ⟨t, between, onward⟩ | new
    · rcases first.origin t between with ⟨u, before, early⟩ | new
      · exact .inl ⟨u, before, early.trans onward⟩
      · exact .inr (onward.id ▸ new)
    · exact .inr (first.issued_le.trans new)

theorem follows_move {x y : Lending × Nat} (moved : Move x y) : Follows x y := by
  refine ⟨?_, ?_, ?_⟩
  · cases moved with
    | issue le | lend le => exact le
    | _ => exact Nat.le_refl _
  · cases moved <;> rfl
  · apply forall_move (P := fun s => (∃ t ∈ x.1.sessions, t.Continues s) ∨ x.2 ≤ s.id) _ moved
    · exact fun s new => .inr new
    · exact fun s member => .inl ⟨s, member, .refl s⟩
    · rintro s t (⟨u, before, early⟩ | new) onward
      · exact .inl ⟨u, before, early.trans onward⟩
      · exact .inr (onward.id ▸ new)

theorem generation_move {x y : Lending × Nat} (moved : Move x y) :
    y.1.pool.generation = x.1.pool.generation := by
  cases moved <;> rfl

/-- Moves keep what every move keeps. -/
theorem Moves.keep {max : Nat} {handles : List CancelHandle} {x y : Lending × Nat}
    (moves : Moves x y) (sound : Sound max handles x) :
    Sound max handles y ∧ Follows x y ∧ y.1.pool.generation = x.1.pool.generation := by
  induction moves with
  | refl => exact ⟨sound, .refl x, rfl⟩
  | tail _ moved ih =>
    obtain ⟨⟨balanced, guarded⟩, follows, same⟩ := ih
    exact ⟨⟨balanced.move moved, guarded.move moved⟩, follows.trans (follows_move moved),
      (generation_move moved).trans same⟩

/-- A cleared pool keeps what every move keeps. -/
theorem Sound.clear {max issued : Nat} {handles : List CancelHandle} {l : Lending}
    (sound : Sound max handles (l, issued)) :
    let next := { l with
      pool := { l.pool with generation := l.pool.generation + 1, idle := [] } }
    Sound max handles (next, issued) ∧ Follows (l, issued) (next, issued) := by
  obtain ⟨balanced, guarded⟩ := sound
  obtain ⟨permits, idle_le, held, once⟩ := balanced.sweep List.nil_prefix
  have fewer : Move (l, issued) ({ l with pool := { l.pool with idle := [] } }, issued) :=
    .sweep List.nil_prefix
  have origin := (follows_move fewer).origin
  refine ⟨⟨⟨permits, idle_le, held, once⟩, ?_⟩, Nat.le_refl _, rfl, origin⟩
  refine ⟨fun s member => absurd member List.not_mem_nil, ?_, ?_, ?_, guarded.fresh⟩
  · intro c member
    obtain ⟨old, candidate⟩ := guarded.claims c member
    exact ⟨old.trans (Nat.le_succ _), fun s its =>
      ⟨(candidate s its).1.trans (Nat.le_succ _), (candidate s its).2⟩⟩
  · intro r member
    obtain ⟨old, rest⟩ := guarded.returns r member
    exact ⟨old.trans (Nat.le_succ _), rest⟩
  · intro s member
    obtain ⟨old, known⟩ := guarded.lent s member
    exact ⟨old.trans (Nat.le_succ _), known⟩

end Lending

end SqlWire
