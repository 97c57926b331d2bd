import Mathlib.Tactic.SplitIfs
import SqlWire.Proofs.Pool.Generations
import SqlWire.Proofs.Pool.Permits
import SqlWire.Proofs.Pool.Reuse
import SqlWire.Proofs.Session.Changes

/-! # What becomes of a session that is given back

A session that comes back is kept if it is fit for it (`Pool.Keeps`): it is connected, of the pool's
generation, on the configured database and not too old, and it is reset if the settings ask for
that. Otherwise it is closed. Whichever it is, the lease is over: its note is struck, its permit is
free, and its handles do nothing any more (`Traffic.Sound.leaseOver`).

A number is noted only for a session that is handed out (`Lending.noted_run`), so that a pool that
looks for leaks finds nothing of a lease that is over.
-/

namespace SqlWire

open NumberedNetwork Lending

/-- A session is healthy if and only if it is connected, of the generation, on the configured
database and not too old. -/
theorem Health.isHealthy_ofSession_iff {s : Session} {generation : Nat}
    {maxLifetime now : Duration} :
    (ofSession s generation maxLifetime now).isHealthy = true ↔
      s.state = .connected ∧ s.generation = generation ∧ s.databaseOverride = none ∧
        (maxLifetime = .zero ∨ now.nanos < s.createdAt.nanos + maxLifetime.nanos) := by
  have age : (!maxLifetime.isZero && s.createdAt.nanos + maxLifetime.nanos ≤ now.nanos) = false ↔
      maxLifetime = .zero ∨ now.nanos < s.createdAt.nanos + maxLifetime.nanos := by
    rw [Bool.and_eq_false_iff, Bool.not_eq_false', Duration.isZero_iff, decide_eq_false_iff_not,
      Nat.not_le]
  rw [← age]
  unfold ofSession
  split_ifs with broken stale changed expired <;>
    simp_all [isHealthy, Session.isConnected, Option.isSome_iff_ne_none]

variable {ω : Type} [Network ω]

namespace Pool

/-- Whether a pool keeps a session that comes back. -/
structure Keeps (p : Pool) (s : Session) (w : ω) : Prop where
  state : s.state = .connected
  generation : s.generation = p.generation
  databaseOverride : s.databaseOverride = none
  young : p.config.maxLifetime = .zero ∨
    (Network.now w).nanos < s.createdAt.nanos + p.config.maxLifetime.nanos
  reset : p.config.connectionReset = true → (s.withoutHandles.reset w).1.isOk = true

/-- What passes the examination is what the pool keeps. -/
theorem isKept_takeBack {p : Pool} {s : Session} {w : ω} :
    (p.takeBack s w).1.isKept = true ↔ p.Keeps s w := by
  have healthy : (Health.ofSession s.withoutHandles p.generation p.config.maxLifetime
      (Network.now w)).isHealthy = true ↔ _ := Health.isHealthy_ofSession_iff
  change ((p.strike s.id).refreshed s.withoutHandles w).1 = true ↔ _
  unfold refreshed
  split
  · next fit =>
    obtain ⟨connected, current, unset, young⟩ := healthy.mp fit
    split
    · next asked => exact ⟨fun ok => ⟨connected, current, unset, young, fun _ => ok⟩,
        fun keeps => keeps.reset asked⟩
    · next unasked =>
      exact ⟨fun _ => ⟨connected, current, unset, young, fun asked => absurd asked unasked⟩,
        fun _ => rfl⟩
  · next unfit =>
    exact ⟨nofun, fun keeps => absurd
      (healthy.mpr ⟨keeps.state, keeps.generation, keeps.databaseOverride, keeps.young⟩) unfit⟩

variable {p : Pool} {s : Session} {w : ω}

/-- Every session that the pool does not keep is closed. -/
theorem release_of_not_keeps (refuses : ¬ p.Keeps s w) :
    let (r, _, w') := p.takeBack s w
    p.release s w = ((p.strike s.id).restorePermit, discard r.session w') := by
  rw [release_eq]
  exact (Return.finish_eq ..).trans (if_neg fun both => refuses (isKept_takeBack.mp both.1))

theorem leases_finish (r : Return) (p : Pool) (w : ω) : (r.finish p w).1.leases = p.leases := by
  rw [r.finish_eq]
  split <;> rfl

theorem leases_release (p : Pool) (s : Session) (w : ω) :
    (p.release s w).1.leases = (p.strike s.id).leases := by
  rw [release_eq]
  exact leases_finish (p.takeBack s w).1 (p.takeBack s w).2.1 (p.takeBack s w).2.2

theorem leases_recover_subset (p : Pool) : p.recover.2.leases ⊆ p.leases :=
  List.filter_subset_self _

theorem leases_strike_subset (p : Pool) (number : Nat) : (p.strike number).leases ⊆ p.leases :=
  List.filter_subset_self _

theorem leases_approached_subset (p : Pool) (now : Duration) :
    (p.approached now).leases ⊆ p.leases := by
  unfold approached
  split
  · exact leases_recover_subset { p with lastScan := some now }
  · exact List.Subset.refl _

theorem sessions_leases_lose (p : Pool) (number : Nat) :
    (p.lose number).leases.map LeaseNote.session = p.leases.map LeaseNote.session := by
  rw [lose, List.map_map]
  refine List.map_congr_left fun m _ => ?_
  dsimp only [Function.comp_apply]
  split <;> rfl

variable [NumberedNetwork ω]

/-- A session that the pool keeps lies idle from then on, on top. -/
theorem release_of_keeps (keeps : p.Keeps s w) :
    let (r, _, w') := p.takeBack s w
    p.release s w =
      (((p.strike s.id).shelve (r.session.returned (Network.now w'))).restorePermit, w') := by
  obtain ⟨-, same, kept, -⟩ := p.takeBack_spec s w
  have isKept := isKept_takeBack.mpr keeps
  have current : (p.takeBack s w).1.session.generation = (p.takeBack s w).2.1.generation :=
    (Session.identity_eq_iff.mp same).2.1.trans (kept isKept).1
  rw [release_eq]
  exact (Return.finish_eq ..).trans (if_pos ⟨isKept, current⟩)

theorem leases_sweep (p : Pool) (mayClose : Nat → Bool) (isUnwanted : Duration → Session → Bool)
    (w : ω) : (p.sweep mayClose isUnwanted w).1.leases = p.leases := by
  obtain ⟨_, -, pool, -⟩ := p.sweep_spec mayClose isUnwanted w
  rw [pool]

theorem leases_grant_subset (p : Pool) (cancellation : Cancellation) (w : ω) :
    (p.grant cancellation w).2.1.leases ⊆ p.leases := by
  rcases p.grant_cases cancellation w with ⟨-, same, -⟩ | ⟨q, same, -, granted⟩
  · rw [same]
    exact p.leases_approached_subset _
  · rw [granted, same]
    exact p.leases_approached_subset _

/-- To settle a claim notes nothing but the session that is handed out. -/
theorem leases_settle (c : Claim) (p : Pool) (w : ω) : ∀ m ∈ (c.settle p w).2.1.leases,
    m ∈ p.leases ∨ ∃ t, (c.settle p w).1 = .ok t ∧ t.id = m.session := by
  intro m noted
  obtain ⟨-, ⟨_, -, pool⟩ | ⟨t, ok, pool, -⟩⟩ := c.settle_cases p w
  · rw [pool] at noted
    exact .inl noted
  · rw [pool] at noted
    rcases List.mem_cons.mp noted with rfl | before
    · exact .inr ⟨t, ok, rfl⟩
    · exact .inl (List.mem_filter.mp before).1

theorem leases_get (p : Pool) (cancellation : Cancellation) (w : ω) :
    ∀ m ∈ (p.get cancellation w).2.1.leases,
      m ∈ p.leases ∨ ∃ t, (p.get cancellation w).1 = some (.ok t) ∧ t.id = m.session := by
  intro m noted
  rcases p.get_cases cancellation w with ⟨-, same, -⟩ | ⟨q, same, -, got⟩
  · rw [same] at noted
    exact .inl (p.leases_approached_subset _ noted)
  · rw [got] at noted ⊢
    rcases leases_settle _ _ w m noted with before | ⟨t, ok, its⟩
    · rw [same] at before
      exact .inl (p.leases_approached_subset _ before)
    · exact .inr ⟨t, congrArg some ok, its⟩

end Pool

namespace Lending

variable [NumberedNetwork ω]

/-- Nothing is noted but for the sessions that are handed out. -/
theorem noted_run (l : Lending) (o : Operation) (w : ω) :
    ∀ n ∈ (l.run o w).1.noted, n ∈ l.noted ∨ ∃ s, l.handedOut o w = some s ∧ s.id = n := by
  have fewer {leases : List LeaseNote} (subset : leases ⊆ l.pool.leases) :
      ∀ n ∈ leases.map LeaseNote.session,
        n ∈ l.noted ∨ ∃ s, l.handedOut o w = some s ∧ s.id = n :=
    fun n noted => .inl (List.map_subset _ subset noted)
  have same : ∀ n ∈ l.noted, n ∈ l.noted ∨ ∃ s, l.handedOut o w = some s ∧ s.id = n :=
    fun n noted => .inl noted
  cases o with
  | get cancellation =>
    intro n noted
    obtain ⟨m, member, rfl⟩ := List.mem_map.mp noted
    rcases l.pool.leases_get cancellation w m member with before | ⟨t, ok, its⟩
    · exact .inl (List.mem_map_of_mem before)
    · exact .inr ⟨t, by rw [handedOut, ok]; rfl, its⟩
  | claim cancellation => exact fewer (l.pool.leases_grant_subset cancellation w)
  | settle c =>
    simp only [run, handedOut]
    split
    · intro n noted
      obtain ⟨m, member, rfl⟩ := List.mem_map.mp noted
      rcases Pool.leases_settle c l.pool w m member with before | ⟨t, ok, its⟩
      · exact .inl (List.mem_map_of_mem before)
      · exact .inr ⟨t, by rw [ok]; rfl, its⟩
    · exact fun n noted => .inl noted
  | giveUp c | dropReturn r =>
    simp only [run]
    split <;> exact same
  | giveBack number =>
    simp only [run]
    split
    · next s _ =>
      refine fewer ?_
      rw [Pool.leases_release]
      exact l.pool.leases_strike_subset s.id
    · exact same
  | startReturn number =>
    simp only [run]
    split
    · next s _ => exact fewer (l.pool.leases_strike_subset s.id)
    · exact same
  | endReturn r =>
    simp only [run]
    split
    · rw [noted, Pool.leases_finish]
      exact same
    · exact same
  | lose number | detach number =>
    simp only [run]
    split
    · rw [noted, Pool.sessions_leases_lose]
      exact same
    · exact same
  | recover => exact fewer l.pool.leases_recover_subset
  | clear =>
    simp only [run, Pool.clear, noted, Pool.leases_sweep]
    exact same
  | reap =>
    simp only [run, Pool.reap, noted]
    split
    · exact fewer l.pool.leases_recover_subset
    · rw [Pool.leases_sweep]
      exact fewer l.pool.leases_recover_subset
  | use number u =>
    simp only [run]
    split <;> exact same

end Lending

namespace Traffic

variable {ι : Type} [DecidableEq ι] [NumberedNetwork ω]

/-- Whether a session of some number is handed out while some events happen. -/
def HandsOut (t : Traffic ι ω) (number : Nat) : List (Event ι ω) → Prop
  | [] => False
  | e :: rest =>
    (∃ s, t.handedOut e = some s ∧ s.id = number) ∨ (t.step e).HandsOut number rest

theorem noted_step (t : Traffic ι ω) (e : Event ι ω) (i : ι) :
    ∀ n ∈ ((t.step e).lendings i).noted,
      n ∈ (t.lendings i).noted ∨ ∃ s, t.handedOut e = some s ∧ s.id = n := by
  rcases t.lendings_step e i with same | ⟨o, done, -, handed⟩ | ⟨h, -, done⟩
  · rw [same]
    exact fun n noted => .inl noted
  · rw [done, handed]
    exact Lending.noted_run _ o _
  · rw [done]
    unfold Lending.cancel
    split <;> exact fun n noted => .inl noted

/-- A number that is not noted is noted again when a session of it is handed out. -/
theorem not_noted_run {t : Traffic ι ω} {i : ι} {number : Nat}
    (unnoted : number ∉ (t.lendings i).noted) {later : List (Event ι ω)}
    (quiet : ¬ t.HandsOut number later) : number ∉ ((t.run later).lendings i).noted := by
  induction later generalizing t with
  | nil => exact unnoted
  | cons e rest ih =>
    refine ih (fun noted => ?_) fun handsOut => quiet (.inr handsOut)
    rcases t.noted_step e i number noted with before | handed
    · exact unnoted before
    · exact quiet (.inl handed)

theorem Sound.issued_le_step {t : Traffic ι ω} (sound : t.Sound) (e : Event ι ω) :
    issued t.world ≤ issued (t.step e).world := by
  have le (i : ι) : issued t.world ≤ issued (t.step e).world := ((sound.step e).2 i).1.issued_le
  cases e with
  | operate i _ | giveBackThrough _ i _ | takeHandle i _ | cancel i _ => exact le i
  | elapse w =>
    simp only [Traffic.step]
    split
    · next later => exact later
    · exact Nat.le_refl _

/-- Whether no pool has a session of some number that has been given, and no caller has one. -/
structure IsGone (t : Traffic ι ω) (number : Nat) : Prop where
  given : number < issued t.world
  absent : ∀ i, ∀ s ∈ (t.lendings i).sessions, s.id ≠ number

/-- A session that is gone does not come again. -/
theorem IsGone.step {t : Traffic ι ω} {number : Nat} (gone : t.IsGone number) (sound : t.Sound)
    (e : Event ι ω) : (t.step e).IsGone number := by
  constructor
  · exact Nat.lt_of_lt_of_le gone.given (sound.issued_le_step e)
  · intro i s member
    rcases ((sound.step e).2 i).1.origin s member with ⟨v, before, onward⟩ | new
    · exact onward.id ▸ gone.absent i v before
    · have given := gone.given
      have le : issued t.world ≤ s.id := new
      omega

theorem IsGone.run {t : Traffic ι ω} {number : Nat} (gone : t.IsGone number) (sound : t.Sound)
    (later : List (Event ι ω)) : (t.run later).IsGone number := by
  induction later generalizing t with
  | nil => exact gone
  | cons e rest ih => exact ih (gone.step sound e) (sound.step e).1

theorem IsGone.not_handsOut {t : Traffic ι ω} {number : Nat} (gone : t.IsGone number)
    (sound : t.Sound) (later : List (Event ι ω)) : ¬ t.HandsOut number later := by
  induction later generalizing t with
  | nil => exact id
  | cons e rest ih =>
    rintro (⟨s, handed, its⟩ | handsOut)
    · cases e with
      | operate i o =>
        obtain ⟨-, -, -, ⟨v, before, onward⟩ | new⟩ := (sound.each i).handedOut_spec handed
        · exact gone.absent i v before (onward.id.symm.trans its)
        · have given := gone.given
          have le : issued t.world ≤ s.id := new
          omega
      | _ => cases handed
    · exact ih (gone.step sound e) (sound.step e).1 handsOut

/-- What becomes of a lease whose session is given back. -/
structure LeaseOver (t u : Traffic ι ω) (i : ι) (s : Session) : Prop where
  /-- The note of the lease is struck, and no other one. -/
  lease : (t.lendings i).pool.leases.Perm (⟨s.id, true⟩ :: (u.lendings i).pool.leases)
  unnoted : s.id ∉ (u.lendings i).noted
  permits : (u.lendings i).pool.permits = (t.lendings i).pool.permits + 1
  held : (t.lendings i).held.Perm (s :: (u.lendings i).held)
  /-- The handles that have been taken are of this lease or of earlier ones, and these do nothing to
  the session from then on. -/
  known : s.IsKnown t.handles
  inert : ∀ x : Session, x.lease = s.lease + 1 →
    ∀ h : CancelHandle, h.lease ≤ s.lease → h.IsInert ω x
  /-- No leak is found for a session of this number before it is handed out again. -/
  forgotten : ∀ later, ¬ u.HandsOut s.id later →
    ∀ m ∈ ((u.run later).lendings i).pool.leaks, m.session ≠ s.id
  others : ∀ j, j ≠ i → u.lendings j = t.lendings j

/-- What becomes of a session that is given back. -/
structure GivenBack (t u : Traffic ι ω) (i : ι) (s after : Session) : Prop
    extends t.LeaseOver u i s where
  same : after.id = s.id ∧ after.lease = s.lease + 1
  /-- If the pool keeps it, it lies idle, on top of the others. -/
  kept : (t.lendings i).pool.Keeps s t.world →
    after.state = .connected ∧ after.returnedAt = Network.now u.world ∧
      (u.lendings i).pool.idle = after :: (t.lendings i).pool.idle
  /-- Otherwise it is closed and gone, and is not handed out again. -/
  closed : ¬ (t.lendings i).pool.Keeps s t.world →
    after.state = .closed ∧
      (let (r, _, w) := (t.lendings i).pool.takeBack s t.world
       (after, u.world) = (r.session.dispose w).2) ∧
      (u.lendings i).pool.idle = (t.lendings i).pool.idle ∧ u.IsGone s.id ∧
        ∀ later, ¬ u.HandsOut s.id later
  front : (∃ v ∈ (u.lendings i).pool.idle.head?, v.id = s.id) ↔
    (t.lendings i).pool.Keeps s t.world
  spared : u.Spares t.handles s.id

/-- A session that is given back is the pool's business. -/
theorem Sound.lendings_giveBack {t : Traffic ι ω} (sound : t.Sound) {i : ι} {s : Session}
    (held : s ∈ (t.lendings i).held) :
    let u := t.step (.operate i (.giveBack s.id))
    u.lendings i = { t.lendings i with
        pool := ((t.lendings i).pool.release s t.world).1
        held := without s.id (t.lendings i).held } ∧
      u.world = ((t.lendings i).pool.release s t.world).2 := by
  have balanced : Balanced _ (t.lendings i, issued t.world) := (sound.each i).balanced
  have done := run_giveBack (balanced.numbered_held held) t.world
  exact ⟨(t.lendings_operate i (.giveBack s.id)).trans (by rw [done]),
    (t.world_operate i (.giveBack s.id)).trans (by rw [done])⟩

/-- The note of a lease is struck when its session is given back. -/
theorem Sound.leases_giveBack {t : Traffic ι ω} (sound : t.Sound) {i : ι} {s : Session}
    (held : s ∈ (t.lendings i).held) :
    let u := t.step (.operate i (.giveBack s.id))
    (t.lendings i).pool.leases.Perm (⟨s.id, true⟩ :: (u.lendings i).pool.leases) ∧
      s.id ∉ (u.lendings i).noted := by
  have balanced : Balanced _ (t.lendings i, issued t.world) := (sound.each i).balanced
  have found := balanced.numbered_held held
  obtain ⟨rest, noted, others⟩ := (balanced.reorder (perm_without found) .rfl .rfl).lease_of_held
  have struck := Pool.leases_strike noted others
  intro u
  have leases : (u.lendings i).pool.leases = ((t.lendings i).pool.strike s.id).leases := by
    rw [(sound.lendings_giveBack held).1]
    exact Pool.leases_release ..
  rw [Lending.noted, leases]
  refine ⟨noted.trans (struck.symm.cons _), fun again => ?_⟩
  obtain ⟨m, member, its⟩ := List.mem_map.mp again
  exact others m (struck.mem_iff.mp member) its

/-- A session that is given back and not kept is gone. -/
theorem Sound.isGone_giveBack {t : Traffic ι ω} (sound : t.Sound) {i : ι} {s : Session}
    (held : s ∈ (t.lendings i).held)
    (idle : ((t.lendings i).pool.release s t.world).1.idle = (t.lendings i).pool.idle) :
    (t.step (.operate i (.giveBack s.id))).IsGone s.id := by
  have member : s ∈ (t.lendings i).sessions :=
    List.mem_append_right _ (List.mem_append_left _ held)
  have balanced : Balanced _ (t.lendings i, issued t.world) := (sound.each i).balanced
  have found := balanced.numbered_held held
  refine ⟨Nat.lt_of_lt_of_le (lt_of_mem sound member) (sound.issued_le_step _), fun j => ?_⟩
  by_cases its : j = i
  · subst its
    rw [(sound.lendings_giveBack held).1]
    refine (balanced.reorder (perm_without found) .rfl .rfl).id_ne_of_count ?_
    simp only [count_sessions, count_shelved, idle, numbers_cons, List.count_cons_self]
    omega
  · intro v among
    have same : (t.step (.operate i (.giveBack s.id))).lendings j = t.lendings j :=
      lendings_act_of_ne t its fun l => l.run (.giveBack s.id)
    rw [same] at among
    exact sound.apart j i its v among s member

theorem Sound.leaseOver {t : Traffic ι ω} (sound : t.Sound) {i : ι} {s : Session}
    (held : s ∈ (t.lendings i).held) : t.LeaseOver (t.step (.operate i (.giveBack s.id))) i s := by
  obtain ⟨permits, rest, -⟩ := sound.giveBack held
  obtain ⟨lease, unnoted⟩ := sound.leases_giveBack held
  refine ⟨lease, unnoted, permits, rest, ?_, ?_, ?_, ?_⟩
  · exact ((sound.each i).guarded.lent s (List.mem_append_left _ held)).2
  · intro x next h old
    have other : h.lease ≠ x.lease := by omega
    exact h.cancel_of_lease_ne other
  · intro later quiet m leaked its
    have member := (List.mem_filter.mp leaked).1
    exact not_noted_run unnoted quiet (List.mem_map.mpr ⟨m, member, its⟩)
  · exact fun j other => lendings_act_of_ne t other fun l => l.run (.giveBack s.id)

/-- A session that the pool keeps is given back. -/
theorem Sound.givenBack_of_keeps {t : Traffic ι ω} (sound : t.Sound) {i : ι} {s : Session}
    (held : s ∈ (t.lendings i).held) (keeps : (t.lendings i).pool.Keeps s t.world) :
    ∃ after, t.GivenBack (t.step (.operate i (.giveBack s.id))) i s after := by
  obtain ⟨lending, world⟩ := sound.lendings_giveBack held
  have done := Pool.release_of_keeps keeps
  obtain ⟨-, identity, fit, -⟩ := (t.lendings i).pool.takeBack_spec s t.world
  obtain ⟨-, connected, -⟩ := fit (Pool.isKept_takeBack.mpr keeps)
  generalize (t.lendings i).pool.takeBack s t.world = taken at done connected identity
  obtain ⟨r, q, w'⟩ := taken
  dsimp only at done identity connected
  obtain ⟨id, -, lease⟩ := Session.identity_eq_iff.mp identity
  let after := r.session.returned (Network.now w')
  have idle : ((t.step (.operate i (.giveBack s.id))).lendings i).pool.idle =
      after :: (t.lendings i).pool.idle := by
    rw [lending, done]
    rfl
  have reusable :=
    (sound.step (.operate i (.giveBack s.id))).1.reusable (idle ▸ List.mem_cons_self ..)
  refine ⟨after, sound.leaseOver held, ⟨id, lease⟩, fun _ => ⟨connected, ?_, idle⟩,
    fun refuses => absurd keeps refuses,
    ⟨fun _ => keeps, fun _ => ⟨after, by rw [idle]; rfl, id⟩⟩, ?_⟩
  · rw [world, done]
    rfl
  · have spared := reusable.spared
    rwa [show after.id = s.id from id] at spared

/-- A session that the pool does not keep is given back. -/
theorem Sound.givenBack_of_not_keeps {t : Traffic ι ω} (sound : t.Sound) {i : ι} {s : Session}
    (held : s ∈ (t.lendings i).held) (refuses : ¬ (t.lendings i).pool.Keeps s t.world) :
    ∃ after, t.GivenBack (t.step (.operate i (.giveBack s.id))) i s after := by
  obtain ⟨lending, world⟩ := sound.lendings_giveBack held
  have done := Pool.release_of_not_keeps refuses
  have identity := ((t.lendings i).pool.takeBack_spec s t.world).2.1
  rcases taken : (t.lendings i).pool.takeBack s t.world with ⟨r, q, w'⟩
  rw [taken] at done identity
  dsimp only at done identity
  have disposed := r.session.identity_dispose w'
  obtain ⟨id, -, lease⟩ := Session.identity_eq_iff.mp (disposed.trans identity)
  have idle : ((t.step (.operate i (.giveBack s.id))).lendings i).pool.idle =
      (t.lendings i).pool.idle := by
    rw [lending, done]
    rfl
  have later := (sound.step (.operate i (.giveBack s.id))).1
  have gone := sound.isGone_giveBack held (by rw [done]; rfl)
  refine ⟨(r.session.dispose w').2.1, sound.leaseOver held, ⟨id, lease⟩,
    fun keeps => absurd keeps refuses, fun _ => ⟨r.session.state_dispose w', ?_, idle, gone,
      gone.not_handsOut later⟩, ⟨?_, ?_⟩, ?_⟩
  · rw [taken, world, done]
    rfl
  · rintro ⟨v, top, its⟩
    have member : v ∈ ((t.step (.operate i (.giveBack s.id))).lendings i).sessions :=
      List.mem_append_left _ (mem_shelved.mpr (.inl (List.mem_of_head? top)))
    exact absurd its (gone.absent i v member)
  · exact fun keeps => absurd keeps refuses
  · intro h _ _ events j v among its
    exact absurd its ((gone.run later events).absent j v among)

/-- Whatever happens to pools that have just been made, a session that is given back, through
whichever pool, is kept if and only if it is fit for it, and closed otherwise; in either case its
lease is over. -/
theorem giveBack_decided {clients : ι → Config} {configs : ι → PoolConfig} {pools : ι → Pool}
    (made : ∀ i, Pool.ofConfig (clients i) (configs i) = .ok (pools i)) (w : ω)
    (events : List (Event ι ω)) (i : ι) :
    let t := (start pools w).run events
    ∀ s ∈ (t.lendings i).held, let u := t.step (.operate i (.giveBack s.id))
      (∃ after, t.GivenBack u i s after) ∧ ∀ via, t.step (.giveBackThrough via i s.id) = u := by
  intro t s held
  obtain ⟨sound, -⟩ : t.Sound ∧ _ := (sound_start made w).run events
  refine ⟨?_, fun _ => rfl⟩
  by_cases keeps : (t.lendings i).pool.Keeps s t.world
  · exact sound.givenBack_of_keeps held keeps
  · exact sound.givenBack_of_not_keeps held keeps

/-- Two sessions are lent, and the second is put on another database. -/
def changed : List (Event Bool Standin.World) :=
  [.operate false (.get .never), .operate false (.get .never),
    .operate false (.use 2 (.call (.changeDatabase "other")))]

theorem giveBack_decided_changed :
    (∀ _ : Bool, Pool.ofConfig .default twoSessions = .ok pairPool) ∧
      let t := twoPools.run changed
      numbers (t.lendings false).held = [2, 1] ∧
      ∀ s ∈ (t.lendings false).held,
        ((t.lendings false).pool.Keeps s t.world ↔ s.id = 1) ∧
        ∃ after, t.GivenBack (t.step (.operate false (.giveBack s.id))) false s after := by
  have made : ∀ _ : Bool, Pool.ofConfig .default twoSessions = .ok pairPool :=
    fun _ => pairPool_made
  have decided := giveBack_decided made twoPools.world changed false
  obtain ⟨held, fit⟩ : numbers ((twoPools.run changed).lendings false).held = [2, 1] ∧
      ∀ s ∈ ((twoPools.run changed).lendings false).held,
        (((twoPools.run changed).lendings false).pool.takeBack s
          (twoPools.run changed).world).1.isKept = true ↔ s.id = 1 := by
    decide +kernel
  refine ⟨made, held, fun s member => ⟨?_, (decided s member).1⟩⟩
  rw [← Pool.isKept_takeBack]
  exact fit s member

end Traffic

end SqlWire
