import SqlWire.Proofs.Pool.Traffic

/-! # Generations of a pool

To clear a pool starts a new generation. No session is of a generation that is still to come, and a
session keeps the generation under which it was opened; so each that was there before the pool was
cleared is of an earlier generation than every claim that is made afterwards, and none of them is
handed out for such a claim (`Sound.not_hasOpened_of_handedOut`). Wherever they are at that moment,
they are closed: those that lie idle at once, the others when they come back
(`Pool.release_stale`, `Pool.finish_stale`).
-/

namespace SqlWire

open NumberedNetwork Lending

variable {ω : Type} [Network ω]

namespace Pool

theorem generation_approached (p : Pool) (now : Duration) :
    (p.approached now).generation = p.generation := by
  unfold approached
  split <;> rfl

/-- A session of another generation is closed when it comes back. -/
theorem release_stale {p : Pool} {s : Session} (stale : s.generation ≠ p.generation) (w : ω) :
    p.release s w = ((p.strike s.id).restorePermit, discard s.withoutHandles w) := by
  have unfit : ¬(Health.ofSession s.withoutHandles (p.strike s.id).generation
      (p.strike s.id).config.maxLifetime (Network.now w)).isHealthy = true :=
    fun healthy => stale (Health.isHealthy_ofSession healthy).2.1
  simp only [release, refreshed, if_neg unfit]

/-- A session of another generation is closed even if it was fit when it was examined. -/
theorem finish_stale {p : Pool} {r : Return} (stale : r.session.generation ≠ p.generation) (w : ω) :
    r.finish p w = (p.restorePermit, discard r.session w) := by
  rw [r.finish_eq, if_neg fun both => stale both.2]

/-- A claim is of the generation in which it is made. -/
theorem generation_of_grant [NumberedNetwork ω] {p : Pool} {cancellation : Cancellation} {w : ω}
    {c : Claim} (granted : (p.grant cancellation w).1 = some (.ok c)) :
    c.generation = p.generation := by
  rcases p.grant_cases cancellation w with ⟨refused, -⟩ | ⟨q, same, -, made⟩
  · exact absurd granted (refused c)
  · rw [made] at granted
    cases granted
    rw [same]
    exact p.generation_approached _

end Pool

namespace Lending.Balanced

variable {max issued : Nat} {l : Lending}

/-- A session that is somewhere in one state, and in one place less in another, is nowhere there. -/
theorem id_ne_of_count {next : Lending} (b : Balanced max (l, issued)) {number : Nat}
    (fewer : (numbers next.sessions).count number < (numbers l.sessions).count number) :
    ∀ s ∈ next.sessions, s.id ≠ number := by
  intro s member same
  have again : 0 < (numbers next.sessions).count number :=
    List.count_pos_iff.mpr (List.mem_map.mpr ⟨s, member, same⟩)
  have once : (numbers l.sessions).count number ≤ 1 := (b.once number).2.1
  omega

end Lending.Balanced

namespace Traffic

variable {ι : Type} [NumberedNetwork ω]

/-- Whether the number of a session had been given. -/
def HasOpened (t : Traffic ι ω) (s : Session) : Prop := s.id < issued t.world

/-- A session that had been opened is of no later generation, whatever has happened since. -/
theorem Sound.generation_le {t : Traffic ι ω} (sound : t.Sound) {i : ι} {s : Session}
    {later : Lending × Nat} (follows : Follows (t.view i) later) (member : s ∈ later.1.sessions)
    (old : t.HasOpened s) : s.generation ≤ (t.lendings i).pool.generation := by
  rcases follows.origin s member with ⟨v, before, onward⟩ | new
  · rw [onward.generation]
    exact (sound.each i).guarded.generation_le v before
  · exact absurd old (Nat.not_lt.mpr new)

/-- A session that had been opened is not handed out for a claim of a later generation. -/
theorem Sound.not_hasOpened_of_handedOut {t u : Traffic ι ω} (sound : t.Sound) (later : u.Sound)
    {i : ι} (follows : Follows (t.view i) (u.view i))
    (cleared : (t.lendings i).pool.generation < (u.lendings i).pool.generation) {o : Operation}
    (young : ∀ c, o = .settle c → (t.lendings i).pool.generation < c.generation) {s : Session}
    (handed : u.handedOut (.operate i o) = some s) : ¬t.HasOpened s := by
  obtain ⟨pool, c, claims, _, moves, yields, source⟩ := (later.each i).claim_of_handedOut handed
  have lt : (t.lendings i).pool.generation < c.generation := by
    rcases source with settled | present
    · exact young c settled
    · exact present ▸ cleared
  cases yields with
  | revived v lay current same _ =>
    have onward := follows.trans (moves.keep (later.each i)).2.1
    have member : v ∈ Lending.sessions { u.lendings i with pool, claims := c :: claims } :=
      List.mem_append_left _ (mem_shelved.mpr (.inr (.inl ⟨c, List.mem_cons_self .., lay⟩)))
    intro old
    have number : s.id = v.id := (Session.identity_eq_iff.mp same).1
    have seen : t.HasOpened v := lt_of_eq_of_lt number.symm old
    have le := sound.generation_le onward member seen
    omega
  | opened _ ge _ =>
    have grows : issued t.world ≤ issued u.world := follows.issued_le
    exact Nat.not_lt.mpr (grows.trans ge)

variable [DecidableEq ι]

/-- A pool that is cleared closes the sessions that lie idle and keeps its permits. -/
theorem Sound.clear {t : Traffic ι ω} (sound : t.Sound) (i : ι) :
    let u := t.step (.operate i .clear)
    (u.lendings i).pool =
        { (t.lendings i).pool with generation := (t.lendings i).pool.generation + 1, idle := [] } ∧
      u.world = (t.lendings i).pool.idle.foldr Pool.discard
        (if (t.lendings i).pool.permits = 0 then Network.wait Pool.sweepWait t.world
        else t.world) := by
  have cleared := (sound.each i).run_clear
  intro u
  constructor
  · rw [lendings_operate, cleared]
  · rw [world_operate, cleared]
    dsimp only
    split
    · next none =>
      have idle_le : (t.lendings i).pool.idle.length ≤ (t.lendings i).pool.permits :=
        (sound.each i).balanced.idle_le
      have empty : (t.lendings i).pool.idle = [] := List.eq_nil_of_length_eq_zero (by omega)
      rw [empty]
      rfl
    · rfl

/-- A session of another generation that is given back is closed, and its permit is free. -/
theorem Sound.giveBack_stale {t : Traffic ι ω} (sound : t.Sound) {i : ι} {s : Session}
    (held : s ∈ (t.lendings i).held) (stale : s.generation ≠ (t.lendings i).pool.generation) :
    let u := t.step (.operate i (.giveBack s.id))
    (u.lendings i).pool = ((t.lendings i).pool.strike s.id).restorePermit ∧
      u.world = Pool.discard s.withoutHandles t.world ∧
      ∀ v ∈ (u.lendings i).sessions, v.id ≠ s.id := by
  have balanced : Balanced _ (t.lendings i, issued t.world) := (sound.each i).balanced
  have found := balanced.numbered_held held
  have done := run_giveBack found t.world
  rw [Pool.release_stale stale] at done
  intro u
  have after : u.lendings i = _ := (t.lendings_operate i (.giveBack s.id)).trans (by rw [done])
  refine ⟨by rw [after], by rw [world_operate, done], ?_⟩
  rw [after]
  refine (balanced.reorder (perm_without found) .rfl .rfl).id_ne_of_count ?_
  simp only [count_sessions, count_shelved, Pool.strike, Pool.restorePermit, numbers_cons,
    List.count_cons_self]
  omega

/-- A session of another generation that is coming back is closed, and its permit is free. -/
theorem Sound.endReturn_stale {t : Traffic ι ω} (sound : t.Sound) {i : ι} {r : Return}
    (coming : r ∈ (t.lendings i).returns)
    (stale : r.session.generation ≠ (t.lendings i).pool.generation) :
    let u := t.step (.operate i (.endReturn r))
    (u.lendings i).pool = (t.lendings i).pool.restorePermit ∧
      u.world = Pool.discard r.session t.world ∧
      ∀ v ∈ (u.lendings i).sessions, v.id ≠ r.session.id := by
  have balanced : Balanced _ (t.lendings i, issued t.world) := (sound.each i).balanced
  have done : (t.lendings i).run (.endReturn r) t.world =
      ({ t.lendings i with
        pool := (t.lendings i).pool.restorePermit
        returns := (t.lendings i).returns.erase r }, Pool.discard r.session t.world) := by
    simp only [Lending.run, if_pos coming, Pool.finish_stale stale]
  intro u
  have after : u.lendings i = _ := (t.lendings_operate i (.endReturn r)).trans (by rw [done])
  refine ⟨by rw [after], by rw [world_operate, done], ?_⟩
  rw [after]
  refine (balanced.reorder .rfl .rfl (List.perm_cons_erase coming)).id_ne_of_count ?_
  simp only [count_sessions, count_shelved, Pool.restorePermit, List.map_cons, numbers_cons,
    List.count_cons_self]
  omega

/-- What is true, in a later state, of the sessions of a pool that had been opened in an earlier
one. -/
structure Retired (t u : Traffic ι ω) (i : ι) : Prop where
  idle : ∀ s ∈ (u.lendings i).pool.idle, ¬t.HasOpened s
  get : ∀ cancellation s, u.handedOut (.operate i (.get cancellation)) = some s → ¬t.HasOpened s
  /-- Whoever comes for a session now is handed none of them, whatever happens in between. -/
  claim : ∀ cancellation c, ((u.lendings i).pool.grant cancellation u.world).1 = some (.ok c) →
    ∀ rest s, ((u.step (.operate i (.claim cancellation))).run rest).handedOut
      (.operate i (.settle c)) = some s → ¬t.HasOpened s
  /-- One that is given back is closed, and its permit is free. -/
  giveBack : ∀ s ∈ (u.lendings i).held, t.HasOpened s →
    let v := u.step (.operate i (.giveBack s.id))
    (v.lendings i).pool = ((u.lendings i).pool.strike s.id).restorePermit ∧
      v.world = Pool.discard s.withoutHandles u.world ∧
      ∀ x ∈ (v.lendings i).sessions, x.id ≠ s.id
  /-- One that is coming back is closed, and its permit is free. -/
  endReturn : ∀ r ∈ (u.lendings i).returns, t.HasOpened r.session →
    let v := u.step (.operate i (.endReturn r))
    (v.lendings i).pool = (u.lendings i).pool.restorePermit ∧
      v.world = Pool.discard r.session u.world ∧
      ∀ x ∈ (v.lendings i).sessions, x.id ≠ r.session.id

/-- The sessions of a pool that has been cleared since are retired. -/
theorem Sound.retired {t u : Traffic ι ω} (sound : t.Sound) (later : u.Sound) {i : ι}
    (follows : Follows (t.view i) (u.view i))
    (cleared : (t.lendings i).pool.generation < (u.lendings i).pool.generation) :
    t.Retired u i := by
  have stale : ∀ s ∈ (u.lendings i).sessions, t.HasOpened s →
      s.generation ≠ (u.lendings i).pool.generation := by
    intro s member old
    have le := sound.generation_le follows member old
    exact (le.trans_lt cleared).ne
  constructor
  · intro s idle old
    have member : s ∈ (u.lendings i).sessions :=
      List.mem_append_left _ (mem_shelved.mpr (.inl idle))
    exact stale s member old ((later.each i).guarded.idle s idle).1
  · intro cancellation s handed
    refine sound.not_hasOpened_of_handedOut later follows cleared ?_ handed
    intro c same
    cases same
  · intro cancellation c granted rest s handed
    obtain ⟨last, leads⟩ := later.run (.operate i (.claim cancellation) :: rest)
    obtain ⟨onward, grown⟩ := leads i
    refine sound.not_hasOpened_of_handedOut last (follows.trans onward) ?_ ?_ handed
    · omega
    · intro d same
      cases same
      rw [Pool.generation_of_grant granted]
      exact cleared
  · intro s held old
    have member : s ∈ (u.lendings i).sessions :=
      List.mem_append_right _ (List.mem_append_left _ held)
    exact later.giveBack_stale held (stale s member old)
  · intro r coming old
    have member : r.session ∈ (u.lendings i).sessions :=
      List.mem_append_left _ (mem_shelved.mpr (.inr (.inr ⟨r, coming, rfl⟩)))
    exact later.endReturn_stale coming (stale r.session member old)

/-- The generation of a pool is the number of times that it has been cleared. To clear it closes the
sessions that lie idle, and from then on all sessions that had been opened by then, in whatever
pool, are retired. -/
theorem clear_retires {clients : ι → Config} {configs : ι → PoolConfig} {pools : ι → Pool}
    (made : ∀ i, Pool.ofConfig (clients i) (configs i) = .ok (pools i)) (w : ω)
    (before : List (Event ι ω)) (i : ι) :
    let t := (start pools w).run before
    let u := t.step (.operate i .clear)
    (t.lendings i).pool.generation = before.countP (Event.clears i) ∧
      (u.lendings i).pool =
        { (t.lendings i).pool with generation := before.countP (Event.clears i) + 1, idle := [] } ∧
      u.world = (t.lendings i).pool.idle.foldr Pool.discard
        (if (t.lendings i).pool.permits = 0 then Network.wait Pool.sweepWait t.world
        else t.world) ∧
      (∀ j, ∀ s ∈ (t.lendings j).sessions, t.HasOpened s) ∧
      ∀ after, t.Retired (u.run after) i := by
  intro t u
  obtain ⟨sound, leads⟩ : t.Sound ∧ _ := (sound_start made w).run before
  have generation : (t.lendings i).pool.generation = before.countP (Event.clears i) := by
    have new : (pools i).generation = 0 := by rw [pool_eq (made i)]
    have counted := (leads i).2
    simp only [start, ofPool, new, Nat.zero_add] at counted
    exact counted
  obtain ⟨pool, world⟩ := sound.clear i
  refine ⟨generation, generation ▸ pool, world, fun j s member => lt_of_mem sound member, ?_⟩
  intro after
  obtain ⟨later, onward⟩ := sound.run (.operate i .clear :: after)
  obtain ⟨follows, grown⟩ := onward i
  have clears : Event.clears i (.operate i .clear : Event ι ω) = true := by
    simp [Event.clears, Operation.isClear]
  rw [List.countP_cons_of_pos clears] at grown
  refine sound.retired later follows ?_
  omega

/-- Two sessions are handed out; one comes back, and the other is coming back. -/
def halfReturned : List (Event Bool Standin.World) :=
  [.operate false (.get .never), .operate false (.get .never), .operate false (.giveBack 1),
    .operate false (.startReturn 2)]

theorem clear_retires_halfReturned :
    (∀ _ : Bool, Pool.ofConfig .default twoSessions = .ok pairPool) ∧
      let t := twoPools.run halfReturned
      let u := t.step (.operate false .clear)
      numbers (t.lendings false).pool.idle = [1] ∧
      (t.lendings false).returns.map (fun r => (r.isKept, r.session.id)) = [(true, 2)] ∧
      (u.handedOut (.operate false (.get .never))).map Session.id = some 3 ∧
      (u.lendings false).returns.map (fun r => let v := u.step (.operate false (.endReturn r))
        (numbers (v.lendings false).sessions, (v.lendings false).pool.permits)) = [([], 2)] ∧
      t.Retired u false := by
  have made : ∀ _ : Bool, Pool.ofConfig .default twoSessions = .ok pairPool :=
    fun _ => pairPool_made
  have retired := (clear_retires made twoPools.world halfReturned false).2.2.2.2 []
  exact ⟨made, by decide +kernel, by decide +kernel, by decide +kernel, by decide +kernel, retired⟩

end Traffic

end SqlWire
