import Mathlib.Data.List.Nodup
import SqlWire.Proofs.Pool.Guard

/-! # Operations as moves

Every operation on a lending but clearing is made of moves (`Balanced.moves_run`), and so keeps what
every move keeps. To clear a pool that is in order leaves no session idle: none of those that lie
idle is of the new generation, so that the sweep does not stop early, and none lies idle where the
sweep is not given a permit (`Pool.clear_eq`). `Sound.run` is for all operations, and `Sound.cancel`
for the handles that callers may still have.

Whatever is handed out comes by a claim (`Sound.claim_of_handedOut`): it lay idle when the claim was
made, or it is new.
-/

namespace SqlWire

open NumberedNetwork

variable {ω : Type} [Network ω]

/-- The first session of a number, and the others. -/
theorem perm_without {number : Nat} {sessions : List Session} {s : Session}
    (found : numbered number sessions = some s) :
    sessions.Perm (s :: without number sessions) := by
  obtain ⟨its, before, after, rfl, others⟩ := List.find?_eq_some_iff_append.mp found
  have left : without number (before ++ s :: after) = before ++ after := by
    rw [without, List.eraseP_append_right _ fun t member => by simpa using others t member,
      List.eraseP_cons, its, cond_true]
  rw [left]
  exact List.perm_middle

theorem bind_toOption_eq_none {ε α : Type} {result : Option (Except ε α)}
    (never : ∀ a, result ≠ some (.ok a)) : result.bind Except.toOption = none := by
  rcases result with _ | _ | a
  · rfl
  · rfl
  · exact absurd rfl (never a)

namespace Pool

/-- A sweep closes all sessions, if it may close each of them. -/
theorem sweepOldest_all {mayClose : Nat → Bool} {isUnwanted : Duration → Session → Bool}
    (may : ∀ n, mayClose n = true) {sessions : List Session}
    (unwanted : ∀ now, ∀ s ∈ sessions, isUnwanted now s = true) (w : ω) :
    sweepOldest mayClose isUnwanted sessions w =
      ([], sessions.foldl (fun w s => discard s w) w) := by
  induction sessions generalizing w with
  | nil => rfl
  | cons s newer ih =>
    have close : (mayClose (newer.length + 1) && isUnwanted (Network.now w) s) = true := by
      rw [may, unwanted _ s (List.mem_cons_self ..)]
      rfl
    have others : ∀ now, ∀ t ∈ newer, isUnwanted now t = true :=
      fun now t member => unwanted now t (List.mem_cons_of_mem _ member)
    rw [sweepOldest, if_pos close, ih others]
    rfl

/-- To clear a pool is to start a generation and to close the sessions that lie idle, from the
oldest on. A sweep that finds no permit waits for one; then no session lies idle. -/
theorem clear_eq {p : Pool} (old : ∀ s ∈ p.idle, s.generation ≤ p.generation)
    (room : p.idle.length ≤ p.permits) (w : ω) :
    p.clear w = ({ p with generation := p.generation + 1, idle := [] },
      if p.permits = 0 then Network.wait sweepWait w else p.idle.foldr discard w) := by
  simp only [clear, sweep, Bool.not_true, Bool.false_eq_true, if_false, beq_iff_eq]
  split
  · next none =>
    have empty : p.idle = [] := List.eq_nil_of_length_eq_zero (by omega)
    rw [empty]
  · rw [sweepOldest_all (fun _ => rfl), List.foldl_reverse, List.reverse_nil]
    intro now s member
    have before := old s (List.mem_reverse.mp member)
    rw [bne_iff_ne]
    omega

end Pool

/-- A session that is held is given back to the pool. -/
theorem Lending.run_giveBack {l : Lending} {number : Nat} {s : Session}
    (found : numbered number l.held = some s) (w : ω) :
    l.run (.giveBack number) w =
      ({ l with pool := (l.pool.release s w).1, held := without number l.held },
        (l.pool.release s w).2) := by
  simp only [Lending.run, found]

variable [NumberedNetwork ω]

namespace Pool

/-- A sweep leaves the sessions from some one on. -/
theorem sweepOldest_spec (mayClose : Nat → Bool) (isUnwanted : Duration → Session → Bool)
    (sessions : List Session) (w : ω) :
    (sweepOldest mayClose isUnwanted sessions w).1 <:+ sessions ∧
      issued w ≤ issued (sweepOldest mayClose isUnwanted sessions w).2 := by
  induction sessions generalizing w with
  | nil => exact ⟨List.suffix_refl _, Nat.le_refl _⟩
  | cons s newer ih =>
    unfold sweepOldest
    split
    · obtain ⟨left, grows⟩ := ih (discard s w)
      exact ⟨left.trans (List.suffix_cons ..), (issued_le_discard s w).trans grows⟩
    · exact ⟨List.suffix_refl _, Nat.le_refl _⟩

theorem sweep_spec (p : Pool) (mayClose : Nat → Bool) (isUnwanted : Duration → Session → Bool)
    (w : ω) :
    ∃ idle, idle <+: p.idle ∧ (p.sweep mayClose isUnwanted w).1 = { p with idle } ∧
      issued w ≤ issued (p.sweep mayClose isUnwanted w).2 := by
  unfold sweep
  split
  · exact ⟨p.idle, List.prefix_refl _, rfl, Nat.le_refl _⟩
  · split
    · exact ⟨p.idle, List.prefix_refl _, rfl, issued_le_wait ..⟩
    · obtain ⟨left, grows⟩ := sweepOldest_spec mayClose isUnwanted p.idle.reverse w
      refine ⟨_, ?_, rfl, grows⟩
      rw [← List.reverse_suffix, List.reverse_reverse]
      exact left

end Pool

namespace Lending

namespace Moves

theorem approached (l : Lending) (issued : Nat) (now : Duration) :
    Moves (l, issued) ({ l with pool := l.pool.approached now }, issued) := by
  unfold Pool.approached
  split
  · exact .tail (.single (.scan (some now))) .recover
  · exact .refl

theorem claim (l : Lending) (cancellation : Cancellation) (w : ω) :
    Moves (l, issued w)
      ((l.run (.claim cancellation) w).1, issued (l.run (.claim cancellation) w).2) := by
  have come := approached l (issued w) (Network.now w)
  simp only [run]
  rcases l.pool.grant_cases cancellation w with ⟨refused, same, grows⟩ | ⟨q, same, free, granted⟩
  · rw [same, bind_toOption_eq_none refused]
    exact come.tail (.issue grows)
  · rw [granted]
    rw [← same] at come
    exact come.tail (.grant free)

/-- To settle a claim is to lend a session, or to give the claim up. -/
theorem settle (l : Lending) (c : Claim) (claims : List Claim) (w : ω) :
    Moves ({ l with claims := c :: claims }, issued w)
      ({ l with
        pool := (c.settle l.pool w).2.1
        held := (c.settle l.pool w).1.toOption.toList ++ l.held
        claims }, issued (c.settle l.pool w).2.2) := by
  obtain ⟨grows, ⟨cause, failed, pool⟩ | ⟨t, ok, pool, yields⟩⟩ := c.settle_cases l.pool w
  · rw [failed, pool]
    exact .tail (.single .giveUp) (.issue grows)
  · rw [ok, pool]
    exact .single (.lend grows yields)

theorem get (l : Lending) (cancellation : Cancellation) (w : ω) :
    Moves (l, issued w)
      ((l.run (.get cancellation) w).1, issued (l.run (.get cancellation) w).2) := by
  have come := approached l (issued w) (Network.now w)
  simp only [run]
  rcases l.pool.get_cases cancellation w with ⟨refused, same, grows⟩ | ⟨q, same, free, got⟩
  · rw [same, bind_toOption_eq_none refused]
    exact come.tail (.issue grows)
  · rw [got]
    rw [← same] at come
    refine (come.tail (.grant free)).trans ?_
    exact settle { l with pool := { q.takePermit with idle := q.idle.tail } }
      ⟨q.generation, q.idle.head?⟩ l.claims w

/-- To take a session back is a move, after which the session is with the pool. -/
theorem takeBack (l : Lending) (s : Session) (held : List Session) (w : ω) :
    Moves ({ l with held := s :: held }, issued w)
      ({ l with
        pool := (l.pool.takeBack s w).2.1
        held
        returns := (l.pool.takeBack s w).1 :: l.returns }, issued (l.pool.takeBack s w).2.2) := by
  obtain ⟨pool, same, kept, grows⟩ := l.pool.takeBack_spec s w
  rw [pool]
  exact .tail (.single (.takeBack same fun k => (kept k).2)) (.issue grows)

/-- To end a return is to shelve the session, or to drop it. -/
theorem finish (l : Lending) (r : Return) (returns : List Return) (w : ω) :
    Moves ({ l with returns := r :: returns }, issued w)
      ({ l with pool := (r.finish l.pool w).1, returns }, issued (r.finish l.pool w).2) := by
  rw [r.finish_eq]
  split
  · next both => exact .single (.shelve (Network.now w) both.1 both.2)
  · exact .tail (.single .drop) (.issue (Pool.issued_le_discard ..))

/-- The session of a number comes first, if it is held. -/
theorem front {l : Lending} {number : Nat} {s : Session} (found : numbered number l.held = some s)
    (issued : Nat) :
    Moves (l, issued) ({ l with held := s :: without number l.held }, issued) :=
  .single (.reorder (perm_without found) .rfl .rfl)

/-- A claim comes first, if there is one. -/
theorem frontClaim {l : Lending} {c : Claim} (member : c ∈ l.claims) (issued : Nat) :
    Moves (l, issued) ({ l with claims := c :: l.claims.erase c }, issued) :=
  .single (.reorder .rfl (List.perm_cons_erase member) .rfl)

/-- A session that is coming back comes first, if there is one. -/
theorem frontReturn {l : Lending} {r : Return} (member : r ∈ l.returns) (issued : Nat) :
    Moves (l, issued) ({ l with returns := r :: l.returns.erase r }, issued) :=
  .single (.reorder .rfl .rfl (List.perm_cons_erase member))

theorem sweep (l : Lending) (mayClose : Nat → Bool) (isUnwanted : Duration → Session → Bool)
    (w : ω) :
    Moves (l, issued w) ({ l with pool := (l.pool.sweep mayClose isUnwanted w).1 },
      issued (l.pool.sweep mayClose isUnwanted w).2) := by
  obtain ⟨idle, left, pool, grows⟩ := l.pool.sweep_spec mayClose isUnwanted w
  rw [pool]
  exact .tail (.single (.sweep left)) (.issue grows)

end Moves

/-- Where the sessions that the pool has stay as they are, only those that callers have change. -/
theorem map_eq {f : Session → Session} {l : Lending} (same : ∀ s ∈ l.shelved, f s = s) :
    l.map f = { l with held := l.held.map f, loose := l.loose.map f } := by
  have idle : l.pool.idle.map f = l.pool.idle := by
    refine (List.map_congr_left fun s member => ?_).trans (List.map_id _)
    exact same s (mem_shelved.mpr (.inl member))
  have claims : l.claims.map (fun c => { c with candidate := c.candidate.map f }) = l.claims := by
    refine (List.map_congr_left fun c member => ?_).trans (List.map_id _)
    obtain ⟨generation, _ | s⟩ := c
    · rfl
    · rw [Option.map_some, same s (mem_shelved.mpr (.inr (.inl ⟨_, member, rfl⟩)))]
      rfl
  have returns : l.returns.map (fun r => { r with session := f r.session }) = l.returns := by
    refine (List.map_congr_left fun r member => ?_).trans (List.map_id _)
    rw [same r.session (mem_shelved.mpr (.inr (.inr ⟨_, member, rfl⟩)))]
    rfl
  rw [map, idle, claims, returns]

namespace Balanced

variable {max issued : Nat} {l : Lending}

theorem nodup (b : Balanced max (l, issued)) : (numbers l.sessions).Nodup :=
  List.nodup_iff_count_le_one.mpr fun n => (b.once n).2.1

/-- Every number of a session has been given. -/
theorem id_lt (b : Balanced max (l, issued)) : ∀ s ∈ l.sessions, s.id < issued := by
  intro s member
  by_contra fresh
  have none := ((b.once s.id).2.2 (Nat.not_lt.mp fresh)).2
  exact List.count_eq_zero.mp none (List.mem_map_of_mem member)

/-- No two sessions have one number. -/
theorem eq_of_id_eq (b : Balanced max (l, issued)) {s t : Session} (first : s ∈ l.sessions)
    (second : t ∈ l.sessions) (same : s.id = t.id) : s = t :=
  List.inj_on_of_nodup_map b.nodup first second same

/-- No session that the pool has has the number of one that a caller has. -/
theorem id_ne_of_lent (b : Balanced max (l, issued)) {s t : Session} (shelved : s ∈ l.shelved)
    (lent : t ∈ l.lent) : s.id ≠ t.id := by
  have apart : (numbers l.shelved ++ numbers l.lent).Nodup := by
    rw [← numbers_append]
    exact b.nodup
  have distinct := (List.nodup_append.mp apart).2.2
  exact distinct _ (List.mem_map_of_mem shelved) _ (List.mem_map_of_mem lent)

/-- A session that is held is found by its number. -/
theorem numbered_held (b : Balanced max (l, issued)) {s : Session} (held : s ∈ l.held) :
    numbered s.id l.held = some s := by
  have inside : ∀ t ∈ l.held, t ∈ l.sessions :=
    fun t member => List.mem_append_right _ (List.mem_append_left _ member)
  cases found : numbered s.id l.held with
  | none =>
    have other := List.find?_eq_none.mp found s held
    exact absurd (beq_self_eq_true s.id) other
  | some t =>
    have its : t.id = s.id := by simpa using List.find?_some found
    rw [b.eq_of_id_eq (inside t (List.mem_of_find?_eq_some found)) (inside s held) its]

/-- No other session that is held has its number. -/
theorem numbered_without (b : Balanced max (l, issued)) {s : Session} (held : s ∈ l.held) :
    numbered s.id (without s.id l.held) = none := by
  have apart : (numbers l.held).Nodup := by
    have all := b.nodup
    rw [sessions, Lending.lent, numbers_append, numbers_append] at all
    exact all.of_append_right.of_append_left
  have first := ((perm_without (b.numbered_held held)).map Session.id).nodup_iff.mp apart
  apply List.find?_eq_none.mpr
  intro t member same
  have its : t.id = s.id := by simpa using same
  exact (List.nodup_cons.mp first).1 (List.mem_map.mpr ⟨t, member, its⟩)

/-- What its holder does with a session changes only that session. -/
theorem replace {s t : Session} (b : Balanced max (l, issued)) (lent : s ∈ l.lent)
    (same : s.Continues t) : Moves (l, issued) (l.replace t, issued) := by
  rw [Lending.replace, map_eq]
  · refine .single (.use ?_)
    intro u member
    split
    · next its =>
      have one := b.eq_of_id_eq (List.mem_append_right _ member) (List.mem_append_right _ lent)
        (its.trans same.id)
      exact one ▸ same
    · exact ⟨rfl, rfl, Nat.le_refl _⟩
  · intro u member
    exact if_neg fun its => b.id_ne_of_lent member lent (its.trans same.id)

/-- To put a session in its own place changes nothing. -/
theorem replace_self {s : Session} (b : Balanced max (l, issued)) (member : s ∈ l.sessions) :
    l.replace s = l := by
  have same : ∀ t ∈ l.sessions, (if t.id = s.id then s else t) = t := by
    intro t among
    split
    · next its => exact (b.eq_of_id_eq among member its).symm
    · rfl
  have held : l.held.map (fun t => if t.id = s.id then s else t) = l.held := by
    refine (List.map_congr_left fun t among => same t ?_).trans (List.map_id _)
    exact List.mem_append_right _ (List.mem_append_left _ among)
  have loose : l.loose.map (fun t => if t.id = s.id then s else t) = l.loose := by
    refine (List.map_congr_left fun t among => same t ?_).trans (List.map_id _)
    exact List.mem_append_right _ (List.mem_append_right _ among)
  rw [Lending.replace, map_eq fun t among => same t (List.mem_append_left _ among), held, loose]

end Balanced

/-- Every operation but clearing is made of moves. -/
theorem Balanced.moves_run {max : Nat} {l : Lending} {w : ω} (b : Balanced max (l, issued w))
    {o : Operation} (notClear : o.isClear = false) :
    Moves (l, issued w) ((l.run o w).1, issued (l.run o w).2) := by
  cases o with
  | get cancellation => exact .get l cancellation w
  | claim cancellation => exact .claim l cancellation w
  | settle c =>
    simp only [run]
    split
    · next member => exact (Moves.frontClaim member _).trans (Moves.settle l c _ w)
    · exact .refl
  | giveUp c =>
    simp only [run]
    split
    · next member => exact (Moves.frontClaim member _).tail .giveUp
    · exact .refl
  | giveBack number =>
    simp only [run]
    split
    · next s found =>
      rw [l.pool.release_eq]
      refine ((Moves.front found _).trans (Moves.takeBack l s _ w)).trans ?_
      exact Moves.finish
        { l with pool := (l.pool.takeBack s w).2.1, held := without number l.held } _ l.returns _
    · exact .refl
  | startReturn number =>
    simp only [run]
    split
    · next s found => exact (Moves.front found _).trans (Moves.takeBack l s _ w)
    · exact .refl
  | endReturn r =>
    simp only [run]
    split
    · next member => exact (Moves.frontReturn member _).trans (Moves.finish l r _ w)
    · exact .refl
  | dropReturn r =>
    simp only [run]
    split
    · next member => exact (Moves.frontReturn member _).tail .drop
    · exact .refl
  | lose number =>
    simp only [run]
    split
    · next s found =>
      refine ((Moves.front found _).tail .detach).tail ?_
      exact .forget (l := { l with
        pool := l.pool.lose s.id, held := without number l.held }) (s := s)
    · exact .refl
  | detach number =>
    simp only [run]
    split
    · next s found => exact (Moves.front found _).tail .detach
    · exact .refl
  | recover => exact .single .recover
  | clear => cases notClear
  | reap =>
    simp only [run, Pool.reap]
    split
    · exact .single .recover
    · refine Relation.ReflTransGen.trans (.single .recover) ?_
      exact Moves.sweep { l with pool := l.pool.recover.2 } _ _ w
  | use number u =>
    simp only [run]
    split
    · next s found =>
      exact (b.replace (List.mem_of_find?_eq_some found) (Session.continues_run u s w)).tail
        (.issue (u.issued_le_run s w))
    · exact .refl

theorem issued_le_foldr_discard (sessions : List Session) (w : ω) :
    issued w ≤ issued (sessions.foldr Pool.discard w) := by
  induction sessions with
  | nil => exact Nat.le_refl _
  | cons s rest ih => exact ih.trans (Pool.issued_le_discard s _)

/-- A pool whose sessions are in order is cleared as a whole. -/
theorem Sound.run_clear {max : Nat} {handles : List CancelHandle} {l : Lending} {w : ω}
    (sound : Sound max handles (l, issued w)) :
    l.run .clear w =
      ({ l with pool := { l.pool with generation := l.pool.generation + 1, idle := [] } },
        if l.pool.permits = 0 then Network.wait Pool.sweepWait w
        else l.pool.idle.foldr Pool.discard w) := by
  have old : ∀ s ∈ l.pool.idle, s.generation ≤ l.pool.generation :=
    fun s member => (sound.guarded.idle s member).1.le
  rw [run, Pool.clear_eq old sound.balanced.idle_le]

/-- What an operation keeps, and what it does to the generation. -/
theorem Sound.run {max : Nat} {handles : List CancelHandle} {l : Lending} {w : ω}
    (sound : Sound max handles (l, issued w)) (o : Operation) :
    Sound max handles ((l.run o w).1, issued (l.run o w).2) ∧
      Follows (l, issued w) ((l.run o w).1, issued (l.run o w).2) ∧
      (l.run o w).1.pool.generation = l.pool.generation + if o.isClear then 1 else 0 := by
  cases clears : o.isClear with
  | false => exact (sound.balanced.moves_run clears).keep sound
  | true =>
    cases o with
    | clear =>
      rw [sound.run_clear]
      have grows : issued w ≤ issued (if l.pool.permits = 0 then Network.wait Pool.sweepWait w
          else l.pool.idle.foldr Pool.discard w) := by
        split
        · exact issued_le_wait ..
        · exact issued_le_foldr_discard ..
      obtain ⟨kept, follows⟩ := sound.clear
      obtain ⟨later, onward, -⟩ := Moves.keep (.single (.issue grows)) kept
      exact ⟨later, follows.trans onward, rfl⟩
    | _ => cases clears

/-- A handle that has been taken cancels only what a caller waits for: those of the sessions that the pool
has are void. -/
theorem Sound.cancel_cases {max : Nat} {handles : List CancelHandle} {l : Lending} {w : ω}
    (sound : Sound max handles (l, issued w)) {h : CancelHandle} (taken : h ∈ handles) :
    l.cancel h w = (l, w) ∨
      ∃ s ∈ l.lent, l.cancel h w = (l.replace (h.cancel s w).2.1, (h.cancel s w).2.2) := by
  unfold Lending.cancel
  split
  · next s found =>
    have its : s.id = h.session := by simpa using List.find?_some found
    rcases List.mem_append.mp (List.mem_of_find?_eq_some found) with shelved | lent
    · have void := sound.guarded.isVoid s shelved h taken its.symm
      rw [(h.cancel_of_lease_ne void.ne).2.2 w]
      dsimp only
      rw [sound.balanced.replace_self (List.mem_append_left _ shelved)]
      exact .inl rfl
    · exact .inr ⟨s, lent, rfl⟩
  · exact .inl rfl

theorem Sound.cancel {max : Nat} {handles : List CancelHandle} {l : Lending} {w : ω}
    (sound : Sound max handles (l, issued w)) {h : CancelHandle} (taken : h ∈ handles) :
    Sound max handles ((l.cancel h w).1, issued (l.cancel h w).2) ∧
      Follows (l, issued w) ((l.cancel h w).1, issued (l.cancel h w).2) ∧
      (l.cancel h w).1.pool.generation = l.pool.generation := by
  rcases sound.cancel_cases taken with still | ⟨s, lent, done⟩
  · rw [still]
    exact ⟨sound, .refl _, rfl⟩
  · rw [done]
    have same := Session.Continues.of_identity (h.identity_cancel s w)
    refine Moves.keep ((sound.balanced.replace lent same).tail ?_) sound
    exact .issue (h.issued_le_cancel s w)

/-- A handle of a session that a caller has is of its present lease. -/
theorem Sound.takeHandle {max issued : Nat} {handles : List CancelHandle} {l : Lending}
    (sound : Sound max handles (l, issued)) {s : Session} (lent : s ∈ l.lent) :
    Sound max (.ofSession s :: handles) (l, issued) := by
  obtain ⟨balanced, guarded⟩ := sound
  refine ⟨balanced, guarded.addHandle ?_ ?_ ?_⟩
  · exact balanced.id_lt s (List.mem_append_right _ lent)
  · exact fun t shelved => balanced.id_ne_of_lent shelved lent
  · intro t member same
    have one := balanced.eq_of_id_eq (List.mem_append_right _ member)
      (List.mem_append_right _ lent) same
    exact one ▸ Nat.le_refl _

/-- A handle of a session of another pool does not matter. -/
theorem Sound.addHandle {max issued : Nat} {handles : List CancelHandle} {l : Lending}
    (sound : Sound max handles (l, issued)) {h : CancelHandle} (lt : h.session < issued)
    (other : ∀ s ∈ l.sessions, s.id ≠ h.session) : Sound max (h :: handles) (l, issued) := by
  obtain ⟨balanced, guarded⟩ := sound
  refine ⟨balanced, guarded.addHandle lt ?_ ?_⟩
  · exact fun t shelved => other t (List.mem_append_left _ shelved)
  · exact fun t lent same => absurd same (other t (List.mem_append_right _ lent))

/-- Whoever is handed a session has had a claim, under which the session was the pool's or is new. A
claim that is not settled by itself is of the present generation. -/
theorem Sound.claim_of_handedOut {max : Nat} {handles : List CancelHandle} {l : Lending} {w : ω}
    (sound : Sound max handles (l, issued w)) {o : Operation} {s : Session}
    (handed : l.handedOut o w = some s) :
    ∃ (pool : Pool) (c : Claim) (claims : List Claim) (later : Nat),
      Moves (l, issued w) ({ l with pool, claims := c :: claims }, issued w) ∧
        c.Yields (issued w) later s ∧ (o = .settle c ∨ c.generation = l.pool.generation) := by
  cases o with
  | get cancellation =>
    simp only [handedOut] at handed
    have come := Moves.approached l (issued w) (Network.now w)
    rcases l.pool.get_cases cancellation w with ⟨refused, -⟩ | ⟨q, same, free, got⟩
    · rw [bind_toOption_eq_none refused] at handed
      cases handed
    · rw [← same] at come
      have granted := come.tail (.grant free)
      rw [got] at handed
      obtain ⟨-, ⟨cause, failed, -⟩ | ⟨t, ok, -, yields⟩⟩ :=
        Claim.settle_cases ⟨q.generation, q.idle.head?⟩
          { q.takePermit with idle := q.idle.tail } w
      · simp only [Option.bind_some, failed, Except.toOption] at handed
        cases handed
      · simp only [Option.bind_some, ok, Except.toOption] at handed
        cases handed
        refine ⟨_, _, _, _, granted, yields, .inr ?_⟩
        exact ((come.keep sound).2.2 :)
  | settle c =>
    simp only [handedOut] at handed
    split at handed
    · next member =>
      obtain ⟨-, ⟨cause, failed, -⟩ | ⟨t, ok, -, yields⟩⟩ := c.settle_cases l.pool w
      · rw [failed] at handed
        cases handed
      · rw [ok] at handed
        cases handed
        exact ⟨l.pool, c, l.claims.erase c, _, .frontClaim member _, yields, .inl rfl⟩
    · cases handed
  | _ => cases handed

/-- A session that is handed out is connected, no caller has it, and its handles are void. -/
theorem Sound.handedOut_spec {max : Nat} {handles : List CancelHandle} {l : Lending} {w : ω}
    (sound : Sound max handles (l, issued w)) {o : Operation} {s : Session}
    (handed : l.handedOut o w = some s) :
    s.state = .connected ∧ (∀ t ∈ l.lent, t.id ≠ s.id) ∧ s.IsVoid handles ∧
      ((∃ t ∈ l.sessions, t.Continues s) ∨ issued w ≤ s.id) := by
  obtain ⟨pool, c, claims, later, moves, yields, -⟩ := sound.claim_of_handedOut handed
  obtain ⟨claimed, follows, -⟩ := moves.keep sound
  cases yields with
  | revived t lay _ same connected =>
    have member : t ∈ Lending.shelved { l with pool, claims := c :: claims } :=
      mem_shelved.mpr (.inr (.inl ⟨c, List.mem_cons_self .., lay⟩))
    obtain ⟨id, -, lease⟩ := Session.identity_eq_iff.mp same
    refine ⟨connected, ?_, ?_, ?_⟩
    · intro u lent its
      exact claimed.balanced.id_ne_of_lent member lent (id.symm.trans its.symm)
    · intro h taken its
      exact lease ▸ claimed.guarded.isVoid t member h taken (its.trans id)
    · have onward : t.Continues s := .of_identity same
      rcases follows.origin t (List.mem_append_left _ member) with ⟨u, before, early⟩ | new
      · exact .inl ⟨u, before, early.trans onward⟩
      · exact .inr (onward.id ▸ new)
  | opened new ge _ =>
    refine ⟨new.state, ?_, ?_, .inr ge⟩
    · intro u lent its
      have lt := sound.balanced.id_lt u (List.mem_append_right _ lent)
      omega
    · intro h taken its
      have lt := sound.guarded.fresh h taken
      omega

end Lending

end SqlWire
