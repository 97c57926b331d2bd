import Mathlib.Data.List.Infix
import SqlWire.Proofs.Pool.Permits

/-! # Which sessions a reap closes

A session that comes back is put before those that lie idle already. If no clock goes back, the idle
sessions are thus in the order in which they came back, the newest first (`Traffic.Sound.isOrdered`).

A sweep goes through them from the oldest on and stops at the first that is to stay. Because of the
order, the sessions that have lain idle too long are the oldest ones, so that the sweep closes as
many of these as may be closed (`Pool.sweepOldest_oldest`). `Pool.exists_isReaped` is what a reap
does with that.
-/

namespace SqlWire

open NumberedNetwork Lending

namespace Pool

/-- Whether the idle sessions are in the order in which they came back, the newest first, and all
came back by some moment. -/
structure IsOrdered (p : Pool) (now : Duration) : Prop where
  sorted : p.idle.Pairwise fun newer older => older.returnedAt.nanos ≤ newer.returnedAt.nanos
  past : ∀ s ∈ p.idle, s.returnedAt.nanos ≤ now.nanos

/-- What becomes of the idle sessions at once: some are gone, or one has come back. -/
inductive Shifts (idle : List Session) (now : Duration) : List Session → Prop
  | gone {left : List Session} (sublist : left.Sublist idle) : Shifts idle now left
  | back (s : Session) : Shifts idle now (s.returned now :: idle)

theorem IsOrdered.of_idle_eq_nil {p : Pool} (empty : p.idle = []) (now : Duration) :
    p.IsOrdered now := by
  constructor
  · rw [empty]
    exact .nil
  · rw [empty]
    exact fun _ member => absurd member List.not_mem_nil

theorem IsOrdered.shifts {p q : Pool} {before now : Duration} (ordered : p.IsOrdered before)
    (onward : before.nanos ≤ now.nanos) (shifts : Shifts p.idle now q.idle) : q.IsOrdered now := by
  have past : ∀ s ∈ p.idle, s.returnedAt.nanos ≤ now.nanos :=
    fun s member => (ordered.past s member).trans onward
  generalize idle : q.idle = left at shifts
  cases shifts with
  | gone sublist =>
    exact ⟨idle ▸ ordered.sorted.sublist sublist,
      idle ▸ fun s member => past s (sublist.subset member)⟩
  | back s =>
    constructor
    · rw [idle]
      exact List.pairwise_cons.mpr ⟨past, ordered.sorted⟩
    · rw [idle]
      exact List.forall_mem_cons.mpr ⟨Nat.le_refl _, past⟩

theorem idle_approached (p : Pool) (now : Duration) : (p.approached now).idle = p.idle := by
  unfold approached
  split <;> rfl

variable {ω : Type} [Network ω]

theorem idle_finish (r : Return) (p : Pool) (w : ω) :
    Shifts p.idle (Network.now (r.finish p w).2) (r.finish p w).1.idle := by
  rw [r.finish_eq]
  split
  · exact .back r.session
  · exact .gone (.refl _)

theorem idle_release (p : Pool) (s : Session) (w : ω) :
    Shifts p.idle (Network.now (p.release s w).2) (p.release s w).1.idle := by
  rw [release_eq]
  exact idle_finish (p.takeBack s w).1 (p.takeBack s w).2.1 (p.takeBack s w).2.2

/-- The oldest of some sessions are closed, as many of them as are unwanted, but no more than may be
closed. -/
theorem sweepOldest_oldest (least leased : Nat) (isUnwanted : Duration → Session → Bool)
    {sessions : List Session} {w : ω}
    (sorted : sessions.Pairwise fun older newer =>
      isUnwanted (Network.now w) newer = true → isUnwanted (Network.now w) older = true)
    (still : ∀ closed, closed <+: sessions →
      Network.now (closed.foldl (fun w s => discard s w) w) = Network.now w) :
    let count := min (sessions.countP (isUnwanted (Network.now w)))
      (leased + sessions.length - least)
    sweepOldest (fun idle => least < leased + idle) isUnwanted sessions w =
      (sessions.drop count, (sessions.take count).foldl (fun w s => discard s w) w) := by
  induction sessions generalizing w with
  | nil => rfl
  | cons s newer ih =>
    obtain ⟨first, others⟩ := List.pairwise_cons.mp sorted
    intro count
    unfold sweepOldest
    split
    · next closes =>
      obtain ⟨room, unwanted⟩ := Bool.and_eq_true_iff.mp closes
      have room : least < leased + (newer.length + 1) := of_decide_eq_true room
      have now : Network.now (discard s w) = Network.now w :=
        still [s] (List.prefix_append [s] newer)
      have closed := ih (w := discard s w) (now ▸ others) fun closed front => by
        rw [now]
        exact still (s :: closed) ((List.cons_prefix_cons).mpr ⟨rfl, front⟩)
      have one : count = min (newer.countP (isUnwanted (Network.now (discard s w))))
          (leased + newer.length - least) + 1 := by
        simp only [count, now, List.countP_cons_of_pos unwanted, List.length_cons]
        omega
      rw [closed, one]
      rfl
    · next stays =>
      have none : count = 0 := by
        by_cases room : least < leased + (newer.length + 1)
        · have wanted : ¬ isUnwanted (Network.now w) s = true := by simpa [room] using stays
          have all : (s :: newer).countP (isUnwanted (Network.now w)) = 0 := by
            refine List.countP_eq_zero.mpr (List.forall_mem_cons.mpr ⟨wanted, ?_⟩)
            exact fun t member unwanted => wanted (first t member unwanted)
          simp only [count, all, Nat.zero_min]
        · simp only [count, List.length_cons]
          omega
      rw [none]
      rfl

/-- A sweep closes the oldest of the idle sessions, as many of them as are unwanted, but no more than
may be closed. One that is not given a permit waits for it in vain; then no session lies idle. -/
theorem sweep_oldest (p : Pool) (least : Nat) (isUnwanted : Duration → Session → Bool) {w : ω}
    (sorted : p.idle.Pairwise fun newer older =>
      isUnwanted (Network.now w) newer = true → isUnwanted (Network.now w) older = true)
    (room : p.idle.length ≤ p.permits)
    (still : ∀ closed, closed <:+ p.idle → Network.now (closed.foldr discard w) = Network.now w) :
    let count := min (p.idle.countP (isUnwanted (Network.now w)))
      (p.leasedCount + p.idle.length - least)
    let kept := p.idle.length - count
    let swept := p.sweep (fun idle => least < p.leasedCount + idle) isUnwanted w
    swept.1 = { p with idle := p.idle.take kept } ∧
      (swept.2 = (p.idle.drop kept).foldr discard w ∨
        p.idle = [] ∧ swept.2 = Network.wait sweepWait w) := by
  intro count kept swept
  have unchanged (none : count = 0) :
      p.idle.take kept = p.idle ∧ (p.idle.drop kept).foldr discard w = w := by
    simp [kept, none]
  by_cases enough : least < p.leasedCount + p.idle.length
  · by_cases free : p.permits = 0
    · have empty : p.idle = [] := List.eq_nil_of_length_eq_zero (by omega)
      have done : swept = (p, Network.wait sweepWait w) := by
        simp [swept, sweep, enough, free]
      rw [done, (unchanged (by simp [count, empty])).1]
      exact ⟨rfl, .inr ⟨empty, rfl⟩⟩
    · have oldest := sweepOldest_oldest least p.leasedCount isUnwanted
        (List.pairwise_reverse.mpr sorted) fun closed front => by
          rw [← List.foldr_reverse]
          have back := List.reverse_suffix.mpr front
          rw [List.reverse_reverse] at back
          exact still _ back
      simp only [List.countP_reverse, List.length_reverse, List.drop_reverse, List.take_reverse,
        List.foldl_reverse] at oldest
      have may : decide (least < p.leasedCount + p.idle.length) = true := decide_eq_true enough
      have done : swept =
          ({ p with idle := p.idle.take kept }, (p.idle.drop kept).foldr discard w) := by
        simp only [swept, sweep, may, oldest, Bool.not_true, Bool.false_eq_true, if_false, beq_iff_eq,
          free, List.reverse_reverse]
        rfl
      rw [done]
      exact ⟨rfl, .inl rfl⟩
  · have done : swept = (p, w) := by simp [swept, sweep, enough]
    have none : count = 0 := by
      simp only [count]
      omega
    rw [done, (unchanged none).1, (unchanged none).2]
    exact ⟨rfl, .inl rfl⟩

/-- The first of some sessions are unwanted if only the first of them can be, and so many are. -/
theorem forall_take_of_le_countP {isUnwanted : Session → Bool} {sessions : List Session}
    (sorted : sessions.Pairwise fun older newer => isUnwanted newer = true → isUnwanted older = true)
    {count : Nat} (enough : count ≤ sessions.countP isUnwanted) :
    ∀ s ∈ sessions.take count, isUnwanted s = true := by
  induction sessions generalizing count with
  | nil => simp
  | cons s newer ih =>
    obtain ⟨first, others⟩ := List.pairwise_cons.mp sorted
    cases count with
    | zero => simp
    | succ count =>
      have unwanted : isUnwanted s = true := by
        obtain ⟨t, member, unwanted⟩ :=
          List.countP_pos_iff.mp (Nat.lt_of_lt_of_le count.succ_pos enough)
        rcases List.mem_cons.mp member with rfl | among
        · exact unwanted
        · exact first t among unwanted
      rw [List.countP_cons_of_pos unwanted] at enough
      exact List.forall_mem_cons.mpr ⟨unwanted, ih others (Nat.le_of_succ_le_succ enough)⟩

/-- How many sessions a reap closes that starts with the permits of leaks taken back: none without a
limit, and otherwise those that have lain idle for so long, but none that is to be kept. -/
def overdue (p : Pool) (now : Duration) : Nat :=
  if p.config.idleTimeout.isZero then 0
  else min (p.idle.countP fun s => s.isIdleSince p.config.idleTimeout now)
    (p.leasedCount + p.idle.length - p.config.minSize.toNat)

/-- What a reap does, whose clock stands still: the sessions that it keeps, and those that it
closes. -/
structure IsReaped (p : Pool) (w : ω) (kept closed : List Session) (after : Pool) (later : ω) :
    Prop where
  idle : p.idle = kept ++ closed
  /-- Nothing else is changed but that the permits of leaks have been taken back. -/
  pool : after = { p.recover.2 with idle := kept }
  count : closed.length = p.recover.2.overdue (Network.now w)
  /-- A reap that is not given a permit waits for one in vain; then no session lies idle. -/
  world : later = closed.foldr discard w ∨ p.idle = [] ∧ later = Network.wait sweepWait w

/-- Sessions that lie in order have lain idle for some time if newer ones have. -/
theorem IsOrdered.overdue {p : Pool} {now : Duration} (ordered : p.IsOrdered now) (limit : Duration) :
    p.idle.Pairwise fun newer older =>
      newer.isIdleSince limit now = true → older.isIdleSince limit now = true := by
  refine ordered.sorted.imp fun {newer older} before late => ?_
  simp only [Session.isIdleSince, decide_eq_true_eq] at late ⊢
  omega

theorem overdue_le (p : Pool) (now : Duration) : p.overdue now ≤ p.idle.length := by
  unfold overdue
  split
  · exact Nat.zero_le _
  · exact (Nat.min_le_left ..).trans List.countP_le_length

/-- A reap closes the oldest sessions, exactly as many as are overdue. -/
theorem exists_isReaped {p : Pool} {w : ω} (ordered : p.IsOrdered (Network.now w))
    (room : p.idle.length ≤ p.permits)
    (still : ∀ closed, closed <:+ p.idle →
      Network.now (closed.foldr discard w) = Network.now w) :
    ∃ kept closed, p.IsReaped w kept closed (p.reap w).1 (p.reap w).2 := by
  cases unlimited : p.config.idleTimeout.isZero with
  | true =>
    have done : p.reap w = (p.recover.2, w) := by
      simp only [reap, Duration.nonZero?, recover, unlimited, if_true]
    rw [done]
    exact ⟨p.idle, [], (List.append_nil _).symm, rfl, (if_pos unlimited).symm, .inl rfl⟩
  | false =>
    have limited : ¬ p.recover.2.config.idleTimeout.isZero = true := Bool.eq_false_iff.mp unlimited
    have done : p.reap w = p.recover.2.sweep
        (fun idle => p.config.minSize.toNat < p.recover.2.leasedCount + idle)
        (fun now s => s.isIdleSince p.config.idleTimeout now) w := by
      simp only [reap, Duration.nonZero?, recover, unlimited, Bool.false_eq_true, if_false]
      rfl
    obtain ⟨pool, world⟩ := p.recover.2.sweep_oldest p.config.minSize.toNat
      (fun now s => s.isIdleSince p.config.idleTimeout now)
      (ordered.overdue p.config.idleTimeout) (room.trans (Nat.le_add_right ..)) still
    rw [done]
    refine ⟨_, _, (List.take_append_drop _ p.idle).symm, pool, ?_, world⟩
    have few := p.recover.2.overdue_le (Network.now w)
    rw [List.length_drop]
    change p.idle.length - (p.idle.length - _) = p.recover.2.overdue (Network.now w)
    rw [overdue, if_neg limited] at few ⊢
    exact Nat.sub_sub_self few

namespace IsReaped

variable {p after : Pool} {w later : ω} {kept closed : List Session}

/-- Every session that is closed has lain idle too long. -/
theorem late (reaped : p.IsReaped w kept closed after later) (ordered : p.IsOrdered (Network.now w)) :
    ∀ s ∈ closed, s.isIdleSince p.config.idleTimeout (Network.now w) = true := by
  have oldest : p.idle.reverse.take closed.length = closed.reverse := by
    rw [reaped.idle, List.reverse_append, ← List.length_reverse, List.take_left]
  have enough : closed.length ≤
      p.idle.reverse.countP fun s => s.isIdleSince p.config.idleTimeout (Network.now w) := by
    rw [List.countP_reverse, reaped.count, overdue]
    split
    · exact Nat.zero_le _
    · exact Nat.min_le_left ..
  have unwanted := forall_take_of_le_countP
    (List.pairwise_reverse.mpr (ordered.overdue p.config.idleTimeout)) enough
  rw [oldest] at unwanted
  exact fun s member => unwanted s (List.mem_reverse.mpr member)

/-- No session is closed that has lain idle for less time than one that is kept. -/
theorem older (reaped : p.IsReaped w kept closed after later) {now : Duration}
    (ordered : p.IsOrdered now) :
    ∀ s ∈ closed, ∀ t ∈ kept, s.returnedAt.nanos ≤ t.returnedAt.nanos := by
  have sorted := ordered.sorted
  rw [reaped.idle] at sorted
  intro s member t among
  exact (List.pairwise_append.mp sorted).2.2 t among s member

/-- No more sessions are closed than leave as many as are to be kept. -/
theorem le_totalCount (reaped : p.IsReaped w kept closed after later) :
    min p.recover.2.totalCount p.config.minSize.toNat ≤ after.totalCount := by
  have count := reaped.count
  have length := congrArg List.length reaped.idle
  rw [List.length_append] at length
  have total : after.totalCount = p.recover.2.leasedCount + kept.length := by
    rw [reaped.pool]
    rfl
  have before : p.recover.2.totalCount = p.recover.2.leasedCount + p.idle.length := rfl
  have few : closed.length ≤ p.recover.2.totalCount - p.config.minSize.toNat := by
    rw [count, overdue]
    split
    · exact Nat.zero_le _
    · exact Nat.min_le_right ..
  omega

end IsReaped

variable [NumberedNetwork ω]

theorem idle_settle (c : Claim) (p : Pool) (w : ω) : (c.settle p w).2.1.idle = p.idle := by
  obtain ⟨-, ⟨_, -, pool⟩ | ⟨_, -, pool, -⟩⟩ := c.settle_cases p w <;> rw [pool] <;> rfl

theorem idle_grant (p : Pool) (cancellation : Cancellation) (w : ω) :
    (p.grant cancellation w).2.1.idle.Sublist p.idle := by
  rcases p.grant_cases cancellation w with ⟨-, same, -⟩ | ⟨q, same, -, granted⟩
  · rw [same, idle_approached]
  · rw [granted, same]
    simp only [idle_approached]
    exact List.tail_sublist _

theorem idle_get (p : Pool) (cancellation : Cancellation) (w : ω) :
    (p.get cancellation w).2.1.idle.Sublist p.idle := by
  rcases p.get_cases cancellation w with ⟨-, same, -⟩ | ⟨q, same, -, got⟩
  · rw [same, idle_approached]
  · rw [got]
    simp only [idle_settle]
    rw [same, idle_approached]
    exact List.tail_sublist _

theorem idle_sweep (p : Pool) (mayClose : Nat → Bool) (isUnwanted : Duration → Session → Bool)
    (w : ω) : (p.sweep mayClose isUnwanted w).1.idle.Sublist p.idle := by
  obtain ⟨idle, left, pool, -⟩ := p.sweep_spec mayClose isUnwanted w
  rw [pool]
  exact left.sublist

end Pool

namespace Lending

variable {ω : Type} [Network ω] [NumberedNetwork ω] {max : Nat} {l : Lending} {w : ω}

/-- To do something with a session that a caller has leaves the idle ones as they are. -/
theorem idle_replace {issued : Nat} (b : Balanced max (l, issued)) {s t : Session}
    (lent : s ∈ l.lent) (same : t.id = s.id) : (l.replace t).pool.idle = l.pool.idle := by
  rw [Lending.replace, map_eq fun u member =>
    if_neg fun its => b.id_ne_of_lent member lent (its.trans same)]

/-- What an operation does to the idle sessions. -/
theorem idle_run (b : Balanced max (l, issued w)) (o : Operation) :
    Pool.Shifts l.pool.idle (Network.now (l.run o w).2) (l.run o w).1.pool.idle := by
  have same : Pool.Shifts l.pool.idle (Network.now w) l.pool.idle := .gone (.refl _)
  cases o with
  | get cancellation => exact .gone (Pool.idle_get ..)
  | claim cancellation => exact .gone (Pool.idle_grant ..)
  | settle c =>
    simp only [run]
    split
    · rw [Pool.idle_settle]
      exact .gone (.refl _)
    · exact same
  | giveUp c | dropReturn r =>
    simp only [run]
    split <;> exact same
  | giveBack number =>
    simp only [run]
    split
    · exact Pool.idle_release ..
    · exact same
  | startReturn number =>
    simp only [run]
    split
    · exact .gone (.refl _)
    · exact same
  | endReturn r =>
    simp only [run]
    split
    · exact Pool.idle_finish ..
    · exact same
  | lose number | detach number =>
    simp only [run]
    split <;> exact same
  | recover => exact same
  | clear =>
    simp only [run, Pool.clear]
    exact .gone (Pool.idle_sweep ..)
  | reap =>
    simp only [run, Pool.reap]
    split
    · exact same
    · exact .gone (Pool.idle_sweep ..)
  | use number u =>
    simp only [run]
    split
    · next s found =>
      have onward := Session.continues_run u s w
      dsimp only
      rw [idle_replace b (List.mem_of_find?_eq_some found) onward.id]
      exact .gone (.refl _)
    · exact same

/-- To cancel what a session waits for leaves the idle ones as they are. -/
theorem idle_cancel {handles : List CancelHandle} (sound : Sound max handles (l, issued w))
    {h : CancelHandle} (taken : h ∈ handles) : (l.cancel h w).1.pool.idle = l.pool.idle := by
  rcases sound.cancel_cases taken with still | ⟨s, lent, done⟩
  · rw [still]
  · rw [done]
    exact idle_replace sound.balanced lent
      (Session.Continues.of_identity (h.identity_cancel s w)).id

end Lending

namespace Traffic

variable {ι ω : Type} [DecidableEq ι] [Network ω] [NumberedNetwork ω]

/-- What an event does to the idle sessions of a pool. -/
theorem Sound.idle_step {t : Traffic ι ω} (sound : t.Sound) (e : Event ι ω) (i : ι) :
    Pool.Shifts (t.lendings i).pool.idle (Network.now (t.step e).world)
      ((t.step e).lendings i).pool.idle := by
  have balanced : Balanced _ (t.lendings i, issued t.world) := (sound.each i).balanced
  rcases t.lendings_step e i with same | ⟨o, done, world, -⟩ | ⟨h, taken, done⟩
  · rw [same]
    exact .gone (.refl _)
  · rw [done, world]
    exact idle_run balanced o
  · rw [done, idle_cancel (sound.each i) taken]
    exact .gone (.refl _)

/-- Whether the clock never goes back while some events happen. -/
def IsSteady (t : Traffic ι ω) : List (Event ι ω) → Prop
  | [] => True
  | e :: rest =>
    (Network.now t.world).nanos ≤ (Network.now (t.step e).world).nanos ∧ (t.step e).IsSteady rest

instance decidableIsSteady (t : Traffic ι ω) : ∀ events : List (Event ι ω),
    Decidable (t.IsSteady events)
  | [] => inferInstanceAs (Decidable True)
  | e :: rest =>
    have := (t.step e).decidableIsSteady rest
    inferInstanceAs (Decidable (_ ∧ _))

/-- The idle sessions of all pools stay in order. -/
theorem Sound.isOrdered {t : Traffic ι ω} (sound : t.Sound) {events : List (Event ι ω)}
    (steady : t.IsSteady events)
    (ordered : ∀ i, (t.lendings i).pool.IsOrdered (Network.now t.world)) (i : ι) :
    ((t.run events).lendings i).pool.IsOrdered (Network.now (t.run events).world) := by
  induction events generalizing t with
  | nil => exact ordered i
  | cons e rest ih =>
    obtain ⟨onward, later⟩ := steady
    exact ih (sound.step e).1 later fun j => (ordered j).shifts onward (sound.idle_step e j)

/-- What a reap of one of some pools does: the sessions that it keeps, and those that it closes. -/
structure Reaps (t u : Traffic ι ω) (i : ι) (kept closed : List Session) : Prop where
  reaped : (t.lendings i).pool.IsReaped t.world kept closed (u.lendings i).pool u.world
  leaks : (u.lendings i).pool.leaks = []
  late : ∀ s ∈ closed,
    s.isIdleSince (t.lendings i).pool.config.idleTimeout (Network.now t.world) = true
  older : ∀ s ∈ closed, ∀ r ∈ kept, s.returnedAt.nanos ≤ r.returnedAt.nanos
  enough : min (t.lendings i).pool.recover.2.totalCount (t.lendings i).pool.config.minSize.toNat ≤
    (u.lendings i).pool.totalCount
  /-- Nothing becomes of the sessions that callers have, or of other pools. -/
  others : u.lendings i = { t.lendings i with pool := (u.lendings i).pool } ∧
    ∀ j, j ≠ i → u.lendings j = t.lendings j

theorem Sound.reaps {t : Traffic ι ω} (sound : t.Sound) {i : ι}
    (ordered : (t.lendings i).pool.IsOrdered (Network.now t.world))
    (still : ∀ closed, closed <:+ (t.lendings i).pool.idle →
      Network.now (closed.foldr Pool.discard t.world) = Network.now t.world) :
    ∃ kept closed, t.Reaps (t.step (.operate i .reap)) i kept closed := by
  have balanced : Balanced _ (t.lendings i, issued t.world) := (sound.each i).balanced
  obtain ⟨kept, closed, reaped⟩ := Pool.exists_isReaped ordered balanced.idle_le still
  have after := t.lendings_operate i .reap
  refine ⟨kept, closed, ?_, ?_, reaped.late ordered, reaped.older ordered, ?_, ?_, ?_⟩
  · rw [after, world_operate]
    exact reaped
  · rw [after]
    change (((t.lendings i).pool.reap t.world).1).leaks = []
    rw [reaped.pool]
    exact Pool.leaks_recover _
  · rw [after]
    exact reaped.le_totalCount
  · rw [after]
    rfl
  · exact fun j other => lendings_act_of_ne t other fun l => l.run .reap

/-- Whatever happens to pools that have just been made, as long as the clock does not go back: the idle
sessions of a pool are in the order in which they came back, the newest first. A reap whose clock
stands still takes back the permits of all leaks, and then closes the oldest idle sessions, as many
as have lain idle too long, but no more than leave as many as are to be kept. -/
theorem reap_exact {clients : ι → Config} {configs : ι → PoolConfig} {pools : ι → Pool}
    (made : ∀ i, Pool.ofConfig (clients i) (configs i) = .ok (pools i)) (w : ω)
    {events : List (Event ι ω)} (steady : (start pools w).IsSteady events) (i : ι) :
    let t := (start pools w).run events
    (t.lendings i).pool.IsOrdered (Network.now t.world) ∧
      ((∀ closed, closed <:+ (t.lendings i).pool.idle →
          Network.now (closed.foldr Pool.discard t.world) = Network.now t.world) →
        ∃ kept closed, t.Reaps (t.step (.operate i .reap)) i kept closed) := by
  have first (j : ι) : ((start pools w).lendings j).pool.IsOrdered (Network.now w) :=
    .of_idle_eq_nil (congrArg Pool.idle (pool_eq (made j))) _
  have sound := sound_start made w
  have ordered := sound.isOrdered steady first i
  exact ⟨ordered, fun still => (sound.run events).1.reaps ordered still⟩

/-- Settings of a pool of three sessions, of which one is kept however long it lies idle. -/
def shortIdling : PoolConfig :=
  { twoSessions with maxSize := 3, minSize := 1, idleTimeout := .ofSeconds 1 }

/-- A pool of three sessions that has just been made. -/
def idlingPool : Pool := ⟨.default, shortIdling, 0, 3, [], [], none⟩

/-- Two sessions come back, with some time in between in which a caller waits in vain for one of
another pool, and a third one is lost. -/
def aged : List (Event Bool Standin.World) :=
  [.operate false (.get .never), .operate false (.get .never), .operate false (.get .never),
    .operate true (.get .never), .operate true (.get .never), .operate true (.get .never),
    .operate false (.giveBack 1), .operate true (.get (.later (.ofSeconds 2))),
    .operate false (.giveBack 2), .operate false (.lose 3)]

theorem reap_exact_aged :
    let t := (start (fun _ => idlingPool) twoPools.world).run aged
    let u := t.step (.operate false .reap)
    (∀ _ : Bool, Pool.ofConfig .default shortIdling = .ok idlingPool) ∧
      (start (fun _ : Bool => idlingPool) twoPools.world).IsSteady aged ∧
      (t.lendings false).pool.IsOrdered (Network.now t.world) ∧
      numbers (t.lendings false).pool.idle = [2, 1] ∧
      (t.lendings false).pool.leaks = [⟨3, false⟩] ∧
      ∃ kept closed, numbers kept = [2] ∧ numbers closed = [1] ∧ t.Reaps u false kept closed := by
  dsimp only
  have made : ∀ _ : Bool, Pool.ofConfig .default shortIdling = .ok idlingPool := fun _ => rfl
  obtain ⟨steady, still, idle, leaks, one⟩ :
      let t := (start (fun _ : Bool => idlingPool) twoPools.world).run aged
      (start (fun _ : Bool => idlingPool) twoPools.world).IsSteady aged ∧
      (∀ closed ∈ (t.lendings false).pool.idle.tails,
        Network.now (closed.foldr Pool.discard t.world) = Network.now t.world) ∧
      numbers (t.lendings false).pool.idle = [2, 1] ∧
      (t.lendings false).pool.leaks = [⟨3, false⟩] ∧
      (t.lendings false).pool.recover.2.overdue (Network.now t.world) = 1 := by
    decide +kernel
  obtain ⟨ordered, reaps⟩ := reap_exact made twoPools.world steady false
  obtain ⟨kept, closed, done⟩ :=
    reaps fun closed back => still closed ((List.mem_tails closed _).mpr back)
  have parts : numbers kept ++ numbers closed = [2] ++ [1] := by
    rw [← numbers_append, ← done.reaped.idle]
    exact idle
  have length : (numbers closed).length = 1 := by
    rw [numbers, List.length_map, done.reaped.count]
    exact one
  obtain ⟨first, second⟩ := List.append_inj' parts length
  exact ⟨made, steady, ordered, idle, leaks, kept, closed, first, second, done⟩

end Traffic

end SqlWire
