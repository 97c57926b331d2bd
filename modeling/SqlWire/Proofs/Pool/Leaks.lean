import SqlWire.Proofs.Pool.Permits

/-! # Leaks in time of need

A caller who comes for a session while no permit is free makes the pool look for leaks, unless it
has done so lately. When it has last done so is a matter of the events alone
(`Traffic.lastScan_run`): nothing else touches the note of it.

Every permit that is not free, not with a holder and not with something under way is with a leak. So
whoever comes while fewer leases are live than there are permits is given one at once, if the pool
looks for leaks again (`Traffic.Sound.free_approached`), and a caller is told that the time is up
only if nothing could be found (`Traffic.Sound.timedOut`).
-/

namespace SqlWire

open NumberedNetwork Lending

namespace Pool

/-- Whether a caller who comes for a session makes the pool look for leaks. -/
def looksForLeaks (p : Pool) (now : Duration) : Bool := p.permits == 0 && !p.scannedLately now

theorem scannedLately_eq_false_iff {p : Pool} {now : Duration} : p.scannedLately now = false ↔
    ∀ last ∈ p.lastScan, last.nanos + scanInterval.nanos ≤ now.nanos := by
  unfold scannedLately
  cases p.lastScan with
  | none => simp
  | some last =>
    rw [Option.any_some, decide_eq_false_iff_not, Nat.not_lt]
    exact ⟨fun old _ its => Option.some.inj its ▸ old, fun old => old last rfl⟩

theorem approached_eq (p : Pool) (now : Duration) : p.approached now =
    if p.looksForLeaks now then { p with lastScan := some now }.recover.2 else p := rfl

theorem lastScan_approached (p : Pool) (now : Duration) :
    (p.approached now).lastScan = if p.looksForLeaks now then some now else p.lastScan := by
  rw [approached_eq]
  split <;> rfl

theorem config_approached (p : Pool) (now : Duration) : (p.approached now).config = p.config := by
  rw [approached_eq]
  split <;> rfl

/-- A pool that has looked for leaks has the permits of all of them. -/
theorem permits_approached (p : Pool) (now : Duration) : (p.approached now).permits =
    p.permits + if p.looksForLeaks now then p.leaks.length else 0 := by
  rw [approached_eq]
  split <;> rfl

/-- A pool without leaks has nothing to take back. -/
theorem recover_of_leaks_eq_nil {p : Pool} (none : p.leaks = []) : p.recover = (0, p) := by
  have held : p.leases.filter LeaseNote.isHeld = p.leases := by
    apply List.filter_eq_self.mpr
    intro m member
    by_contra lost
    have leak : m ∈ p.leaks := List.mem_filter.mpr ⟨member, by simpa using lost⟩
    exact List.not_mem_nil (none ▸ leak)
  rw [recover, none, held, List.length_nil, Nat.add_zero]

/-- A pool that still has no permit has found no leak, and is as it was. -/
theorem approached_of_permits_eq_zero {p : Pool} {now : Duration}
    (none : (p.approached now).permits = 0) :
    p.permits = 0 ∧ (p.looksForLeaks now = true → p.leaks = []) ∧
      p.approached now =
        { p with lastScan := if p.looksForLeaks now then some now else p.lastScan } := by
  have permits := p.permits_approached now
  rw [none] at permits
  rw [approached_eq]
  split at permits
  · next looks =>
    have nothing : p.leaks = [] := List.eq_nil_of_length_eq_zero (by omega)
    refine ⟨by omega, fun _ => nothing, ?_⟩
    rw [if_pos looks, if_pos looks]
    exact congrArg Prod.snd (recover_of_leaks_eq_nil (p := { p with lastScan := some now }) nothing)
  · next looks =>
    refine ⟨by omega, fun its => absurd its looks, ?_⟩
    rw [if_neg looks, if_neg looks]

variable {ω : Type} [Network ω]

theorem lease_cases (p : Pool) (w : ω) :
    (∃ s, (p.lease w).1 = .ok s) ∨ ∃ cause, (p.lease w).1 = .error (.client cause) := by
  unfold lease
  split
  · exact .inl ⟨_, rfl⟩
  · split
    · exact .inl ⟨_, rfl⟩
    · exact .inr ⟨_, rfl⟩

/-- The time that is up is the one that the pool allows. -/
theorem inVain_timedOut {p : Pool} {cancellation : Cancellation} {limit time : Duration}
    (vain : p.inVain cancellation = some (.acquisitionTimeout limit, time)) :
    p.config.connectionTimeout.nonZero? = some limit ∧ time = limit := by
  cases cancellation with
  | already => cases vain
  | never =>
    obtain ⟨_, allowed, same⟩ := Option.map_eq_some_iff.mp vain
    cases same
    exact ⟨allowed, rfl⟩
  | later own =>
    simp only [inVain] at vain
    split at vain
    · next _ allowed =>
      split at vain <;> cases vain
      exact ⟨allowed, rfl⟩
    · cases vain

/-- A caller is told that the time is up only by a pool that has found no permit, and after the time
that the pool allows. -/
theorem get_timedOut {p : Pool} {cancellation : Cancellation} {w : ω} {limit : Duration}
    (late : (p.get cancellation w).1 = some (.error (.acquisitionTimeout limit))) :
    (p.approached (Network.now w)).permits = 0 ∧
      p.config.connectionTimeout.nonZero? = some limit ∧
      (p.get cancellation w).2 = (p.approached (Network.now w), Network.wait limit w) := by
  rw [← p.config_approached (Network.now w)]
  unfold get at late ⊢
  generalize p.approached (Network.now w) = q at late ⊢
  dsimp only at late ⊢
  split at late
  · cases late
  · next going =>
    rw [if_neg going]
    split at late
    · next none =>
      split at late
      · next cause time vain =>
        cases late
        obtain ⟨allowed, rfl⟩ := inVain_timedOut vain
        rw [if_pos none]
        exact ⟨eq_of_beq none, allowed, rfl⟩
      · cases late
    · rcases q.takePermit.lease_cases w with ⟨s, ok⟩ | ⟨cause, failed⟩
      · rw [ok] at late
        cases late
      · rw [failed] at late
        cases late

/-- A caller for whom a permit is free is handed a session, or told why none can be opened. -/
theorem get_of_free {p : Pool} {w : ω} (free : 0 < (p.approached (Network.now w)).permits) :
    (∃ s, (p.get .never w).1 = some (.ok s)) ∨
      ∃ cause, (p.get .never w).1 = some (.error (.client cause)) := by
  unfold get
  generalize p.approached (Network.now w) = q at free ⊢
  have some : ¬ (q.permits == 0) = true := by
    rw [beq_iff_eq]
    omega
  dsimp only
  rw [if_neg (by decide), if_neg some]
  exact (q.takePermit.lease_cases w).imp (fun ⟨s, ok⟩ => ⟨s, congrArg _ ok⟩)
    fun ⟨cause, failed⟩ => ⟨cause, congrArg _ failed⟩

theorem lastScan_finish (r : Return) (p : Pool) (w : ω) :
    (r.finish p w).1.lastScan = p.lastScan := by
  rw [r.finish_eq]
  split <;> rfl

theorem lastScan_release (p : Pool) (s : Session) (w : ω) :
    (p.release s w).1.lastScan = p.lastScan := by
  rw [release_eq]
  exact lastScan_finish ..

variable [NumberedNetwork ω]

theorem lastScan_settle (c : Claim) (p : Pool) (w : ω) :
    (c.settle p w).2.1.lastScan = p.lastScan := by
  obtain ⟨-, ⟨_, -, pool⟩ | ⟨_, -, pool, -⟩⟩ := c.settle_cases p w <;> rw [pool] <;> rfl

theorem lastScan_grant (p : Pool) (cancellation : Cancellation) (w : ω) :
    (p.grant cancellation w).2.1.lastScan = (p.approached (Network.now w)).lastScan := by
  rcases p.grant_cases cancellation w with ⟨-, same, -⟩ | ⟨q, same, -, granted⟩
  · rw [same]
  · rw [granted, ← same]
    rfl

theorem lastScan_get (p : Pool) (cancellation : Cancellation) (w : ω) :
    (p.get cancellation w).2.1.lastScan = (p.approached (Network.now w)).lastScan := by
  rcases p.get_cases cancellation w with ⟨-, same, -⟩ | ⟨q, same, -, got⟩
  · rw [same]
  · rw [got, ← same]
    exact lastScan_settle ..

theorem lastScan_sweep (p : Pool) (mayClose : Nat → Bool) (isUnwanted : Duration → Session → Bool)
    (w : ω) : (p.sweep mayClose isUnwanted w).1.lastScan = p.lastScan := by
  obtain ⟨_, -, pool, -⟩ := p.sweep_spec mayClose isUnwanted w
  rw [pool]

end Pool

/-- Whether in an operation a caller comes for a session. -/
def Operation.comesForSession : Operation → Bool
  | get _ | claim _ => true
  | _ => false

namespace Lending

variable {ω : Type} [Network ω] [NumberedNetwork ω]

/-- A pool notes that it has looked for leaks only for a caller who comes for a session. -/
theorem lastScan_run (l : Lending) (o : Operation) (w : ω) : (l.run o w).1.pool.lastScan =
    if o.comesForSession && l.pool.looksForLeaks (Network.now w) then some (Network.now w)
    else l.pool.lastScan := by
  cases o with
  | get cancellation =>
    exact (l.pool.lastScan_get cancellation w).trans (l.pool.lastScan_approached _)
  | claim cancellation =>
    exact (l.pool.lastScan_grant cancellation w).trans (l.pool.lastScan_approached _)
  | settle c =>
    simp only [run]
    split
    · exact Pool.lastScan_settle ..
    · rfl
  | giveBack number =>
    simp only [run]
    split
    · exact Pool.lastScan_release ..
    · rfl
  | endReturn r =>
    simp only [run]
    split
    · exact Pool.lastScan_finish ..
    · rfl
  | giveUp | dropReturn | startReturn | lose | detach | use =>
    simp only [run]
    split <;> rfl
  | recover => rfl
  | clear =>
    simp only [run, Pool.clear]
    exact Pool.lastScan_sweep ..
  | reap =>
    simp only [run, Pool.reap]
    split
    · rfl
    · exact Pool.lastScan_sweep ..

omit [NumberedNetwork ω] in
theorem lastScan_cancel (l : Lending) (h : CancelHandle) (w : ω) :
    (l.cancel h w).1.pool.lastScan = l.pool.lastScan := by
  unfold cancel
  split <;> rfl

end Lending

/-- Whether in an event a caller comes to a pool for a session. -/
def Event.comesTo {ι ω : Type} [DecidableEq ι] (i : ι) : Event ι ω → Bool
  | operate j o => j = i && o.comesForSession
  | _ => false

namespace Traffic

variable {ι ω : Type} [DecidableEq ι] [Network ω] [NumberedNetwork ω]

theorem lastScan_step (t : Traffic ι ω) (e : Event ι ω) (i : ι) :
    ((t.step e).lendings i).pool.lastScan =
      if e.comesTo i && (t.lendings i).pool.looksForLeaks (Network.now t.world) then
        some (Network.now t.world)
      else (t.lendings i).pool.lastScan := by
  have unchanged (j : ι) (action : Lending → ω → Lending × ω)
      (same : (action (t.lendings j) t.world).1.pool.lastScan = (t.lendings j).pool.lastScan) :
      ((t.act j action).lendings i).pool.lastScan = (t.lendings i).pool.lastScan := by
    by_cases its : i = j
    · subst its
      rw [lendings_act_self, same]
    · rw [lendings_act_of_ne t its]
  cases e with
  | operate j o =>
    by_cases its : j = i
    · subst its
      rw [lendings_operate, Event.comesTo, decide_eq_true rfl, Bool.true_and]
      exact Lending.lastScan_run ..
    · rw [Event.comesTo, decide_eq_false its]
      exact congrArg (fun l => l.pool.lastScan) (lendings_act_of_ne t (Ne.symm its) fun l => l.run o)
  | giveBackThrough via own number =>
    exact unchanged own (fun l => l.run (.giveBack number))
      ((t.lendings own).lastScan_run (.giveBack number) t.world)
  | cancel j h =>
    simp only [step]
    split
    · exact unchanged j (fun l => l.cancel h) ((t.lendings j).lastScan_cancel h t.world)
    · rfl
  | takeHandle j number | elapse w =>
    simp only [step]
    split <;> rfl

/-- When a pool has looked for leaks, in some events, because a caller came for a session. -/
def scans (t : Traffic ι ω) (i : ι) : List (Event ι ω) → List Duration
  | [] => []
  | e :: rest =>
    (if e.comesTo i && (t.lendings i).pool.looksForLeaks (Network.now t.world) then
      [Network.now t.world] else []) ++ (t.step e).scans i rest

/-- A pool notes when it has last looked for leaks because a caller came for a session. -/
theorem lastScan_run (t : Traffic ι ω) (events : List (Event ι ω)) (i : ι) :
    ((t.run events).lendings i).pool.lastScan =
      (t.scans i events).getLast?.or (t.lendings i).pool.lastScan := by
  induction events generalizing t with
  | nil => rfl
  | cons e rest ih =>
    refine (ih (t.step e)).trans ?_
    rw [lastScan_step, scans, List.getLast?_append, Option.or_assoc]
    split <;> rfl

omit [DecidableEq ι] in
/-- Whoever comes while fewer leases are live than there are permits finds one free, if the pool
has not looked for leaks lately. -/
theorem Sound.free_approached {t : Traffic ι ω} (sound : t.Sound) {i : ι}
    (few : (t.lendings i).held.length + (t.lendings i).underWay <
      (t.lendings i).pool.config.maxSize.toNat)
    (old : ∀ last ∈ (t.lendings i).pool.lastScan,
      last.nanos + Pool.scanInterval.nanos ≤ (Network.now t.world).nanos) :
    0 < ((t.lendings i).pool.approached (Network.now t.world)).permits := by
  have sum := sound.permits i
  rw [Pool.permits_approached]
  by_cases free : (t.lendings i).pool.permits = 0
  · have looks : (t.lendings i).pool.looksForLeaks (Network.now t.world) = true := by
      rw [Pool.looksForLeaks, Pool.scannedLately_eq_false_iff.mpr old, free]
      rfl
    rw [if_pos looks]
    omega
  · omega

/-- What it means that a caller is told that the time is up. -/
structure TimedOut (t u : Traffic ι ω) (i : ι) (limit : Duration) : Prop where
  allowed : (t.lendings i).pool.config.connectionTimeout.nonZero? = some limit
  permits : (t.lendings i).pool.permits = 0
  idle : (t.lendings i).pool.idle = []
  /-- If the pool has looked for leaks, there were none. -/
  leaks : (t.lendings i).pool.looksForLeaks (Network.now t.world) = true →
    (t.lendings i).pool.leaks = []
  /-- All is as before, but that the pool may have looked for leaks. -/
  same : u.lendings i =
    { t.lendings i with pool := { (t.lendings i).pool with
        lastScan := (u.lendings i).pool.lastScan } }
  others : ∀ j, j ≠ i → u.lendings j = t.lendings j
  /-- Nothing happens on the network but that time passes. -/
  world : u.world = Network.wait limit t.world

theorem Sound.timedOut {t : Traffic ι ω} (sound : t.Sound) {i : ι} {cancellation : Cancellation}
    {limit : Duration}
    (late : ((t.lendings i).pool.get cancellation t.world).1 =
      some (.error (.acquisitionTimeout limit))) :
    t.TimedOut (t.step (.operate i (.get cancellation))) i limit := by
  obtain ⟨none, allowed, after⟩ := Pool.get_timedOut late
  obtain ⟨permits, leaks, same⟩ := Pool.approached_of_permits_eq_zero none
  have idle_le : (t.lendings i).pool.idle.length ≤ (t.lendings i).pool.permits :=
    (sound.each i).balanced.idle_le
  have done : (t.lendings i).run (.get cancellation) t.world =
      ({ t.lendings i with pool := (t.lendings i).pool.approached (Network.now t.world) },
        Network.wait limit t.world) := by
    simp only [Lending.run, late, after]
    rfl
  have here := (t.lendings_operate i (.get cancellation)).trans (congrArg Prod.fst done)
  refine ⟨allowed, permits, List.eq_nil_of_length_eq_zero (by omega), leaks, ?_, ?_, ?_⟩
  · rw [here, same]
  · exact fun j other => lendings_act_of_ne t other fun l => l.run (.get cancellation)
  · exact (t.world_operate i _).trans (congrArg Prod.snd done)

/-- Whatever happens to pools that have just been made: a caller who then comes to a pool for a
session, and does not give up, is not told that the time is up if all that has happened is complete,
fewer leases are live than the pool has been set up for, and the pool has not looked for leaks lately
because a caller came. Whoever is told so leaves the pool as it was, which had no permit, no session
and no leak that it could have found. -/
theorem leaks_recovered {clients : ι → Config} {configs : ι → PoolConfig} {pools : ι → Pool}
    (made : ∀ i, Pool.ofConfig (clients i) (configs i) = .ok (pools i)) (w : ω)
    (events : List (Event ι ω)) (i : ι) :
    let t := (start pools w).run events
    ((∀ e ∈ events, e.isWhole = true) →
      (t.lendings i).held.length < (configs i).maxSize.toNat →
      (∀ last ∈ ((start pools w).scans i events).getLast?,
        last.nanos + Pool.scanInterval.nanos ≤ (Network.now t.world).nanos) →
      (∃ s, ((t.lendings i).pool.get .never t.world).1 = some (.ok s)) ∨
        ∃ cause, ((t.lendings i).pool.get .never t.world).1 = some (.error (.client cause))) ∧
    ∀ cancellation limit, ((t.lendings i).pool.get cancellation t.world).1 =
        some (.error (.acquisitionTimeout limit)) →
      t.TimedOut (t.step (.operate i (.get cancellation))) i limit := by
  intro t
  obtain ⟨sound, leads⟩ : t.Sound ∧ _ := (sound_start made w).run events
  refine ⟨fun whole few old => ?_, fun _ _ late => sound.timedOut late⟩
  apply Pool.get_of_free
  have config : (t.lendings i).pool.config = configs i := by
    have new : (pools i).config = configs i := by rw [pool_eq (made i)]
    exact (leads i).1.config.trans new
  have underWay : (t.lendings i).underWay = 0 := underWay_run (start pools w) whole i
  have lastScan : (t.lendings i).pool.lastScan = ((start pools w).scans i events).getLast? := by
    have never : ((start pools w).lendings i).pool.lastScan = none := by
      simp only [start, ofPool, pool_eq (made i)]
    rw [lastScan_run, never, Option.or_none]
  refine sound.free_approached ?_ (lastScan ▸ old)
  rw [config, underWay]
  exact few

/-- Both sessions of a pool are leased, and a third caller gives up after a while, for whom the pool
has looked for leaks; then one of the two is lost. -/
def lost : List (Event Bool Standin.World) :=
  [.operate false (.get .never), .operate false (.get .never),
    .operate false (.get (.later (.ofSeconds 2))), .operate false (.lose 1)]

theorem leaks_recovered_lost :
    let t := twoPools.run lost
    let u := twoPools.run (lost.take 2)
    (∀ _ : Bool, Pool.ofConfig .default twoSessions = .ok pairPool) ∧
      (∀ e ∈ lost, e.isWhole = true) ∧
      ((t.lendings false).pool.permits, (t.lendings false).held.length,
        (t.lendings false).pool.leaks.length) = (0, 1, 1) ∧
      (∀ last ∈ (twoPools.scans false lost).getLast?,
        last.nanos + Pool.scanInterval.nanos ≤ (Network.now t.world).nanos) ∧
      twoPools.scans false lost ≠ [] ∧
      ((∃ s, ((t.lendings false).pool.get .never t.world).1 = some (.ok s)) ∨
        ∃ cause, ((t.lendings false).pool.get .never t.world).1 = some (.error (.client cause))) ∧
      ((u.lendings false).pool.get .never u.world).1 =
        some (.error (.acquisitionTimeout (.ofSeconds 15))) ∧
      u.TimedOut (u.step (.operate false (.get .never))) false (.ofSeconds 15) := by
  intro t u
  have made : ∀ _ : Bool, Pool.ofConfig .default twoSessions = .ok pairPool :=
    fun _ => pairPool_made
  have whole : ∀ e ∈ lost, e.isWhole = true := by decide
  have few : (t.lendings false).held.length < 2 := by decide +kernel
  have old : ∀ last ∈ (twoPools.scans false lost).getLast?,
      last.nanos + Pool.scanInterval.nanos ≤ (Network.now t.world).nanos := by decide +kernel
  have late : ((u.lendings false).pool.get .never u.world).1 =
      some (.error (.acquisitionTimeout (.ofSeconds 15))) := by decide +kernel
  refine ⟨made, whole, by decide +kernel, old, by decide +kernel, ?_, late, ?_⟩
  · exact (leaks_recovered made twoPools.world lost false).1 whole few old
  · exact (leaks_recovered made twoPools.world (lost.take 2) false).2 .never _ late

end Traffic

end SqlWire
