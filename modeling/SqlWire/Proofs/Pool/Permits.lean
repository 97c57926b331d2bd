import SqlWire.Proofs.Pool.Traffic

/-! # Permits are conserved

The permits of a pool are free, with a lease that has a holder, with a lease that has leaked, or
with what is under way, and this never changes (`Sound.permits`). Operations that are complete leave
nothing under way (`Traffic.underWay_run`). `Accounted` puts this together with what single
operations do to the permits: who is handed a session takes one, who gives it back frees it once,
and whoever looks for leaks frees those of all leaks.
-/

namespace SqlWire

open NumberedNetwork Lending

namespace Pool

variable {ω : Type} [Network ω]

/-- Taking a session back restores one permit, whatever becomes of the session. -/
theorem permits_release (p : Pool) (s : Session) (w : ω) :
    (p.release s w).1.permits = p.permits + 1 := by
  rw [release_eq]
  simp only [takeBack, Return.finish_eq]
  split <;> rfl

/-- Leaks that have been found are no leaks any more. -/
theorem leaks_recover (p : Pool) : p.recover.2.leaks = [] := by
  apply List.filter_eq_nil_iff.mpr
  intro m member
  have held := (List.mem_filter.mp member).2
  simp [held]

end Pool

namespace Lending

variable {ω : Type} [Network ω]

theorem underWay_replace (l : Lending) (t : Session) : (l.replace t).underWay = l.underWay := by
  simp only [underWay, replace, map, List.length_map]

/-- An operation that is complete leaves nothing under way. -/
theorem underWay_run (l : Lending) {o : Operation} (whole : o.isWhole = true) (w : ω) :
    (l.run o w).1.underWay = l.underWay := by
  cases o with
  | claim | settle | giveUp | startReturn | endReturn | dropReturn => cases whole
  | giveBack number | lose number | detach number =>
    simp only [run]
    split <;> rfl
  | use number u =>
    simp only [run]
    split
    · exact underWay_replace ..
    · rfl
  | _ => rfl

end Lending

namespace Traffic

variable {ι ω : Type} [Network ω] [NumberedNetwork ω]

/-- The permits of a pool are with nobody, with those who hold its sessions, with leaks, or with
what is under way. -/
theorem Sound.permits {t : Traffic ι ω} (sound : t.Sound) (i : ι) :
    (t.lendings i).pool.permits + (t.lendings i).held.length + (t.lendings i).pool.leaks.length +
      (t.lendings i).underWay = (t.lendings i).pool.config.maxSize.toNat := by
  have balanced := (sound.each i).balanced
  have sum : (t.lendings i).pool.permits + (t.lendings i).pool.leases.length +
    (t.lendings i).underWay = _ := balanced.permits
  have live := balanced.held.length_eq
  simp only [List.length_map, numbers, view] at live
  have parts := (t.lendings i).pool.leases.length_eq_length_filter_add LeaseNote.isHeld
  simp only [Pool.leaks]
  omega

variable [DecidableEq ι]

theorem underWay_step (t : Traffic ι ω) {e : Event ι ω} (whole : e.isWhole = true) (i : ι) :
    ((t.step e).lendings i).underWay = (t.lendings i).underWay := by
  have acted : ∀ (j : ι) (action : Lending → ω → Lending × ω),
      (action (t.lendings j) t.world).1.underWay = (t.lendings j).underWay →
        ((t.act j action).lendings i).underWay = (t.lendings i).underWay := by
    intro j action same
    by_cases its : i = j
    · subst its
      rw [lendings_act_self, same]
    · rw [lendings_act_of_ne t its]
  cases e with
  | operate j o => exact acted j (fun l => l.run o) (Lending.underWay_run _ whole _)
  | giveBackThrough via own number =>
    exact acted own (fun l => l.run (.giveBack number)) (Lending.underWay_run _ rfl _)
  | takeHandle j number =>
    simp only [step]
    split <;> rfl
  | cancel j h =>
    simp only [step]
    split
    · apply acted
      unfold Lending.cancel
      split
      · exact underWay_replace ..
      · rfl
    · rfl
  | elapse w =>
    simp only [step]
    split <;> rfl

theorem underWay_run (t : Traffic ι ω) {events : List (Event ι ω)}
    (whole : ∀ e ∈ events, e.isWhole = true) (i : ι) :
    ((t.run events).lendings i).underWay = (t.lendings i).underWay := by
  induction events generalizing t with
  | nil => rfl
  | cons e rest ih =>
    have later := ih (t.step e) fun e member => whole e (List.mem_cons_of_mem _ member)
    exact later.trans (t.underWay_step (whole e (List.mem_cons_self ..)) i)

/-- A lease that is given back is over, and to give it back again does nothing. -/
theorem Sound.giveBack {t : Traffic ι ω} (sound : t.Sound) {i : ι} {s : Session}
    (held : s ∈ (t.lendings i).held) :
    let u := t.step (.operate i (.giveBack s.id))
    (u.lendings i).pool.permits = (t.lendings i).pool.permits + 1 ∧
      (t.lendings i).held.Perm (s :: (u.lendings i).held) ∧
        u.step (.operate i (.giveBack s.id)) = u := by
  have balanced : Balanced _ (t.lendings i, issued t.world) := (sound.each i).balanced
  have found := balanced.numbered_held held
  have done := run_giveBack found t.world
  intro u
  have after := t.lendings_operate i (.giveBack s.id)
  rw [done] at after
  refine ⟨?_, ?_, ?_⟩
  · rw [after]
    exact Pool.permits_release ..
  · rw [after]
    exact perm_without found
  · have absent : numbered s.id (u.lendings i).held = none := by
      rw [after]
      exact balanced.numbered_without held
    rw [step_operate]
    apply act_eq_self
    simp only [Lending.run, absent]

/-- Whoever comes for a session and is handed one takes a permit with it; whoever is not takes
none. -/
theorem Sound.get {t : Traffic ι ω} (sound : t.Sound) (i : ι) (cancellation : Cancellation) :
    let e : Event ι ω := .operate i (.get cancellation)
    ((t.step e).lendings i).pool.permits + ((t.step e).lendings i).pool.leaks.length +
        (t.handedOut e).toList.length =
      (t.lendings i).pool.permits + (t.lendings i).pool.leaks.length := by
  intro e
  have before := sound.permits i
  have after := (sound.step e).1.permits i
  have config : ((t.step e).lendings i).pool.config = (t.lendings i).pool.config :=
    ((sound.step e).2 i).1.config
  have underWay := t.underWay_step (e := e) rfl i
  have held : ((t.step e).lendings i).held = (t.handedOut e).toList ++ (t.lendings i).held := by
    rw [lendings_operate]
    rfl
  rw [config, underWay, held, List.length_append] at after
  omega

/-- Where the permits of a pool are, and what single operations do to them. -/
structure Accounted (t : Traffic ι ω) (i : ι) (max : Nat) : Prop where
  sum : (t.lendings i).pool.permits + (t.lendings i).held.length +
    (t.lendings i).pool.leaks.length + (t.lendings i).underWay = max
  idle_le : (t.lendings i).pool.idle.length ≤ (t.lendings i).pool.permits
  status_le : (t.lendings i).pool.status.idle + (t.lendings i).pool.status.leased ≤
    (t.lendings i).pool.status.max
  /-- A permit goes with a session that is handed out, and none without. -/
  get : ∀ cancellation, let e : Event ι ω := .operate i (.get cancellation)
    ((t.step e).lendings i).pool.permits + ((t.step e).lendings i).pool.leaks.length +
        (t.handedOut e).toList.length =
      (t.lendings i).pool.permits + (t.lendings i).pool.leaks.length
  /-- A permit comes back with a session that is given back, and only once. -/
  giveBack : ∀ s ∈ (t.lendings i).held,
    let u := t.step (.operate i (.giveBack s.id))
    (u.lendings i).pool.permits = (t.lendings i).pool.permits + 1 ∧
      (t.lendings i).held.Perm (s :: (u.lendings i).held) ∧
      u.step (.operate i (.giveBack s.id)) = u
  /-- The permits of all leaks come back when they are looked for. -/
  recover : let u := t.step (.operate i .recover)
    (u.lendings i).pool.permits =
        (t.lendings i).pool.permits + (t.lendings i).pool.leaks.length ∧
      (u.lendings i).pool.leaks = []
  /-- What is given back through the pool but is of another changes nothing. -/
  foreign : ∀ own number, i ≠ own →
    (t.step (.giveBackThrough i own number)).lendings i = t.lendings i

/-- The permits of a pool that is in order are accounted for. -/
theorem Sound.accounted {t : Traffic ι ω} (sound : t.Sound) (i : ι) :
    t.Accounted i (t.lendings i).pool.config.maxSize.toNat := by
  have sum := sound.permits i
  refine ⟨sum, (sound.each i).balanced.idle_le, ?_, sound.get i, fun s => sound.giveBack, ?_, ?_⟩
  · have idle_le : (t.lendings i).pool.idle.length ≤ (t.lendings i).pool.permits :=
      (sound.each i).balanced.idle_le
    simp only [Pool.status, Pool.leasedCount]
    omega
  · intro u
    have after : u.lendings i = _ := t.lendings_operate i .recover
    rw [after]
    exact ⟨rfl, Pool.leaks_recover (t.lendings i).pool⟩
  · intro own number other
    exact lendings_act_of_ne t other fun l => l.run (.giveBack number)

/-- Whatever happens to pools that have just been made, the permits of each of them are accounted
for: those that are free, those of its leases, and those of leaks and of what is under way are as
many as it has been set up for. If all that has happened is complete, nothing is under way. -/
theorem permits_conserved {clients : ι → Config} {configs : ι → PoolConfig} {pools : ι → Pool}
    (made : ∀ i, Pool.ofConfig (clients i) (configs i) = .ok (pools i)) (w : ω)
    (events : List (Event ι ω)) (i : ι) :
    let t := (start pools w).run events
    t.Accounted i (configs i).maxSize.toNat ∧
      ((∀ e ∈ events, e.isWhole = true) → (t.lendings i).underWay = 0) := by
  intro t
  obtain ⟨sound, leads⟩ := (sound_start made w).run events
  have config : (t.lendings i).pool.config = configs i := by
    have new : (pools i).config = configs i := by rw [pool_eq (made i)]
    exact (leads i).1.config.trans new
  constructor
  · exact config ▸ sound.accounted i
  · intro whole
    exact underWay_run (start pools w) whole i

/-- Three leases of two pools, of which one is given back through the other pool and taken again,
one is lost, and one is detached. -/
def scattered : List (Event Bool Standin.World) :=
  [.operate false (.get .never), .operate false (.get .never), .operate true (.get .never),
    .giveBackThrough true false 1, .operate false (.lose 2), .operate true (.detach 3),
    .operate false (.get .never)]

theorem permits_conserved_scattered :
    (∀ _ : Bool, Pool.ofConfig .default twoSessions = .ok pairPool) ∧
      (∀ e ∈ scattered, e.isWhole = true) ∧
      [false, true].map (fun i => let l := (twoPools.run scattered).lendings i
        (l.pool.permits, l.held.length, l.pool.leaks.length)) = [(0, 1, 1), (1, 0, 1)] ∧
      (twoPools.run scattered).Accounted false 2 ∧
      ((twoPools.run scattered).lendings false).underWay = 0 := by
  have made : ∀ _ : Bool, Pool.ofConfig .default twoSessions = .ok pairPool :=
    fun _ => pairPool_made
  have whole : ∀ e ∈ scattered, e.isWhole = true := by decide
  have same : start (fun _ : Bool => pairPool) twoPools.world = twoPools := rfl
  have room : twoSessions.maxSize.toNat = 2 := rfl
  have conserved := permits_conserved made twoPools.world scattered false
  rw [same, room] at conserved
  exact ⟨made, whole, by decide +kernel, conserved.1, conserved.2 whole⟩

end Traffic

end SqlWire
