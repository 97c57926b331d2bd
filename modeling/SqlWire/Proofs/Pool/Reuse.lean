import SqlWire.Proofs.Pool.Traffic

/-! # Sessions that are handed out again

What is true of the sessions that lie idle is part of what every pool keeps (`Lending.Guarded`).
Here it is followed into the future: the handles that had been taken when a session lay idle, or
when it was handed out, do nothing to it from then on, wherever it goes (`Sound.spares`), since it
stays the session that it is and its lease only grows (`Sound.continues`).
-/

namespace SqlWire

open NumberedNetwork Lending

/-- Whether a handle can do nothing to a session, on any network of some kind. -/
def CancelHandle.IsInert (ω : Type) [Network ω] (h : CancelHandle) (s : Session) : Prop :=
  h.start s = (false, s) ∧ h.abort s = s ∧ ∀ w : ω, h.cancel s w = (false, s, w)

namespace Lending

variable {ω : Type} [Network ω]

/-- A session that is handed out is held from then on. -/
theorem held_of_handedOut {l : Lending} {o : Operation} {w : ω} {s : Session}
    (handed : l.handedOut o w = some s) : (l.run o w).1.held = s :: l.held := by
  cases o with
  | get cancellation =>
    simp only [handedOut] at handed
    simp only [run, handed, Option.toList_some, List.singleton_append]
  | settle c =>
    simp only [handedOut] at handed
    split at handed
    · next member =>
      simp only [run, if_pos member, handed, Option.toList_some, List.singleton_append]
    · cases handed
  | _ => cases handed

end Lending

namespace Traffic

variable {ι ω : Type} [Network ω] [NumberedNetwork ω] [DecidableEq ι]

/-- Whatever happens, a session stays the one that it is, and no other session gets its number. -/
theorem Sound.continues {t : Traffic ι ω} (sound : t.Sound) {i : ι} {s : Session}
    (member : s ∈ (t.lendings i).sessions) (later : List (Event ι ω)) {j : ι} {u : Session}
    (among : u ∈ ((t.run later).lendings j).sessions) (same : u.id = s.id) : s.Continues u := by
  rcases ((sound.run later).2 j).1.origin u among with ⟨v, before, onward⟩ | new
  · by_cases its : j = i
    · subst its
      have one := (sound.each j).balanced.eq_of_id_eq before member (onward.id.symm.trans same)
      exact one ▸ onward
    · exact absurd (onward.id.symm.trans same) (sound.apart j i its v before s member)
  · have lt := lt_of_mem sound member
    have ge : issued t.world ≤ u.id := new
    omega

/-- No caller has a session that is handed out. -/
theorem Sound.id_ne_of_handedOut {t : Traffic ι ω} (sound : t.Sound) {i : ι} {o : Operation}
    {s : Session} (handed : t.handedOut (.operate i o) = some s) (j : ι) :
    ∀ u ∈ (t.lendings j).lent, u.id ≠ s.id := by
  obtain ⟨-, free, -, source⟩ := (sound.each i).handedOut_spec handed
  intro u lent
  by_cases its : j = i
  · subst its
    exact free u lent
  · have among : u ∈ (t.lendings j).sessions := List.mem_append_right _ lent
    rcases source with ⟨v, before, onward⟩ | new
    · exact onward.id ▸ sound.apart j i its u among v before
    · have lt := lt_of_mem sound among
      omega

/-- Whether none of some handles does anything to the session of a number, whatever happens from now
on. -/
def Spares (t : Traffic ι ω) (handles : List CancelHandle) (number : Nat) : Prop :=
  ∀ h ∈ handles, h.session = number → ∀ later j, ∀ u ∈ ((t.run later).lendings j).sessions,
    u.id = number → h.IsInert ω u

/-- A session whose handles are void is spared by them for good. -/
theorem Sound.spares {t : Traffic ι ω} (sound : t.Sound) {i : ι} {s : Session}
    (member : s ∈ (t.lendings i).sessions) {handles : List CancelHandle}
    (void : s.IsVoid handles) : t.Spares handles s.id := by
  intro h taken its later j u among same
  have onward := (sound.continues member later among same).lease
  have other : h.lease ≠ u.lease := by
    have before := void h taken its
    omega
  exact h.cancel_of_lease_ne other

/-- What a session of a pool is like that may be handed out again. -/
structure Reusable (t : Traffic ι ω) (i : ι) (s : Session) : Prop where
  state : s.state = .connected
  generation : s.generation = (t.lendings i).pool.generation
  databaseOverride : s.databaseOverride = none
  once : (numbers (t.lendings i).pool.idle).count s.id = 1
  unleased : ∀ m ∈ (t.lendings i).pool.leases, m.session ≠ s.id
  unheld : ∀ j, ∀ u ∈ (t.lendings j).held, u.id ≠ s.id
  spared : t.Spares t.handles s.id

/-- Every session that lies idle may be handed out again. -/
theorem Sound.reusable {t : Traffic ι ω} (sound : t.Sound) {i : ι} {s : Session}
    (idle : s ∈ (t.lendings i).pool.idle) : t.Reusable i s := by
  have shelved : s ∈ (t.lendings i).shelved := mem_shelved.mpr (.inl idle)
  have member : s ∈ (t.lendings i).sessions := List.mem_append_left _ shelved
  obtain ⟨current, void, fit⟩ := (sound.each i).guarded.idle s idle
  have balanced : Balanced _ (t.lendings i, issued t.world) := (sound.each i).balanced
  have present : 0 < (numbers (t.lendings i).pool.idle).count s.id :=
    List.count_pos_iff.mpr (List.mem_map_of_mem idle)
  have once := (balanced.once s.id).1
  simp only [count_shelved] at once
  refine ⟨fit.state, current, fit.databaseOverride, ?_, ?_, ?_, sound.spares member void⟩
  · omega
  · intro m noted same
    have counted : 0 < (t.lendings i).noted.count s.id :=
      List.count_pos_iff.mpr (List.mem_map.mpr ⟨m, noted, same⟩)
    omega
  · intro j u held same
    by_cases its : j = i
    · subst its
      exact balanced.id_ne_of_lent shelved (List.mem_append_left _ held) same.symm
    · have among : u ∈ (t.lendings j).sessions :=
        List.mem_append_right _ (List.mem_append_left _ held)
      exact sound.apart j i its u among s member same

/-- What a session is like that has been handed out between two states. -/
structure HandedOver (t next : Traffic ι ω) (i : ι) (s : Session) : Prop where
  state : s.state = .connected
  unheld : ∀ j, ∀ u ∈ (t.lendings j).held, u.id ≠ s.id
  held : s ∈ (next.lendings i).held
  alone : ∀ j, ∀ u ∈ (next.lendings j).held, u.id = s.id → j = i ∧ u = s
  spared : next.Spares t.handles s.id

/-- Every session that is handed out is its new holder's alone. -/
theorem Sound.handedOver {t : Traffic ι ω} (sound : t.Sound) {i : ι} {o : Operation} {s : Session}
    (handed : t.handedOut (.operate i o) = some s) :
    t.HandedOver (t.step (.operate i o)) i s := by
  obtain ⟨connected, -, void, -⟩ := (sound.each i).handedOut_spec handed
  have unheld : ∀ j, ∀ u ∈ (t.lendings j).held, u.id ≠ s.id :=
    fun j u held => sound.id_ne_of_handedOut handed j u (List.mem_append_left _ held)
  have held : ((t.step (.operate i o)).lendings i).held = s :: (t.lendings i).held := by
    rw [lendings_operate]
    exact held_of_handedOut handed
  have taken : s ∈ ((t.step (.operate i o)).lendings i).held := held ▸ List.mem_cons_self ..
  refine ⟨connected, unheld, taken, ?_, ?_⟩
  · intro j u among same
    by_cases its : j = i
    · subst its
      rw [held] at among
      rcases List.mem_cons.mp among with one | other
      · exact ⟨rfl, one⟩
      · exact absurd same (unheld j u other)
    · have other : (t.step (.operate i o)).lendings j = t.lendings j :=
        lendings_act_of_ne t its fun l => l.run o
      exact absurd same (unheld j u (other ▸ among))
  · have member : s ∈ ((t.step (.operate i o)).lendings i).sessions :=
      List.mem_append_right _ (List.mem_append_left _ taken)
    exact (sound.step (.operate i o)).1.spares member void

/-- Whatever happens to pools that have just been made, every session that lies idle may be handed
out again: it is connected, of the present generation and on the configured database, idle once and
in no lease, and no handle that has been taken will ever do anything to it. Every session that is
handed out is connected and its holder's alone, and no handle that was taken before will ever do
anything to it. -/
theorem reuse_safe {clients : ι → Config} {configs : ι → PoolConfig} {pools : ι → Pool}
    (made : ∀ i, Pool.ofConfig (clients i) (configs i) = .ok (pools i)) (w : ω)
    (events : List (Event ι ω)) :
    let t := (start pools w).run events
    (∀ i, ∀ s ∈ (t.lendings i).pool.idle, t.Reusable i s) ∧
      ∀ i o s, t.handedOut (.operate i o) = some s →
        t.HandedOver (t.step (.operate i o)) i s := by
  intro t
  obtain ⟨sound, -⟩ : t.Sound ∧ _ := (sound_start made w).run events
  exact ⟨fun i s idle => sound.reusable idle, fun i o s handed => sound.handedOver handed⟩

/-- A handle is taken of one of two sessions, the other is put on another database, and both come
back. -/
def returned : List (Event Bool Standin.World) :=
  [.operate false (.get .never), .operate false (.get .never), .takeHandle false 1,
    .operate false (.use 2 (.call (.changeDatabase "other"))), .operate false (.giveBack 1),
    .operate false (.giveBack 2)]

theorem reuse_safe_returned :
    (∀ _ : Bool, Pool.ofConfig .default twoSessions = .ok pairPool) ∧
      let t := twoPools.run returned
      let e : Event Bool Standin.World := .operate false (.get .never)
      numbers (t.lendings false).pool.idle = [1] ∧
      t.handles.map (fun h => (h.session, h.lease)) = [(1, 0)] ∧
      (t.handedOut e).map (fun s => (s.id, s.lease)) = some (1, 1) ∧
      ∀ s, t.handedOut e = some s → t.HandedOver (t.step e) false s := by
  have made : ∀ _ : Bool, Pool.ofConfig .default twoSessions = .ok pairPool :=
    fun _ => pairPool_made
  have safe := reuse_safe made twoPools.world returned
  refine ⟨made, by decide +kernel, by decide +kernel, by decide +kernel, ?_⟩
  exact fun s handed => safe.2 false (.get .never) s handed

end Traffic

end SqlWire
