import SqlWire.Proofs.Pool.Lending

/-! # The balance of a pool

A pool counts its permits and notes its leases; the sessions themselves lie idle with it, are on
their way, or are with callers. `Balanced` says how these go together. Every permit that is not free
is with a lease or with something under way, no more sessions lie idle than permits are free, the
leases that have a holder are those of the sessions that are held, and no session is noted or
present twice.

The last part is a matter of counting numbers: what a move does to a count is arithmetic, and a
number that has not been given yet counts nothing, so a session that is opened may join. Each move
keeps the balance (`Balanced.move`).
-/

namespace SqlWire

namespace Pool

/-- The leases of a pool one of which is struck. -/
theorem leases_strike {p : Pool} {rest : List LeaseNote} {number : Nat}
    (noted : p.leases.Perm (⟨number, true⟩ :: rest)) (others : ∀ n ∈ rest, n.session ≠ number) :
    (p.strike number).leases.Perm rest := by
  have struck := noted.filter fun n => n.session != number
  have kept : rest.filter (fun n => n.session != number) = rest := by
    apply List.filter_eq_self.mpr
    intro n member
    simpa using others n member
  simpa [strike, kept] using struck

/-- The leases of a pool one of which has no holder any more. -/
theorem leases_lose {p : Pool} {rest : List LeaseNote} {number : Nat}
    (noted : p.leases.Perm (⟨number, true⟩ :: rest)) (others : ∀ n ∈ rest, n.session ≠ number) :
    (p.lose number).leases.Perm (⟨number, false⟩ :: rest) := by
  have lost := noted.map fun n => if n.session == number then { n with isHeld := false } else n
  have kept : rest.map (fun n => if n.session == number then { n with isHeld := false } else n) =
      rest := by
    refine (List.map_congr_left fun n member => if_neg ?_).trans (List.map_id _)
    simpa using others n member
  rw [List.map_cons, kept] at lost
  simpa [lose] using lost

/-- The leases of a pool that notes one more. -/
theorem leases_note {p : Pool} {number : Nat} (others : ∀ n ∈ p.leases, n.session ≠ number) :
    (p.note number).leases = ⟨number, true⟩ :: p.leases := by
  simp only [note, List.cons.injEq, true_and, List.filter_eq_self]
  intro n member
  simpa using others n member

end Pool

/-- A session that is handed out has the number of the one that lay idle, or a new one. -/
theorem Claim.Yields.number {c : Claim} {low high : Nat} {t : Session}
    (yields : c.Yields low high t) :
    numbers c.candidate.toList = [t.id] ∨ low ≤ t.id ∧ t.id < high := by
  cases yields with
  | revived s candidate _ same _ =>
    left
    rw [candidate, Option.toList_some, numbers_cons, numbers_nil]
    exact congrArg (fun identity => [identity.1]) same.symm
  | opened _ ge lt => exact .inr ⟨ge, lt⟩

namespace Lending

/-- The numbers of the sessions whose leases are noted. -/
def noted (l : Lending) : List Nat := l.pool.leases.map LeaseNote.session

/-- What a pool's notes and its sessions have to do with each other. -/
structure Balanced (max : Nat) (x : Lending × Nat) : Prop where
  permits : x.1.pool.permits + x.1.pool.leases.length + x.1.underWay = max
  idle_le : x.1.pool.idle.length ≤ x.1.pool.permits
  held : ((x.1.pool.leases.filter LeaseNote.isHeld).map LeaseNote.session).Perm (numbers x.1.held)
  once : ∀ n, x.1.noted.count n + (numbers x.1.shelved).count n ≤ 1 ∧
    (numbers x.1.sessions).count n ≤ 1 ∧
      (x.2 ≤ n → x.1.noted.count n = 0 ∧ (numbers x.1.sessions).count n = 0)

theorem count_shelved (l : Lending) (n : Nat) :
    (numbers l.shelved).count n = (numbers l.pool.idle).count n +
      (numbers (l.claims.filterMap Claim.candidate)).count n +
        (numbers (l.returns.map Return.session)).count n := by
  simp only [shelved, numbers_append, List.count_append]

theorem count_sessions (l : Lending) (n : Nat) :
    (numbers l.sessions).count n = (numbers l.shelved).count n + (numbers l.held).count n +
      (numbers l.loose).count n := by
  simp only [sessions, lent, numbers_append, List.count_append, Nat.add_assoc]

theorem count_candidates (c : Claim) (claims : List Claim) (n : Nat) :
    (numbers ((c :: claims).filterMap Claim.candidate)).count n =
      (numbers c.candidate.toList).count n +
        (numbers (claims.filterMap Claim.candidate)).count n := by
  obtain ⟨generation, _ | s⟩ := c
  · simp
  · simp [List.count_cons, Nat.add_comm]

theorem count_idle (sessions : List Session) (n : Nat) :
    (numbers sessions).count n =
      (numbers sessions.head?.toList).count n + (numbers sessions.tail).count n := by
  cases sessions with
  | nil => rfl
  | cons s rest => simp [List.count_cons, Nat.add_comm]

theorem numbers_map {f : Session → Session} {sessions : List Session}
    (same : ∀ s ∈ sessions, (f s).id = s.id) : numbers (sessions.map f) = numbers sessions := by
  rw [numbers, List.map_map]
  exact List.map_congr_left same

namespace Balanced

variable {max issued : Nat} {l : Lending}

theorem grant (b : Balanced max (l, issued)) (free : 0 < l.pool.permits) :
    Balanced max ({ l with
      pool := { l.pool.takePermit with idle := l.pool.idle.tail }
      claims := ⟨l.pool.generation, l.pool.idle.head?⟩ :: l.claims }, issued) := by
  obtain ⟨permits, idle_le, held, once⟩ := b
  constructor
  · simp only [underWay, Pool.takePermit, List.length_cons] at permits ⊢
    omega
  · simp only [Pool.takePermit, List.length_tail] at idle_le ⊢
    omega
  · exact held
  · intro n
    have before := once n
    simp only [noted, count_sessions, count_shelved, count_candidates, Pool.takePermit] at before ⊢
    rw [count_idle l.pool.idle n] at before
    omega

theorem giveUp {c : Claim} {claims : List Claim}
    (b : Balanced max ({ l with claims := c :: claims }, issued)) :
    Balanced max ({ l with pool := l.pool.restorePermit, claims }, issued) := by
  obtain ⟨permits, idle_le, held, once⟩ := b
  constructor
  · simp only [underWay, Pool.restorePermit, List.length_cons] at permits ⊢
    omega
  · simp only [Pool.restorePermit] at idle_le ⊢
    omega
  · exact held
  · intro n
    have before := once n
    simp only [noted, count_sessions, count_shelved, count_candidates,
      Pool.restorePermit] at before ⊢
    omega

theorem lend {c : Claim} {claims : List Claim} {t : Session} {later : Nat}
    (b : Balanced max ({ l with claims := c :: claims }, issued)) (le : issued ≤ later)
    (yields : c.Yields issued later t) :
    Balanced max
      ({ l with pool := l.pool.note t.id, held := t :: l.held, claims }, later) := by
  obtain ⟨permits, idle_le, held, once⟩ := b
  have absent : ∀ m ∈ l.pool.leases, m.session ≠ t.id := by
    have none : l.noted.count t.id = 0 := by
      rcases yields.number with same | ⟨ge, -⟩
      · have before := (once t.id).1
        simp only [noted, count_shelved, count_candidates, same,
          List.count_singleton_self] at before
        unfold noted
        omega
      · exact ((once t.id).2.2 ge).1
    intro m member same
    exact List.count_eq_zero.mp none (List.mem_map.mpr ⟨m, member, same⟩)
  constructor
  · simp only [underWay, List.length_cons, Pool.leases_note absent] at permits ⊢
    simp only [Pool.note]
    omega
  · exact idle_le
  · simp only [Pool.leases_note absent, List.filter_cons_of_pos, List.map_cons, numbers_cons]
    exact held.cons _
  · intro n
    have before := once n
    rcases yields.number with same | ⟨ge, lt⟩
    · simp only [noted, count_sessions, count_shelved, count_candidates, Pool.leases_note absent,
        same, List.map_cons, numbers_cons, List.count_cons, List.count_nil, beq_iff_eq] at before ⊢
      simp only [Pool.note]
      omega
    · simp only [noted, count_sessions, count_shelved, count_candidates, Pool.leases_note absent,
        List.map_cons, numbers_cons, List.count_cons, beq_iff_eq] at before ⊢
      simp only [Pool.note]
      split <;> omega

/-- The lease of a session that is held is noted, and once only. -/
theorem lease_of_held {s : Session} {held : List Session}
    (b : Balanced max ({ l with held := s :: held }, issued)) :
    ∃ rest, l.pool.leases.Perm (⟨s.id, true⟩ :: rest) ∧ ∀ m ∈ rest, m.session ≠ s.id := by
  have member : s.id ∈ (l.pool.leases.filter LeaseNote.isHeld).map LeaseNote.session :=
    b.held.mem_iff.mpr (List.mem_cons_self ..)
  obtain ⟨⟨number, isHeld⟩, filtered, rfl⟩ := List.mem_map.mp member
  obtain ⟨noted, rfl⟩ := List.mem_filter.mp filtered
  refine ⟨_, List.perm_cons_erase noted, ?_⟩
  intro m among same
  have counted := ((List.perm_cons_erase noted).map LeaseNote.session).count_eq s.id
  have once := (b.once s.id).1
  have again : 0 < ((l.pool.leases.erase ⟨s.id, true⟩).map LeaseNote.session).count s.id :=
    List.count_pos_iff.mpr (List.mem_map.mpr ⟨m, among, same⟩)
  simp only [List.map_cons, List.count_cons_self] at counted
  simp only [Lending.noted] at once
  omega

/-- The leases that are held beside one are those of the other sessions that are held. -/
theorem held_others {s : Session} {held : List Session} {rest : List LeaseNote}
    (b : Balanced max ({ l with held := s :: held }, issued))
    (noted : l.pool.leases.Perm (⟨s.id, true⟩ :: rest)) :
    ((rest.filter LeaseNote.isHeld).map LeaseNote.session).Perm (numbers held) :=
  (((noted.filter LeaseNote.isHeld).map LeaseNote.session).symm.trans b.held).cons_inv

theorem takeBack {s : Session} {held : List Session} {r : Return}
    (b : Balanced max ({ l with held := s :: held }, issued)) (same : r.session.id = s.id) :
    Balanced max
      ({ l with pool := l.pool.strike s.id, held, returns := r :: l.returns }, issued) := by
  obtain ⟨rest, noted, others⟩ := b.lease_of_held
  have struck := Pool.leases_strike noted others
  constructor
  · have permits := b.permits
    simp only [underWay, List.length_cons, noted.length_eq, struck.length_eq] at permits ⊢
    simp only [Pool.strike]
    omega
  · exact b.idle_le
  · exact ((struck.filter _).map _).trans (b.held_others noted)
  · intro n
    have before := b.once n
    have fewer := (noted.map LeaseNote.session).count_eq n
    have left := (struck.map LeaseNote.session).count_eq n
    simp only [Lending.noted, count_sessions, count_shelved, List.map_cons, numbers_cons, same,
      left, fewer, List.count_cons] at before ⊢
    simp only [Pool.strike]
    omega

theorem shelve {r : Return} {returns : List Return}
    (b : Balanced max ({ l with returns := r :: returns }, issued)) (now : Duration) :
    Balanced max ({ l with
      pool := (l.pool.shelve (r.session.returned now)).restorePermit, returns }, issued) := by
  obtain ⟨permits, idle_le, held, once⟩ := b
  constructor
  · simp only [underWay, Pool.shelve, Pool.restorePermit, List.length_cons] at permits ⊢
    omega
  · simp only [Pool.shelve, Pool.restorePermit, List.length_cons] at idle_le ⊢
    omega
  · exact held
  · intro n
    have before := once n
    simp only [noted, count_sessions, count_shelved, Pool.shelve, Pool.restorePermit,
      Session.returned, List.map_cons, numbers_cons, List.count_cons] at before ⊢
    omega

theorem drop {r : Return} {returns : List Return}
    (b : Balanced max ({ l with returns := r :: returns }, issued)) :
    Balanced max ({ l with pool := l.pool.restorePermit, returns }, issued) := by
  obtain ⟨permits, idle_le, held, once⟩ := b
  constructor
  · simp only [underWay, Pool.restorePermit, List.length_cons] at permits ⊢
    omega
  · simp only [Pool.restorePermit] at idle_le ⊢
    omega
  · exact held
  · intro n
    have before := once n
    simp only [noted, count_sessions, count_shelved, Pool.restorePermit, List.map_cons,
      numbers_cons, List.count_cons] at before ⊢
    omega

theorem detach {s : Session} {held : List Session}
    (b : Balanced max ({ l with held := s :: held }, issued)) :
    Balanced max
      ({ l with pool := l.pool.lose s.id, held, loose := s :: l.loose }, issued) := by
  obtain ⟨rest, noted, others⟩ := b.lease_of_held
  have lost := Pool.leases_lose noted others
  have others := b.held_others noted
  constructor
  · have permits := b.permits
    simp only [underWay, List.length_cons, noted.length_eq, lost.length_eq] at permits ⊢
    exact permits
  · exact b.idle_le
  · exact ((lost.filter _).map _).trans others
  · intro n
    have before := b.once n
    have fewer := (noted.map LeaseNote.session).count_eq n
    have left := (lost.map LeaseNote.session).count_eq n
    simp only [Lending.noted, count_sessions, count_shelved, List.map_cons, numbers_cons, left,
      fewer, List.count_cons] at before ⊢
    simp only [Pool.lose]
    omega

theorem forget {s : Session} {loose : List Session}
    (b : Balanced max ({ l with loose := s :: loose }, issued)) :
    Balanced max ({ l with loose }, issued) := by
  obtain ⟨permits, idle_le, held, once⟩ := b
  refine ⟨permits, idle_le, held, ?_⟩
  intro n
  have before := once n
  simp only [noted, count_sessions, count_shelved, numbers_cons, List.count_cons] at before ⊢
  omega

theorem sweep {idle : List Session} (b : Balanced max (l, issued)) (left : idle <+: l.pool.idle) :
    Balanced max ({ l with pool := { l.pool with idle } }, issued) := by
  obtain ⟨permits, idle_le, held, once⟩ := b
  refine ⟨permits, left.length_le.trans idle_le, held, ?_⟩
  intro n
  have before := once n
  have fewer : (numbers idle).count n ≤ (numbers l.pool.idle).count n :=
    (left.sublist.map Session.id).count_le n
  simp only [noted, count_sessions, count_shelved] at before ⊢
  omega

theorem recover (b : Balanced max (l, issued)) :
    Balanced max ({ l with pool := l.pool.recover.2 }, issued) := by
  obtain ⟨permits, idle_le, held, once⟩ := b
  have parts := l.pool.leases.length_eq_length_filter_add LeaseNote.isHeld
  constructor
  · simp only [underWay, Pool.recover, Pool.leaks] at permits ⊢
    omega
  · simp only [Pool.recover] at idle_le ⊢
    omega
  · simpa [Pool.recover] using held
  · intro n
    have before := once n
    have fewer : ((l.pool.leases.filter LeaseNote.isHeld).map LeaseNote.session).count n ≤
        (l.pool.leases.map LeaseNote.session).count n :=
      (List.filter_sublist.map LeaseNote.session).count_le n
    simp only [noted, count_sessions, count_shelved, Pool.recover] at before ⊢
    omega

theorem use {f : Session → Session} (b : Balanced max (l, issued))
    (same : ∀ s ∈ l.lent, s.Continues (f s)) :
    Balanced max ({ l with held := l.held.map f, loose := l.loose.map f }, issued) := by
  obtain ⟨permits, idle_le, held, once⟩ := b
  have sameHeld := numbers_map fun s member => (same s (List.mem_append_left _ member)).id
  have sameLoose := numbers_map fun s member => (same s (List.mem_append_right _ member)).id
  refine ⟨permits, idle_le, sameHeld ▸ held, ?_⟩
  intro n
  have before := once n
  simp only [noted, count_sessions, count_shelved, sameHeld, sameLoose] at before ⊢
  exact before

theorem reorder {held : List Session} {claims : List Claim} {returns : List Return}
    (b : Balanced max (l, issued)) (sameHeld : l.held.Perm held)
    (sameClaims : l.claims.Perm claims) (sameReturns : l.returns.Perm returns) :
    Balanced max ({ l with held, claims, returns }, issued) := by
  obtain ⟨permits, idle_le, balanced, once⟩ := b
  constructor
  · simpa only [underWay, sameClaims.length_eq, sameReturns.length_eq] using permits
  · exact idle_le
  · exact balanced.trans (sameHeld.map _)
  · intro n
    have before := once n
    have holders : (numbers held).count n = (numbers l.held).count n :=
      (sameHeld.map _).symm.count_eq n
    have candidates : (numbers (claims.filterMap Claim.candidate)).count n =
        (numbers (l.claims.filterMap Claim.candidate)).count n :=
      ((sameClaims.filterMap _).map _).symm.count_eq n
    have comers : (numbers (returns.map Return.session)).count n =
        (numbers (l.returns.map Return.session)).count n :=
      ((sameReturns.map _).map _).symm.count_eq n
    simp only [noted, count_sessions, count_shelved, holders, candidates, comers] at before ⊢
    exact before

/-- Every move keeps the balance. -/
theorem move {x y : Lending × Nat} (b : Balanced max x) (moved : Move x y) : Balanced max y := by
  cases moved with
  | issue le => exact ⟨b.permits, b.idle_le, b.held, fun n =>
      ⟨(b.once n).1, (b.once n).2.1, fun later => (b.once n).2.2 (le.trans later)⟩⟩
  | reorder sameHeld sameClaims sameReturns => exact b.reorder sameHeld sameClaims sameReturns
  | scan => exact ⟨b.permits, b.idle_le, b.held, b.once⟩
  | recover => exact b.recover
  | grant free => exact b.grant free
  | giveUp => exact b.giveUp
  | lend le yields => exact b.lend le yields
  | takeBack same => exact b.takeBack (congrArg Prod.fst same)
  | shelve now => exact b.shelve now
  | drop => exact b.drop
  | detach => exact b.detach
  | forget => exact b.forget
  | sweep left => exact b.sweep left
  | use same => exact b.use same

end Balanced

end Lending

end SqlWire
