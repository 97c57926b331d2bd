import SqlWire.Proofs.Session.Changes

/-! # Marks and leases

A handle counts under the lease under which it was taken. Leases only grow, so that a handle of
another lease than the session's is void for good: it changes nothing, opens no connection and tells
the server nothing, whatever was begun through it before.

A command bears at most one mark. Over the deeds since the command in flight has begun, the marks
that were made and those that were taken back balance while it is not marked, and there is one more
of the first while it is. `Shared.run_marks` has both.
-/

namespace SqlWire

namespace Deed

/-- How often the last command that has begun was marked. -/
def marks : List Deed → Nat
  | [] | .began :: _ => 0
  | .marked _ :: log => marks log + 1
  | _ :: log => marks log

/-- How often a mark of the last command that has begun was taken back. -/
def unmarks : List Deed → Nat
  | [] | .began :: _ => 0
  | .unmarked _ :: log => unmarks log + 1
  | _ :: log => unmarks log

end Deed

/-- Whether the marks of the command in flight balance. -/
structure EvenMarks (c : Course) : Prop where
  querying : c.state = .querying → Deed.marks c.log = Deed.unmarks c.log
  cancelling : c.state = .cancelling → Deed.marks c.log = Deed.unmarks c.log + 1

theorem EvenMarks.change (c d : Course) (change : Change c d) (balanced : EvenMarks c) :
    EvenMarks d := by
  cases change with
  | began log => exact ⟨fun _ => rfl, nofun⟩
  | ended | failed | closed => exact ⟨nofun, nofun⟩
  | marked i log =>
    have before := balanced.querying rfl
    exact ⟨nofun, fun _ => congrArg (· + 1) before⟩
  | unmarked i log =>
    have before := balanced.cancelling rfl
    exact ⟨fun _ => before, nofun⟩
  | told i log =>
    have before := balanced.cancelling rfl
    exact ⟨nofun, fun _ => before⟩

namespace CancelHandle

/-- Whether a handle does nothing to a session: it marks nothing, takes nothing back, and neither
opens a connection nor tells the server. -/
structure IsPowerless (h : CancelHandle) (s : Session) : Prop where
  start : h.start s = (false, s)
  abort : h.abort s = s
  perform {ω : Type} [Network ω] (w : ω) : h.perform s w = (.ok (), w)
  cancel {ω : Type} [Network ω] (w : ω) : h.cancel s w = (false, s, w)

theorem isCancelling_of_lease_ne {h : CancelHandle} {s : Session} (void : h.lease ≠ s.lease) :
    h.isCancelling s = false := by
  simp [isCancelling, void.symm]

theorem isPowerless_of_lease_ne {h : CancelHandle} {s : Session} (void : h.lease ≠ s.lease) :
    h.IsPowerless s where
  start := by simp [start, void.symm]
  abort := by simp [abort, void.symm]
  perform w := by simp [perform, isCancelling_of_lease_ne void]
  cancel w := (cancel_of_lease_ne void).2.2 w

end CancelHandle

namespace Shared

/-- What holds of a session with handles later on. -/
structure Later {ω : Type} (x y : Shared ω) : Prop where
  session : x.session.Continues y.session
  kept {i : Nat} {h : CancelHandle} (taken : x.handles[i]? = some h) : y.handles[i]? = some h
  /-- A handle that was taken meanwhile was not taken under a lease that is still to come. -/
  issued {h : CancelHandle} (taken : h ∈ y.handles) : h ∈ x.handles ∨ h.lease ≤ y.session.lease

variable {ω : Type}

theorem Later.refl (x : Shared ω) : x.Later x := ⟨.refl _, id, .inl⟩

theorem Later.trans {x y z : Shared ω} (first : x.Later y) (second : y.Later z) : x.Later z where
  session := first.session.trans second.session
  kept taken := second.kept (first.kept taken)
  issued taken := by
    obtain earlier | late := second.issued taken
    · exact (first.issued earlier).imp_right fun late => late.trans second.session.lease
    · exact .inr late

/-- The session is still the one that it was, and no handle was taken. -/
theorem Later.of_session {x y : Shared ω} (session : x.session.Continues y.session)
    (handles : y.handles = x.handles) : x.Later y where
  session := session
  kept taken := handles ▸ taken
  issued taken := .inl (handles ▸ taken)

theorem identity_goOn (x : Shared ω) (found : SessionState) (scene : Session × Turn) (w : ω) :
    (x.goOn found scene w).session.identity = scene.1.identity := by
  obtain ⟨s, turn⟩ := scene
  cases turn <;> rfl

variable [Network ω]

/-- Whatever happens, the session stays the one that it is, and handles stay taken. -/
theorem later_step (x : Shared ω) (a : Act) : x.Later (x.step a) := by
  have same := Later.refl x
  cases a with
  | begin c =>
    apply whenFree_keeps same
    intro _
    split
    · next r _ =>
      refine .of_session (.of_identity ?_) rfl
      rw [identity_goOn, Session.identity_begin]
    · exact same
  | proceed =>
    apply onErrand_keeps same
    intro e _
    refine .of_session (.of_identity ?_) rfl
    rw [identity_goOn, Session.identity_turn]
  | abandon link reached =>
    apply onErrand_keeps same
    intro e _
    exact .of_session (.of_identity rfl) rfl
  | send payload cut =>
    apply whenFree_keeps same
    intro _
    refine .of_session (.of_identity ?_) rfl
    cases cut with
    | none => exact Session.identity_send ..
    | some link => exact Session.identity_startByHand _
  | receive cut =>
    apply whenFree_keeps same
    intro _
    refine .of_session (.of_identity ?_) rfl
    cases cut with
    | none => exact Session.identity_receive ..
    | some link => rfl
  | settle =>
    apply whenFree_keeps same
    intro _
    exact .of_session (.of_identity rfl) rfl
  | revoke =>
    apply whenFree_keeps same
    intro _
    exact .of_session ⟨rfl, rfl, Nat.le_succ _⟩ rfl
  | dispose cut =>
    apply whenFree_keeps same
    intro _
    refine .of_session (.of_identity ?_) rfl
    cases cut with
    | none => exact Session.identity_dispose ..
    | some link => rfl
  | take =>
    apply whenFree_keeps same
    intro _
    refine ⟨.refl _, ?_, ?_⟩
    · intro i h taken
      obtain ⟨bound, _⟩ := List.getElem?_eq_some_iff.mp taken
      rw [List.getElem?_append_left bound, taken]
    · intro h taken
      obtain earlier | rfl := by simpa using taken
      · exact .inl earlier
      · exact .inr (Nat.le_refl _)
  | start i =>
    apply through_keeps same
    intro h _
    exact .of_session (.of_identity (h.identity_start _)) rfl
  | abort i =>
    apply through_keeps same
    intro h _
    exact .of_session (.of_identity (h.identity_abort _)) rfl
  | dial i =>
    apply through_keeps same
    intro h _
    split
    · split <;> exact .of_session (.refl _) rfl
    · exact same
  | tell killer =>
    simp only [step]
    split
    · exact same
    · apply through_keeps same
      intro h _
      exact .of_session (.refl _) rfl

theorem later_run (x : Shared ω) (acts : List Act) : x.Later (run acts x) :=
  run_induction (fun y a later => later.trans (y.later_step a)) acts (.refl x)

/-- A handle of another lease than the session's is void for good. -/
theorem lease_ne_run {s : Session} {w : ω} {before after : List Act} {i : Nat} {h : CancelHandle}
    (taken : (run before (ofSession s w)).handles[i]? = some h)
    (void : h.lease ≠ (run before (ofSession s w)).session.lease) :
    h.lease ≠ (run after (run before (ofSession s w))).session.lease := by
  obtain never | issued := (later_run (ofSession s w) before).issued (List.mem_of_getElem? taken)
  · cases never
  · have grown := (later_run (run before (ofSession s w)) after).session.lease
    omega

/-- Whether nothing that happens through a handle has any effect on the session or on the network:
it marks nothing, takes nothing back and opens no connection, and the server is not told through it
on one that was opened before. -/
structure IsVoid (x : Shared ω) (i : Nat) : Prop where
  start : x.step (.start i) = x
  abort : x.step (.abort i) = x
  dial : x.step (.dial i) = x
  tell {k : Nat} {killer : Killer} (opened : x.killers[k]? = some killer)
    (through : killer.handle = i) :
    (x.step (.tell k)).session = x.session ∧ (x.step (.tell k)).log = x.log

theorem isVoid_of_lease_ne {x : Shared ω} {i : Nat} {h : CancelHandle}
    (taken : x.handles[i]? = some h) (void : h.lease ≠ x.session.lease) : x.IsVoid i := by
  have powerless := CancelHandle.isPowerless_of_lease_ne void
  have unmarked := CancelHandle.isCancelling_of_lease_ne void
  refine ⟨?start, ?abort, ?dial, ?tell⟩
  case start => simp [step, through, taken, powerless.start]
  case abort => simp [step, through, taken, powerless.abort, unmarked]
  case dial => simp [step, through, taken, unmarked]
  case tell =>
    rintro k killer opened rfl
    simp [step, through, opened, taken, unmarked]

/-- Whatever happens: a handle of another lease than the session's is powerless from then on, and the
marks of a command in flight are as many as were taken back, or one more while it is marked. -/
theorem run_marks (s : Session) (unmarked : s.state ≠ .cancelling) (w : ω)
    (before after : List Act) :
    let x := run before (ofSession s w)
    (∀ i h, x.handles[i]? = some h → h.lease ≠ x.session.lease →
      h.IsPowerless (run after x).session ∧ (run after x).IsVoid i) ∧
    (x.session.state = .querying → Deed.marks x.log = Deed.unmarks x.log) ∧
    (x.session.state = .cancelling → Deed.marks x.log = Deed.unmarks x.log + 1) := by
  intro x
  have start : EvenMarks (ofSession s w).course :=
    ⟨fun _ => rfl, fun marked => (unmarked marked).elim⟩
  have balanced : EvenMarks x.course := run_keeps EvenMarks.change before start
  refine ⟨?_, balanced.querying, balanced.cancelling⟩
  intro i h taken void
  have still : h.lease ≠ (run after x).session.lease := lease_ne_run taken void
  have kept := (later_run x after).kept taken
  exact ⟨CancelHandle.isPowerless_of_lease_ne still, isVoid_of_lease_ne kept still⟩

/-- A mark is taken back, the handles become void, and another handle marks the next command: the
first one is powerless, and the one mark of the command stands. -/
theorem run_marks_revoked :
    (Session.fresh "8.0.36").state ≠ .cancelling ∧
      let select := Command.encodeQuery "SELECT 1"
      let x := run [.take, .send select none, .start 0, .abort 0, .settle, .revoke, .take,
          .send select none, .start 1]
        (ofSession (Session.fresh "8.0.36") (Session.Scripted.ofAnswers []))
      x.IsVoid 0 ∧ x.session.state = .cancelling ∧ Deed.marks x.log = Deed.unmarks x.log + 1 := by
  have connected : (Session.fresh "8.0.36").state ≠ .cancelling := by decide
  refine ⟨connected, ?_⟩
  intro select x
  obtain ⟨powerless, _, balanced⟩ := run_marks (Session.fresh "8.0.36") connected
    (Session.Scripted.ofAnswers [])
    [.take, .send select none, .start 0, .abort 0, .settle, .revoke, .take, .send select none,
      .start 1] []
  have marked : x.session.state = .cancelling := by decide +kernel
  have taken : x.handles[0]? = some (.ofSession (Session.fresh "8.0.36")) := by decide +kernel
  have void : (CancelHandle.ofSession (Session.fresh "8.0.36")).lease ≠ x.session.lease := by
    decide +kernel
  have still := (powerless 0 _ taken void).2
  rw [run_nil] at still
  exact ⟨still, marked, balanced marked⟩

end Shared

end SqlWire
