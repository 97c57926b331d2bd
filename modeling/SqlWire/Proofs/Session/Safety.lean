import SqlWire.Proofs.Session.Changes

/-! # A session that is lost stays lost

Whatever its holder, the handles and the network do, in whatever order, and wherever calls are given
up: a session that is closed stays closed, and one that has failed can only be closed. Nothing is
written for a command but by a call, or by sending by hand, that has found the session connected. A
command that is asked for while another one waits for its reply writes nothing and breaks the
session (`Shared.run_safe`).

The parameters of a statement are bound before its command is begun. A method whose parameters
cannot be bound gives that error and leaves the session as it is, busy or not
(`Session.executeWith_unbound`).
-/

namespace SqlWire

/-- A network that keeps what has been written on it: the lines and the bytes, the latest first. -/
structure Recorded (ω : Type) where
  world : ω
  written : List (Nat × Bytes)

instance {ω : Type} [Network ω] : Network (Recorded ω) where
  now w := Network.now w.world
  wait time w := { w with world := Network.wait time w.world }
  freshId w :=
    let (id, world) := Network.freshId w.world
    (id, { w with world })
  shuffle hosts w :=
    let (hosts, world) := Network.shuffle hosts w.world
    (hosts, { w with world })
  dial host port deadline w :=
    let (dialled, world) := Network.dial host port deadline w.world
    (dialled, { w with world })
  write line bytes w :=
    let (result, world) := Network.write line bytes w.world
    (result, ⟨world, (line, bytes) :: w.written⟩)
  incoming line w := Network.incoming line w.world
  advance line incoming now w := { w with world := Network.advance line incoming now w.world }
  hangUp line w := { w with world := Network.hangUp line w.world }

namespace Session

variable {ω : Type} [Network ω]

theorem ne_connected_of_isBusy {s : Session} (busy : s.state.isBusy = true) :
    s.state ≠ .connected := by
  rintro connected
  simp [connected, SessionState.isBusy] at busy

/-- A request on a session that is not connected ends at once. -/
theorem ask_refused {s : Session} (busy : s.state ≠ .connected) (r : Request) (w : ω) :
    s.ask r w = (.error .connectionClosed, s.broken.withBudget none, w) := by
  rw [ask, begin_refused busy, follow_finished]

theorem startByHand_refused {s : Session} (idle : s.state ≠ .connected) :
    s.startByHand = (.error .connectionClosed, s.startByHand.2) := by
  unfold startByHand
  split
  · contradiction
  · rfl
  · rfl
  · rfl

/-- A session that is not connected sends nothing by hand. -/
theorem send_refused {s : Session} (idle : s.state ≠ .connected) (payload : Bytes) (w : ω) :
    s.send payload w = (.error .connectionClosed, s.startByHand.2, w) := by
  unfold send
  rw [startByHand_refused idle]

/-- A statement gives the error that ends its request. -/
theorem runPayload_of_ask_error {α : Type} {take : List ResultSet → Except ClientError α}
    {s t : Session} {payload : Bytes} {w v : ω} {cause : ClientError}
    (failed : s.ask (.statement payload) w = (.error cause, t, v)) :
    reported (s.runPayload (.ok payload) take w) = (some cause, t, v) := by
  simp [runPayload, failed, reported, failure?, Except.bind]

/-- A method other than a ping gives the error that ends its request. -/
theorem Call.run_of_ask_error {c : Call} {s t : Session} {r : Request} {w v : ω}
    {cause : ClientError} (asked : c.request s = .ok r) (other : c ≠ .ping)
    (failed : s.ask r w = (.error cause, t, v)) : c.run s w = (some cause, t, v) := by
  cases c with
  | ping => contradiction
  | executeWith sql ps | queryWith sql ps =>
    obtain ⟨payload, made, rfl⟩ := exists_of_map_bind asked
    simp only [run, Session.executeWith, Session.queryWith, made]
    exact runPayload_of_ask_error failed
  | execute sql | query sql | queryMultiple sql =>
    cases asked
    exact runPayload_of_ask_error failed
  | changeDatabase database | reset =>
    cases asked
    simp [run, Session.changeDatabase, Session.reset, askUnit, failed, reported, failure?,
      Except.map]

/-- How a session refuses commands: it is broken by each that comes to it, and nothing is written. A
method whose statement cannot be made does not come to it. -/
structure Refuses (s : Session) (w : ω) : Prop where
  state_broken : s.broken.state = .failed
  send (payload : Bytes) : s.send payload w = (.error .connectionClosed, s.broken, w)
  ping : s.ping w = (false, s.broken.withBudget none, w)
  call {c : Call} {r : Request} (asked : c.request s = .ok r) (other : c ≠ .ping) :
    c.run s w = (some .connectionClosed, s.broken.withBudget none, w)
  unmade {c : Call} {cause : ClientError} (failed : c.request s = .error cause) :
    c.run s w = (some cause, s, w)

/-- A session of which a command waits for its reply refuses others. -/
theorem refuses_of_isBusy {s : Session} (busy : s.state.isBusy = true) (w : ω) : s.Refuses w where
  state_broken := by cases state : s.state <;> simp_all [SessionState.isBusy, broken]
  send payload := by
    rw [send_refused (ne_connected_of_isBusy busy)]
    cases state : s.state <;> simp_all [SessionState.isBusy, startByHand]
  ping := by
    rw [Session.ping, ask_refused (ne_connected_of_isBusy busy)]
    rfl
  call asked other :=
    Call.run_of_ask_error asked other (ask_refused (ne_connected_of_isBusy busy) _ w)
  unmade failed := Call.run_unmade failed w

end Session

namespace Shared

/-- What a change makes of a session that is closed. -/
theorem closed_of_change (c d : Course) (change : Change c d) (closed : c.state = .closed) :
    d.state = .closed := by
  cases change with
  | closed => rfl
  | ended _ busy =>
    simp only at closed
    rw [closed] at busy
    cases busy
  | failed _ unclosed => exact (unclosed closed).elim
  | _ => cases closed

/-- What a change makes of a session that has failed. -/
theorem failed_or_closed_of_change (c d : Course) (change : Change c d)
    (lost : c.state = .failed ∨ c.state = .closed) : d.state = .failed ∨ d.state = .closed := by
  cases change with
  | closed => exact .inr rfl
  | failed => exact .inl rfl
  | ended _ busy => rcases lost with rfl | rfl <;> cases busy
  | _ => rcases lost with lost | lost <;> cases lost

variable {ω : Type}

/-- Whether the call that is under way has found the session connected. -/
def Begun (x : Shared ω) : Prop := ∀ e, x.errand = some e → e.found = .connected

theorem begun_of_none {x : Shared ω} (free : x.errand = none) : x.Begun := by
  intro e under
  rw [free] at under
  cases under

theorem begun_goOn {x : Shared ω} {found : SessionState} (connected : found = .connected)
    (scene : Session × Turn) (w : ω) : (x.goOn found scene w).Begun := by
  obtain ⟨s, turn⟩ := scene
  rintro e under
  cases turn with
  | finished outcome => cases under
  | _ =>
    cases under
    exact connected

variable [Network ω]

/-- A call is only under way if it has found the session connected. -/
theorem Begun.step {x : Shared ω} (begun : x.Begun) (a : Act) : (x.step a).Begun := by
  cases a with
  | begin c =>
    apply whenFree_keeps begun
    intro _
    split
    · next r _ =>
      by_cases idle : x.session.state = .connected
      · exact begun_goOn idle _ _
      · rw [Session.begin_refused idle]
        exact begun_of_none rfl
    · exact begun
  | proceed =>
    apply onErrand_keeps begun
    intro e under
    exact begun_goOn (begun e under) _ _
  | abandon link reached =>
    apply onErrand_keeps begun
    intro e _
    exact begun_of_none rfl
  | start i | abort i =>
    apply through_keeps begun
    intro h _
    exact begun
  | dial i =>
    apply through_keeps begun
    intro h _
    split
    · split <;> exact begun
    · exact begun
  | tell killer =>
    simp only [Shared.step]
    split
    · exact begun
    · apply through_keeps begun
      intro h _
      exact begun
  | _ =>
    apply whenFree_keeps begun
    intro _
    exact begun

/-- Whether what happens may write: for a call or a sending by hand that has found the session
connected, to close the session, or on a connection of a handle. -/
def Act.MayWrite (x : Shared ω) : Act → Prop
  | .proceed | .abandon _ _ => ∃ e, x.errand = some e ∧ e.found = .connected
  | .send _ _ => x.session.state = .connected
  | .dispose _ => True
  | .dial handle => ∃ h, x.handles[handle]? = some h ∧ h.isCancelling x.session = true
  | .tell killer => killer < x.killers.length
  | _ => False

/-- Whether nothing was written meanwhile. -/
def Silent (x y : Shared (Recorded ω)) : Prop := y.world.written = x.world.written

/-- Nothing else writes. -/
theorem silent_step {x : Shared (Recorded ω)} (begun : x.Begun) {a : Act} (not : ¬ a.MayWrite x) :
    x.Silent (x.step a) := by
  have same : x.Silent x := rfl
  cases a with
  | begin c =>
    apply whenFree_keeps same
    intro _
    split <;> exact same
  | proceed | abandon link reached =>
    apply onErrand_keeps same
    intro e under
    exact (not ⟨e, under, begun e under⟩).elim
  | send payload cut =>
    apply whenFree_keeps same
    intro _
    simp only [Silent, Session.send_refused not]
  | dispose cut => exact (not trivial).elim
  | start i | abort i =>
    apply through_keeps same
    intro h _
    exact same
  | dial i =>
    apply through_keeps same
    intro h taken
    split
    · next marked => exact (not ⟨h, taken, marked⟩).elim
    · exact same
  | tell killer =>
    have absent : x.killers[killer]? = none := List.getElem?_eq_none (Nat.le_of_not_lt not)
    simp only [step, absent]
    exact same
  | _ =>
    apply whenFree_keeps same
    intro _
    exact same

/-- Whatever happens: a closed session stays closed, one that has failed fails or is closed, only
commands that have found the session connected write, and a command that is asked for while another
one waits for its reply writes nothing and breaks the session. -/
theorem run_safe (s : Session) (w : Recorded ω) (before after : List Act) :
    let x := run before (ofSession s w)
    (x.session.state = .closed → (run after x).session.state = .closed) ∧
    (x.session.state = .failed →
      (run after x).session.state = .failed ∨ (run after x).session.state = .closed) ∧
    (∀ a, (x.step a).world.written ≠ x.world.written → a.MayWrite x) ∧
    (x.errand = none → x.session.state.isBusy = true →
      x.session.Refuses x.world ∧
      (∀ c r, c.request x.session = .ok r →
        x.step (.begin c) = { x with session := x.session.broken.withBudget none }) ∧
      ∀ payload, x.step (.send payload none) = { x with session := x.session.broken }) := by
  intro x
  have begun : x.Begun := run_induction (fun _ a begun => begun.step a) before (begun_of_none rfl)
  refine ⟨run_keeps closed_of_change after, ?_, ?_, ?_⟩
  · intro failed
    exact run_keeps failed_or_closed_of_change after (.inl failed)
  · intro a writes
    by_contra not
    exact writes (silent_step begun not)
  · intro free busy
    have refuses := Session.refuses_of_isBusy busy x.world
    refine ⟨refuses, ?_, ?_⟩
    · intro c r asked
      simp only [step, whenFree_of_none free, asked,
        Session.begin_refused (Session.ne_connected_of_isBusy busy)]
      simp [goOn, free, Turn.note]
    · intro payload
      have idle : x.session.isConnected = false := by
        simpa [Session.isConnected] using Session.ne_connected_of_isBusy busy
      simp [step, whenFree_of_none free, refuses.send payload, idle, Session.cutShort]

end Shared

/-- While a statement waits for its reply, another one is asked for whose placeholder has no
parameter: that error is given, and the first statement still waits. -/
theorem Session.executeWith_unbound :
    let x := Shared.run [.send (Command.encodeQuery "SELECT 1") none]
      (.ofSession (Session.fresh "8.0.36") (Session.Scripted.ofAnswers []))
    x.session.state.isBusy = true ∧
      (x.session.executeWith "SELECT ?" [] x.world).1 =
        .error (.binding (.tooFewParameters 0)) ∧
      (x.session.executeWith "SELECT ?" [] x.world).2.1.state = .querying := by
  decide +kernel

end SqlWire
