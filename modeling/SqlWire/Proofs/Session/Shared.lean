import SqlWire.Proofs.Session.Use

/-! # A session and the handles that cancel its commands

While a command of a session waits for its reply, others hold handles that can mark the command,
tell the server to stop it and take the mark back. `Shared` has all of them in one state, and
`Shared.Act` is what can happen next in it. Handles act at any moment; what its holder does with the
session waits until no call is under way. A call goes on turn by turn and can be given up in each.

Calls and cancels are those of the library. A call that is begun and gone on with until it has ended
does what `Session.Call.run` says (`run_call`), and the parts of a cancel, one after the other, are
`CancelHandle.perform` and `CancelHandle.cancel` (`run_perform`, `run_cancel`).

The log says what has become of the commands: which of them has begun, and what was done about it
through which handle. Only statements read it.
-/

namespace SqlWire

/-- What becomes of the commands of a session. -/
inductive Deed where
  | began
  | marked (handle : Nat)
  | unmarked (handle : Nat)
  /-- The server has been told through a handle. -/
  | told (handle : Nat)
deriving Repr, DecidableEq

/-- The log, the latest deed first, after a call has come to some turn. -/
def Turn.note (log : List Deed) : Turn → List Deed
  | .command _ _ => .began :: log
  | _ => log

/-- A call that is under way. -/
structure Errand where
  /-- The state in which the call has found the session. -/
  found : SessionState
  turn : Turn

/-- A connection that was opened to tell the server. -/
structure Killer where
  /-- The place of the handle through which the server is told. -/
  handle : Nat
  session : Session

/-- A session, the call that is under way on it, and all that was taken to cancel its commands. -/
structure Shared (ω : Type) where
  session : Session
  errand : Option Errand
  handles : List CancelHandle
  killers : List Killer
  /-- What has become of the commands, the latest first. -/
  log : List Deed
  world : ω

/-- A session after an operation, or after one that was given up when it had only begun, with
whatever the link was then. -/
def Session.cutShort (begun ended : Session) : Option Link → Session
  | none => ended
  | some link => { begun with link }

namespace CancelHandle

theorem isCancelling_iff {h : CancelHandle} {s : Session} :
    h.isCancelling s = true ↔ s.lease = h.lease ∧ s.state = .cancelling := by
  simp [isCancelling]

end CancelHandle

namespace Shared

/-- What can happen to a session with handles. Handles and the connections to tell the server are
given by their places. -/
inductive Act where
  /-- Begins a call. -/
  | begin (c : Session.Call)
  /-- Goes on with the call by one turn. -/
  | proceed
  /-- Gives the call up within a turn, with whatever the link is then and whether or not the network
  has seen the turn. -/
  | abandon (link : Link) (reached : Bool)
  /-- Sends by hand, possibly given up. -/
  | send (payload : Bytes) (cut : Option Link)
  /-- Reads by hand, possibly given up. -/
  | receive (cut : Option Link)
  /-- Takes the answer to what was sent by hand for finished. -/
  | settle
  /-- Makes the handles void. -/
  | revoke
  | dispose (cut : Option Link)
  /-- Takes another handle. -/
  | take
  | start (handle : Nat)
  | abort (handle : Nat)
  /-- Opens a connection on which the server can be told, if the command is marked. -/
  | dial (handle : Nat)
  /-- Tells the server on an open connection, if the command is still marked, and closes the
  connection. -/
  | tell (killer : Nat)

variable {ω : Type}

/-- A session of which no handle was taken yet. -/
def ofSession (s : Session) (w : ω) : Shared ω := ⟨s, none, [], [], [], w⟩

/-- Comes to a turn of a call. -/
def goOn (x : Shared ω) (found : SessionState) (scene : Session × Turn) (w : ω) : Shared ω :=
  { x with
    session := match scene.2 with
      | .finished _ => scene.1.withBudget none
      | _ => scene.1
    errand := match scene.2 with
      | .finished _ => none
      | turn => some ⟨found, turn⟩
    log := scene.2.note x.log
    world := w }

/-- Does what is done about the call that is under way. -/
def onErrand (x : Shared ω) (next : Errand → Shared ω) : Shared ω :=
  match x.errand with
  | none => x
  | some e => next e

/-- Does what is done while no call is under way. -/
def whenFree (x next : Shared ω) : Shared ω := if x.errand.isSome then x else next

/-- Does what is done through a handle. -/
def through (x : Shared ω) (handle : Nat) (next : CancelHandle → Shared ω) : Shared ω :=
  match x.handles[handle]? with
  | none => x
  | some h => next h

section Keeping

variable {x : Shared ω} {P : Shared ω → Prop}

theorem whenFree_of_none (free : x.errand = none) (next : Shared ω) : x.whenFree next = next := by
  simp [whenFree, free]

/-- Whatever is kept by what is done while no call is under way is kept in any case. -/
theorem whenFree_keeps (same : P x) {next : Shared ω}
    (kept : x.errand = none → P next) : P (x.whenFree next) := by
  unfold whenFree
  split
  · exact same
  · next free => exact kept (Option.not_isSome_iff_eq_none.mp free)

theorem onErrand_keeps (same : P x) {next : Errand → Shared ω}
    (kept : ∀ e, x.errand = some e → P (next e)) : P (x.onErrand next) := by
  unfold onErrand
  split
  · exact same
  · next e under => exact kept e under

theorem through_keeps (same : P x) {handle : Nat}
    {next : CancelHandle → Shared ω} (kept : ∀ h, x.handles[handle]? = some h → P (next h)) :
    P (x.through handle next) := by
  unfold through
  split
  · exact same
  · next h taken => exact kept h taken

end Keeping

/-- Whether a call has come to some turn. -/
structure Shows (x : Shared ω) (found : SessionState) (scene : Session × Turn) (w : ω) : Prop where
  session : x.session =
    match scene.2 with
    | .finished _ => scene.1.withBudget none
    | _ => scene.1
  errand : x.errand =
    match scene.2 with
    | .finished _ => none
    | turn => some ⟨found, turn⟩
  world : x.world = w

theorem shows_goOn (x : Shared ω) (found : SessionState) (scene : Session × Turn) (w : ω) :
    (x.goOn found scene w).Shows found scene w := ⟨rfl, rfl, rfl⟩

variable [Network ω]

def step (x : Shared ω) : Act → Shared ω
  | .begin c => x.whenFree <|
    match c.request x.session with
    | .ok r => x.goOn x.session.state (x.session.begin r) x.world
    | .error _ => x
  | .proceed => x.onErrand fun e =>
    let next := Session.turn (x.session, e.turn) x.world
    x.goOn e.found next.1 next.2
  | .abandon link reached => x.onErrand fun e =>
    { x with
      session := { x.session with link }
      errand := none
      world := if reached then (Session.turn (x.session, e.turn) x.world).2 else x.world }
  | .send payload cut => x.whenFree <|
    let sent := x.session.send payload x.world
    { x with
      session := x.session.startByHand.2.cutShort sent.2.1 cut
      log := if x.session.isConnected then .began :: x.log else x.log
      world := sent.2.2 }
  | .receive cut => x.whenFree <|
    let received := x.session.receive x.world
    { x with session := x.session.cutShort received.2.1 cut, world := received.2.2 }
  | .settle => x.whenFree { x with session := x.session.settled }
  | .revoke => x.whenFree { x with session := x.session.withoutHandles }
  | .dispose cut => x.whenFree <|
    let disposed := x.session.dispose x.world
    { x with session := x.session.closed.cutShort disposed.2.1 cut, world := disposed.2.2 }
  | .take => x.whenFree { x with handles := x.handles ++ [.ofSession x.session] }
  | .start handle => x.through handle fun h =>
    { x with
      session := (h.start x.session).2
      log := if (h.start x.session).1 then .marked handle :: x.log else x.log }
  | .abort handle => x.through handle fun h =>
    { x with
      session := h.abort x.session
      log := if h.isCancelling x.session then .unmarked handle :: x.log else x.log }
  | .dial handle => x.through handle fun h =>
    if h.isCancelling x.session then
      match Session.connectNew h.killerConfig 0 x.world with
      | (.error _, w) => { x with world := w }
      | (.ok killer, w) => { x with killers := x.killers ++ [⟨handle, killer⟩], world := w }
    else x
  | .tell killer =>
    match x.killers[killer]? with
    | none => x
    | some k => x.through k.handle fun h =>
      { x with
        killers := x.killers.eraseIdx killer
        log := if h.isCancelling x.session then .told k.handle :: x.log else x.log
        world := (h.tell x.session k.session x.world).2 }

def run (acts : List Act) (x : Shared ω) : Shared ω := acts.foldl step x

@[simp] theorem run_nil (x : Shared ω) : run [] x = x := rfl

@[simp] theorem run_cons (a : Act) (acts : List Act) (x : Shared ω) :
    run (a :: acts) x = run acts (x.step a) := rfl

/-- What every step keeps, a whole run keeps. -/
theorem run_induction {P : Shared ω → Prop} (keep : ∀ x a, P x → P (x.step a)) (acts : List Act)
    {x : Shared ω} (start : P x) : P (run acts x) := by
  induction acts generalizing x with
  | nil => exact start
  | cons a acts ih => exact ih (keep x a start)

/-- To go on with a call is to come to its next turn. -/
theorem Shows.proceed {x : Shared ω} {found : SessionState} {scene : Session × Turn} {w : ω}
    (shows : x.Shows found scene w) :
    (x.step .proceed).Shows found (Session.turn scene w).1 (Session.turn scene w).2 := by
  obtain ⟨s, turn⟩ := scene
  obtain ⟨session, errand, world⟩ := shows
  cases turn with
  | finished outcome =>
    simp only [step, onErrand, errand]
    exact ⟨session, errand, world⟩
  | _ =>
    simp only [step, onErrand, errand, session, world]
    exact shows_goOn ..

theorem Shows.pursue {found : SessionState} (turns : Nat) {x : Shared ω} {scene : Session × Turn}
    {w : ω} (shows : x.Shows found scene w) :
    (run (.replicate turns .proceed) x).Shows found
      (Session.pursue turns scene w).1 (Session.pursue turns scene w).2 := by
  induction turns generalizing x scene w with
  | zero => exact shows
  | succ turns ih => exact ih shows.proceed

/-- A call that has ended has left what the call leaves alone. -/
theorem Shows.follow {x : Shared ω} {found : SessionState} {scene : Session × Turn} {w : ω}
    (shows : x.Shows found scene w) (ended : x.errand = none) (turns : Nat) :
    (Session.follow turns scene w).2 = (x.session, x.world) := by
  obtain ⟨s, turn⟩ := scene
  obtain ⟨session, errand, world⟩ := shows
  cases turn with
  | finished outcome => rw [Session.follow_finished, session, world]
  | _ =>
    rw [ended] at errand
    cases errand

/-- A call that is begun and gone on with until it has ended does what it does alone. -/
theorem run_call {x : Shared ω} (free : x.errand = none) (c : Session.Call) {turns : Nat}
    (enough : turns ≤ patience)
    (ended : (run (.begin c :: .replicate turns .proceed) x).errand = none) :
    (c.run x.session x.world).2 =
      ((run (.begin c :: .replicate turns .proceed) x).session,
        (run (.begin c :: .replicate turns .proceed) x).world) := by
  rw [run_cons] at ended ⊢
  simp only [step, whenFree_of_none free] at ended ⊢
  cases asked : c.request x.session with
  | error cause =>
    simp only [asked] at ended ⊢
    have still : run (.replicate turns .proceed) x = x := by
      clear ended enough
      induction turns with
      | zero => rfl
      | succ turns ih => rw [List.replicate_succ, run_cons, step, onErrand, free, ih]
    rw [still, Session.Call.run_error asked]
  | ok r =>
    simp only [asked] at ended ⊢
    obtain ⟨rest, all⟩ := Nat.exists_eq_add_of_le enough
    rw [(Session.Call.run_ok asked x.world).1, Session.ask, all, Session.follow_pursue]
    exact ((shows_goOn ..).pursue turns).follow ended rest

/-- To open a connection through a handle and to tell the server on it at once is
`CancelHandle.perform`. -/
theorem run_perform {x : Shared ω} {i : Nat} {h : CancelHandle} (taken : x.handles[i]? = some h) :
    let y := run [.dial i, .tell x.killers.length] x
    y.session = x.session ∧ y.handles = x.handles ∧ y.world = (h.perform x.session x.world).2 := by
  cases marked : h.isCancelling x.session with
  | false => simp [step, through, taken, CancelHandle.perform, marked]
  | true =>
    simp only [run_cons, run_nil, step, through, taken, CancelHandle.perform, marked, if_true]
    obtain ⟨cause | killer, w⟩ := Session.connectNew h.killerConfig 0 x.world
    · simp
    · simp [taken]

/-- The parts of a cancel, one after the other: the command is marked, the server is told on a new
connection, and the mark is taken back if that fails. -/
theorem run_cancel {x : Shared ω} {i : Nat} {h : CancelHandle} (taken : x.handles[i]? = some h)
    (unmarked : (h.start x.session).1 = true) :
    (h.cancel x.session x.world).2 =
      let told := run [.start i, .dial i, .tell x.killers.length] x
      let y := if (h.cancel x.session x.world).1 then told else told.step (.abort i)
      (y.session, y.world) := by
  obtain ⟨s, marked⟩ : ∃ s, h.start x.session = (true, s) := ⟨_, Prod.ext unmarked rfl⟩
  have begun : x.step (.start i) = { x with session := s, log := .marked i :: x.log } := by
    simp [step, through, taken, marked]
  obtain ⟨session, handles, world⟩ := run_perform (x := x.step (.start i)) (by rwa [begun])
  have told : run [.start i, .dial i, .tell x.killers.length] x =
      run [.dial i, .tell (x.step (.start i)).killers.length] (x.step (.start i)) := by
    rw [run_cons, begun]
  simp only [told]
  generalize run _ (x.step (.start i)) = y at session handles world ⊢
  simp only [begun] at session handles world
  have still : y.handles[i]? = some h := by rw [handles, taken]
  simp only [CancelHandle.cancel, marked]
  generalize h.perform s x.world = performed at world ⊢
  obtain ⟨cause | ok, w⟩ := performed
  · simp [step, through, still, session, world]
  · simp [session, world]

end Shared

end SqlWire
