import SqlWire.Proofs.Session.Calls
import SqlWire.Session.Cancel

/-! # What its holder does with a session

Whoever has a session runs commands on it, gives them up before the answer has come, sends and
receives by hand, and closes it. `Use` has all of this. Whatever the network does, the session stays
the one that it is: it keeps its number and the generation that it was opened for, and handles that
were void stay void (`continues_run`).

A request that succeeds leaves a session connected (`state_ask`), and a reset that succeeds also
leaves no other database selected than the configured one (`databaseOverride_reset`).

A command is followed turn by turn. `follow_pursue` says that to follow a command is to follow some
of its turns and then the rest, so that what one turn keeps (`frame_turn`) is kept to the end,
and wherever the command is given up.
-/

namespace SqlWire

namespace Session

variable {ω : Type} [Network ω]

/-- What no command changes of a session: all but its state, its status, the challenge that it
remembers, the database that was selected and its link. -/
structure Frame where
  id : Nat
  config : Config
  host : String
  serverVersion : ServerVersion
  connectionId : UInt32
  capabilities : Capabilities
  generation : Nat
  createdAt : Duration
  returnedAt : Duration
  lease : Nat

def frame (s : Session) : Frame where
  id := s.id
  config := s.config
  host := s.host
  serverVersion := s.serverVersion
  connectionId := s.connectionId
  capabilities := s.capabilities
  generation := s.generation
  createdAt := s.createdAt
  returnedAt := s.returnedAt
  lease := s.lease

theorem serverVersion_of_frame {s t : Session} (same : s.frame = t.frame) :
    s.serverVersion = t.serverVersion :=
  congrArg Frame.serverVersion same

@[simp] theorem frame_withBudget (s : Session) (budget : Option Duration) :
    (s.withBudget budget).frame = s.frame := rfl

theorem frame_failed (s : Session) (pending : Pending) (cause : ClientError) :
    (s.failed pending cause).frame = s.frame := by
  unfold failed
  split
  · rfl
  · split <;> rfl

theorem frame_fail (s : Session) (pending : Pending) (cause : ClientError) :
    (s.fail pending cause).1.frame = s.frame :=
  frame_failed s pending cause

theorem frame_command (s : Session) (payload : Bytes) (pending : Pending) :
    (s.command payload pending).1.frame = s.frame := by
  unfold command
  split
  · rfl
  · exact frame_fail s pending .connectionClosed

theorem frame_begin (s : Session) (r : Request) : (s.begin r).1.frame = s.frame := by
  cases r with
  | reset =>
    simp only [begin]
    split <;> exact frame_command ..
  | _ => exact frame_command ..

theorem frame_afterReset (s : Session) : s.afterReset.1.frame = s.frame := by
  unfold afterReset
  split
  · rfl
  · rfl
  · exact frame_command ..

theorem frame_afterReply (s : Session) (pending : Pending) (payload : Bytes)
    {next : Session → Session × Turn} (keeps : ∀ t, (next t).1.frame = t.frame) :
    (s.afterReply pending payload next).1.frame = s.frame := by
  unfold afterReply
  split
  · exact frame_fail ..
  · exact keeps _

theorem frame_take (s : Session) (payload : Bytes) (pending : Pending) :
    (s.take payload pending).1.frame = s.frame := by
  cases pending with
  | pong | selected database | restored =>
    apply frame_afterReply
    intro t
    rfl
  | cleared => exact frame_afterReply s _ payload frame_afterReset
  | verdict challenge =>
    simp only [take]
    split
    · exact frame_fail ..
    · rfl
    · rfl
    · rfl
  | answer reader =>
    simp only [take]
    generalize reader.step payload = taken
    obtain ⟨reader, step⟩ := taken
    cases step with
    | failed cause => exact frame_failed ..
    | _ => rfl

theorem frame_resume (s : Session) (pending : Pending) (told : Except ChannelError Bytes) :
    (s.resume pending told).1.frame = s.frame := by
  cases told with
  | ok payload => exact frame_take ..
  | error cause => exact frame_fail ..

def turn : Session × Turn → ω → (Session × Turn) × ω
  | (s, .finished outcome), w => ((s, .finished outcome), w)
  | (s, .command payload pending), w =>
    match (s.link.withBudget s.config.commandTimeout.nonZero?).command payload w with
    | (.ok (), link, w) => (({ s with link }, .wait pending), w)
    | (.error cause, link, w) => ({ s with link }.resume pending (.error cause), w)
  | (s, .reply payload pending), w =>
    match s.link.send payload w with
    | (.ok (), link, w) => (({ s with link }, .wait pending), w)
    | (.error cause, link, w) => ({ s with link }.resume pending (.error cause), w)
  | (s, .wait pending), w =>
    match s.link.receive w with
    | (result, link, w) => ({ s with link }.resume pending result, w)

/-- Some of the next turns of a session. -/
def pursue : Nat → Session × Turn → ω → (Session × Turn) × ω
  | 0, x, w => (x, w)
  | turns + 1, x, w => pursue turns (turn x w).1 (turn x w).2

theorem follow_finished (turns : Nat) (s : Session) (outcome : Except ClientError (List ResultSet))
    (w : ω) : follow turns (s, .finished outcome) w = (outcome, s.withBudget none, w) := by
  cases turns <;> rfl

/-- To follow a session is to follow it for some turns and then for the rest. -/
theorem follow_pursue (first rest : Nat) (x : Session × Turn) (w : ω) :
    follow (first + rest) x w = follow rest (pursue first x w).1 (pursue first x w).2 := by
  induction first generalizing x w with
  | zero => rw [Nat.zero_add, pursue]
  | succ first ih =>
    rw [pursue, ← ih, Nat.add_right_comm]
    obtain ⟨s, turn⟩ := x
    cases turn with
    | finished outcome => rw [Session.turn, follow_finished, follow_finished]
    | command payload pending =>
      simp only [follow, Session.turn]
      obtain ⟨_ | _, _, _⟩ :=
        (s.link.withBudget s.config.commandTimeout.nonZero?).command payload w <;> rfl
    | reply payload pending =>
      simp only [follow, Session.turn]
      obtain ⟨_ | _, _, _⟩ := s.link.send payload w <;> rfl
    | wait pending => rfl

theorem frame_turn (x : Session × Turn) (w : ω) : (turn x w).1.1.frame = x.1.frame := by
  obtain ⟨s, turn⟩ := x
  cases turn with
  | finished outcome => rfl
  | command payload pending =>
    simp only [Session.turn]
    split
    · rfl
    · exact frame_resume ..
  | reply payload pending =>
    simp only [Session.turn]
    split
    · rfl
    · exact frame_resume ..
  | wait pending => exact frame_resume { s with link := (s.link.receive w).2.1 } ..

theorem frame_pursue (turns : Nat) (x : Session × Turn) (w : ω) :
    (pursue turns x w).1.1.frame = x.1.frame := by
  induction turns generalizing x w with
  | zero => rfl
  | succ turns ih => rw [pursue, ih, frame_turn]

/-- Following a session no further changes nothing of the network. -/
theorem network_follow_zero (x : Session × Turn) (w : ω) : (follow 0 x w).2.2 = w := by
  obtain ⟨s, turn⟩ := x
  cases turn <;> rfl

theorem network_follow (turns : Nat) (x : Session × Turn) (w : ω) :
    (follow turns x w).2.2 = (pursue turns x w).2 := by
  rw [← Nat.add_zero turns, follow_pursue, network_follow_zero, Nat.add_zero]

theorem frame_follow_zero (x : Session × Turn) (w : ω) :
    (follow 0 x w).2.1.frame = x.1.frame := by
  obtain ⟨s, turn⟩ := x
  cases turn with
  | finished outcome => rfl
  | _ =>
    simp only [follow, frame_withBudget]
    exact frame_failed ..

theorem frame_follow (turns : Nat) (x : Session × Turn) (w : ω) :
    (follow turns x w).2.1.frame = x.1.frame := by
  rw [← Nat.add_zero turns, follow_pursue, frame_follow_zero, frame_pursue]

theorem frame_ask (s : Session) (r : Request) (w : ω) :
    (s.ask r w).2.1.frame = s.frame := by
  rw [ask, frame_follow, frame_begin]

theorem Call.frame_run (c : Call) (s : Session) (w : ω) : (c.run s w).2.1.frame = s.frame := by
  cases asked : c.request s with
  | error cause => rw [run_error asked]
  | ok r => rw [(run_ok asked w).1, frame_ask]

/-- What tells one session from another: the number, the generation and the lease. -/
def identity (s : Session) : Nat × Nat × Nat := (s.id, s.generation, s.lease)

theorem identity_eq_iff {s t : Session} : s.identity = t.identity ↔
    s.id = t.id ∧ s.generation = t.generation ∧ s.lease = t.lease := by
  simp only [identity, Prod.mk.injEq]

@[simp] theorem identity_link (s : Session) (link : Link) :
    { s with link }.identity = s.identity := rfl

theorem identity_of_frame {s t : Session} (same : s.frame = t.frame) : s.identity = t.identity :=
  congrArg (fun frame => (frame.id, frame.generation, frame.lease)) same

theorem identity_begin (s : Session) (r : Request) : (s.begin r).1.identity = s.identity :=
  identity_of_frame (frame_begin s r)

theorem identity_turn (x : Session × Turn) (w : ω) : (turn x w).1.1.identity = x.1.identity :=
  identity_of_frame (frame_turn x w)

theorem identity_pursue (turns : Nat) (x : Session × Turn) (w : ω) :
    (pursue turns x w).1.1.identity = x.1.identity :=
  identity_of_frame (frame_pursue turns x w)

theorem identity_ping (s : Session) (w : ω) : (s.ping w).2.1.identity = s.identity :=
  identity_of_frame (frame_ask s .ping w)

theorem identity_reset (s : Session) (w : ω) : (s.reset w).2.1.identity = s.identity :=
  identity_of_frame (frame_ask s .reset w)

theorem Call.identity_run (c : Call) (s : Session) (w : ω) :
    (c.run s w).2.1.identity = s.identity :=
  identity_of_frame (c.frame_run s w)

theorem identity_afterCall {α : Type} (s : Session) (result : Except ChannelError α) :
    (s.afterCall result).2.identity = s.identity := by
  unfold afterCall
  split
  · rfl
  · split <;> rfl

theorem identity_startByHand (s : Session) : s.startByHand.2.identity = s.identity := by
  unfold startByHand
  split <;> rfl

theorem identity_send (s : Session) (payload : Bytes) (w : ω) :
    (s.send payload w).2.1.identity = s.identity := by
  have started := identity_startByHand s
  unfold send
  split
  · next cause t refused =>
    rw [refused] at started
    exact started
  · next t begun =>
    rw [begun] at started
    exact (identity_afterCall ..).trans started

theorem identity_receive (s : Session) (w : ω) : (s.receive w).2.1.identity = s.identity :=
  identity_afterCall { s with link := (s.link.receive w).2.1 } _

theorem identity_dispose (s : Session) (w : ω) : (s.dispose w).2.1.identity = s.identity := by
  unfold dispose
  split <;> rfl

/-- A session that waits has sent what it waits for, and one that has succeeded is connected. -/
def Answered : Session × Turn → Prop
  | (s, .command _ _) | (s, .reply _ _) | (s, .wait _) => s.state = .querying
  | (s, .finished outcome) => outcome.isOk = true → s.state = .connected

theorem answered_fail (s : Session) (pending : Pending) (cause : ClientError) :
    Answered (s.fail pending cause) := nofun

theorem answered_command (s : Session) (payload : Bytes) (pending : Pending) :
    Answered (s.command payload pending) := by
  unfold command
  split
  · rfl
  · exact answered_fail _ _ _

theorem answered_begin (s : Session) (r : Request) : Answered (s.begin r) := by
  cases r with
  | reset =>
    simp only [begin]
    split <;> exact answered_command ..
  | _ => exact answered_command ..

theorem answered_afterReply {s : Session} {next : Session → Session × Turn}
    (busy : s.state = .querying) (pending : Pending) (payload : Bytes)
    (onward : ∀ t : Session, t.state = .connected → Answered (next t)) :
    Answered (s.afterReply pending payload next) := by
  unfold afterReply
  split
  · exact answered_fail _ _ _
  · exact onward _ (state_settled busy)

theorem answered_take {s : Session} (busy : s.state = .querying) (pending : Pending)
    (payload : Bytes) : Answered (s.take payload pending) := by
  cases pending with
  | pong | restored =>
    apply answered_afterReply busy
    intro t connected _
    exact connected
  | selected database =>
    simp only [take]
    apply answered_afterReply busy
    intro t connected _
    exact connected
  | cleared =>
    apply answered_afterReply busy
    intro t connected
    unfold afterReset
    split
    · exact fun _ => connected
    · exact fun _ => connected
    · exact answered_command ..
  | verdict challenge =>
    simp only [take]
    split
    · exact answered_fail _ _ _
    · exact fun _ => state_settled busy
    · exact busy
    · exact busy
  | answer reader =>
    simp only [take]
    generalize reader.step payload = taken
    obtain ⟨reader, step⟩ := taken
    cases step with
    | failed cause => exact answered_fail _ _ _
    | complete => exact fun _ => state_settled busy
    | _ => exact busy

theorem isOk_askUnit (s : Session) (r : Request) (w : ω) :
    (s.askUnit r w).1.isOk = (s.ask r w).1.isOk := by
  simp only [askUnit]
  cases (s.ask r w).1 <;> rfl

/-- A request that succeeds leaves the session connected. -/
theorem state_ask {s : Session} {r : Request} {w : ω} (succeeded : (s.ask r w).1.isOk = true) :
    (s.ask r w).2.1.state = .connected := by
  refine follow_invariant (P := fun _ => Answered) ?sent ?replied ?told ?lost ?late ?closing
    patience (s.begin r) w [] (answered_begin s r) succeeded
  case sent =>
    intro _ _ _ _ _ busy
    exact busy
  case replied =>
    intro _ _ _ _ _ busy
    exact busy
  case told =>
    intro _ s _ _ link busy
    exact answered_take (s := { s with link }) busy _ _
  case lost =>
    intro _ _ _ _ _ _
    exact answered_fail _ _ _
  case late =>
    intro _ _ _ _ _
    exact answered_fail _ _ _
  case closing =>
    intro _ _ _ answered
    exact answered

/-- What a session waits for while it is reset, and what that says of the selected database. -/
def Clearing : Session × Turn → Prop
  | (s, .command _ pending) | (s, .reply _ pending) | (s, .wait pending) =>
    pending = .cleared ∨ (∃ challenge, pending = .verdict challenge) ∨
      pending = .restored ∧ s.databaseOverride = none
  | (s, .finished outcome) => outcome.isOk = true → s.databaseOverride = none

theorem clearing_fail (s : Session) (pending : Pending) (cause : ClientError) :
    Clearing (s.fail pending cause) := nofun

theorem clearing_command {s : Session} {pending : Pending}
    (awaited : pending = .cleared ∨ (∃ challenge, pending = .verdict challenge) ∨
      pending = .restored ∧ s.databaseOverride = none) (payload : Bytes) :
    Clearing (s.command payload pending) := by
  unfold command
  split
  · exact awaited
  · exact clearing_fail _ _ _

theorem clearing_take {s : Session} {pending : Pending} (clearing : Clearing (s, .wait pending))
    (payload : Bytes) : Clearing (s.take payload pending) := by
  obtain rfl | ⟨challenge, rfl⟩ | ⟨rfl, none⟩ := clearing
  · simp only [take, afterReply]
    split
    · exact clearing_fail _ _ _
    · unfold afterReset
      split
      · next unset => exact fun _ => unset
      · exact fun _ => rfl
      · exact clearing_command (.inr (.inr ⟨rfl, rfl⟩)) _
  · simp only [take]
    split
    · exact clearing_fail _ _ _
    · exact fun _ => rfl
    · exact .inr (.inl ⟨_, rfl⟩)
    · exact .inr (.inl ⟨_, rfl⟩)
  · simp only [take, afterReply]
    split
    · exact clearing_fail _ _ _
    · exact fun _ => none

/-- A reset that succeeds leaves no other database selected than the configured one. -/
theorem databaseOverride_reset {s : Session} {w : ω} (succeeded : (s.reset w).1.isOk = true) :
    (s.reset w).2.1.databaseOverride = none := by
  rw [reset, isOk_askUnit] at succeeded
  refine follow_invariant (P := fun _ => Clearing) ?sent ?replied ?told ?lost ?late ?closing
    patience (s.begin .reset) w [] ?start succeeded
  case sent =>
    intro _ _ _ _ _ clearing
    exact clearing
  case replied =>
    intro _ _ _ _ _ clearing
    exact clearing
  case told =>
    intro _ s _ _ link clearing
    exact clearing_take (s := { s with link }) clearing _
  case lost =>
    intro _ _ _ _ _ _
    exact clearing_fail _ _ _
  case late =>
    intro _ _ _ _ _
    exact clearing_fail _ _ _
  case closing =>
    intro _ _ _ clearing
    exact clearing
  case start =>
    simp only [begin]
    split
    · exact clearing_command (.inl rfl) _
    · exact clearing_command (.inr (.inl ⟨_, rfl⟩)) _

theorem state_ping {s : Session} {w : ω} (answered : (s.ping w).1 = true) :
    (s.ping w).2.1.state = .connected :=
  state_ask answered

theorem state_reset {s : Session} {w : ω} (succeeded : (s.reset w).1.isOk = true) :
    (s.reset w).2.1.state = .connected := by
  rw [reset, isOk_askUnit] at succeeded
  exact state_ask succeeded

/-- What the holder of a session does with it. -/
inductive Use where
  | call (c : Call)
  /-- A request that is given up after some turns, with whatever the link is then. -/
  | abandon (r : Request) (turns : Nat) (link : Link)
  | send (payload : Bytes)
  | receive
  /-- Takes the answer to what was sent by hand for finished. -/
  | settle
  /-- Makes the handles to cancel commands void. -/
  | revoke
  | dispose

def Use.run (s : Session) (w : ω) : Use → Session × ω
  | call c => (c.run s w).2
  | abandon r turns link =>
    ({ (pursue turns (s.begin r) w).1.1 with link }, (pursue turns (s.begin r) w).2)
  | send payload => (s.send payload w).2
  | receive => (s.receive w).2
  | settle => (s.settled, w)
  | revoke => (s.withoutHandles, w)
  | dispose => (s.dispose w).2

/-- Whether a session is another one at a later moment. -/
structure Continues (s t : Session) : Prop where
  id : t.id = s.id
  generation : t.generation = s.generation
  lease : s.lease ≤ t.lease

theorem Continues.refl (s : Session) : s.Continues s := ⟨rfl, rfl, Nat.le_refl _⟩

theorem Continues.trans {s t u : Session} (first : s.Continues t) (second : t.Continues u) :
    s.Continues u where
  id := second.id.trans first.id
  generation := second.generation.trans first.generation
  lease := first.lease.trans second.lease

theorem Continues.of_identity {s t : Session} (same : t.identity = s.identity) :
    s.Continues t where
  id := congrArg Prod.fst same
  generation := congrArg (Prod.fst ∘ Prod.snd) same
  lease := Nat.le_of_eq (congrArg (Prod.snd ∘ Prod.snd) same).symm

/-- A session stays the one that it is, whatever is done with it. -/
theorem continues_run (u : Use) (s : Session) (w : ω) : s.Continues (u.run s w).1 := by
  cases u with
  | call c => exact Continues.of_identity (c.identity_run s w)
  | abandon r turns link =>
    apply Continues.of_identity
    rw [Use.run, identity_link, identity_pursue, identity_begin]
  | send payload => exact Continues.of_identity (identity_send s payload w)
  | receive => exact Continues.of_identity (identity_receive s w)
  | settle => exact Continues.of_identity rfl
  | revoke => exact ⟨rfl, rfl, Nat.le_succ _⟩
  | dispose => exact Continues.of_identity (identity_dispose s w)

end Session

namespace CancelHandle

variable {ω : Type} [Network ω]

/-- A handle that was taken under another lease does nothing to a session. -/
theorem cancel_of_lease_ne {h : CancelHandle} {s : Session} (void : h.lease ≠ s.lease) :
    h.start s = (false, s) ∧ h.abort s = s ∧ ∀ w : ω, h.cancel s w = (false, s, w) := by
  have other : (s.lease == h.lease) = false := by simpa using void.symm
  have idle : h.start s = (false, s) := by simp [start, other]
  refine ⟨idle, by simp [abort, other], fun w => ?_⟩
  rw [cancel, idle]

theorem identity_start (h : CancelHandle) (s : Session) :
    (h.start s).2.identity = s.identity := by
  unfold start
  split <;> rfl

theorem identity_abort (h : CancelHandle) (s : Session) : (h.abort s).identity = s.identity := by
  unfold abort
  split <;> rfl

theorem identity_cancel (h : CancelHandle) (s : Session) (w : ω) :
    (h.cancel s w).2.1.identity = s.identity := by
  have started := identity_start h s
  unfold cancel
  split
  · next t idle =>
    rw [idle] at started
    exact started
  · next t marked =>
    rw [marked] at started
    split
    · exact started
    · exact (identity_abort ..).trans started

end CancelHandle

end SqlWire
