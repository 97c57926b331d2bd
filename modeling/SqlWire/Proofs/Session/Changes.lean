import Mathlib.Logic.Relation
import SqlWire.Proofs.Session.Shared

/-! # What can become of the state of a session

Methods of the session, sending and reading by hand, closing, and handles all change one state.
`Change` has everything that they can do to it, together with what is noted of it. Whatever happens
to a session with handles is made of these changes (`Shared.reaches_step`), so that what each change
keeps is kept from then on, in whatever order things happen (`Shared.run_keeps`).
-/

namespace SqlWire

/-- The state of a session, and what has become of its commands, the latest first. -/
structure Course where
  state : SessionState
  log : List Deed

/-- A change of the state of a session, and what is noted of it. -/
inductive Change : Course → Course → Prop
  | began (log : List Deed) : Change ⟨.connected, log⟩ ⟨.querying, .began :: log⟩
  | ended {q : SessionState} (log : List Deed) (busy : q.isBusy = true) :
    Change ⟨q, log⟩ ⟨.connected, log⟩
  | failed {q : SessionState} (log : List Deed) (unclosed : q ≠ .closed) :
    Change ⟨q, log⟩ ⟨.failed, log⟩
  | closed (q : SessionState) (log : List Deed) : Change ⟨q, log⟩ ⟨.closed, log⟩
  | marked (i : Nat) (log : List Deed) : Change ⟨.querying, log⟩ ⟨.cancelling, .marked i :: log⟩
  | unmarked (i : Nat) (log : List Deed) :
    Change ⟨.cancelling, log⟩ ⟨.querying, .unmarked i :: log⟩
  | told (i : Nat) (log : List Deed) : Change ⟨.cancelling, log⟩ ⟨.cancelling, .told i :: log⟩

/-- Any number of changes. -/
abbrev Changes : Course → Course → Prop := Relation.ReflTransGen Change

/-- What every change keeps, any number of changes keeps. -/
theorem Changes.keeps {P : Course → Prop} (keep : ∀ c d, Change c d → P c → P d) {c d : Course}
    (changes : Changes c d) (start : P c) : P d := by
  induction changes with
  | refl => exact start
  | tail _ change ih => exact keep _ _ change ih

namespace Session

variable {ω : Type} [Network ω]

theorem changes_broken (s : Session) (log : List Deed) :
    Changes ⟨s.state, log⟩ ⟨s.broken.state, log⟩ := by
  unfold broken
  split
  · next closed => rw [beq_iff_eq.mp closed]
  · next unclosed => exact .single (.failed log (by simpa using unclosed))

theorem changes_settled (s : Session) (log : List Deed) :
    Changes ⟨s.state, log⟩ ⟨s.settled.state, log⟩ := by
  unfold settled
  split
  · next busy => exact .single (.ended log busy)
  · exact .refl

theorem changes_failed (s : Session) (pending : Pending) (cause : ClientError) (log : List Deed) :
    Changes ⟨s.state, log⟩ ⟨(s.failed pending cause).state, log⟩ := by
  unfold failed
  split
  · exact s.changes_broken log
  · split
    · exact s.changes_broken log
    · exact s.changes_settled log

/-- A session with a log, and the session with a turn that it comes to. -/
def Moves (log : List Deed) (s : Session) (next : Session × Turn) : Prop :=
  Changes ⟨s.state, log⟩ ⟨next.1.state, next.2.note log⟩

theorem moves_fail (s : Session) (pending : Pending) (cause : ClientError) (log : List Deed) :
    Moves log s (s.fail pending cause) :=
  s.changes_failed pending cause log

theorem moves_command (s : Session) (payload : Bytes) (pending : Pending) (log : List Deed) :
    Moves log s (s.command payload pending) := by
  unfold command
  split
  · next idle =>
    unfold Moves
    rw [idle]
    exact .single (.began log)
  · exact s.moves_fail pending .connectionClosed log

theorem moves_begin (s : Session) (r : Request) (log : List Deed) : Moves log s (s.begin r) := by
  cases r with
  | reset =>
    simp only [begin]
    split <;> exact moves_command ..
  | _ => exact moves_command ..

theorem moves_afterReset (s : Session) (log : List Deed) : Moves log s s.afterReset := by
  unfold afterReset
  split
  · exact .refl
  · exact .refl
  · exact moves_command { s with databaseOverride := none } ..

theorem moves_afterReply (s : Session) (pending : Pending) (payload : Bytes) (log : List Deed)
    {next : Session → Session × Turn} (onward : ∀ t, Moves log t (next t)) :
    Moves log s (s.afterReply pending payload next) := by
  unfold afterReply
  split
  · exact s.moves_fail ..
  · next reply _ =>
    exact .trans (changes_settled { s with status := reply.status } log) (onward _)

theorem moves_take (s : Session) (payload : Bytes) (pending : Pending) (log : List Deed) :
    Moves log s (s.take payload pending) := by
  cases pending with
  | pong | selected database | restored =>
    apply moves_afterReply
    intro t
    exact .refl
  | cleared =>
    apply moves_afterReply
    intro t
    exact t.moves_afterReset log
  | verdict challenge =>
    simp only [take]
    split
    · exact s.moves_fail ..
    · next reply _ => exact changes_settled { s with status := reply.status } log
    · exact .refl
    · exact .refl
  | answer reader =>
    simp only [take]
    generalize reader.step payload = taken
    obtain ⟨reader, step⟩ := taken
    cases step with
    | more | decline => exact .refl
    | complete => exact changes_settled { s with status := reader.status } log
    | failed cause => exact moves_fail { s with status := reader.status } ..

theorem moves_resume (s : Session) (pending : Pending) (told : Except ChannelError Bytes)
    (log : List Deed) : Moves log s (s.resume pending told) := by
  cases told with
  | ok payload => exact s.moves_take payload pending log
  | error cause => exact s.moves_fail ..

/-- Whatever the network does, the next turn of a call only changes the state so. -/
theorem moves_turn (s : Session) (turn : Turn) (w : ω) (log : List Deed) :
    Moves log s (Session.turn (s, turn) w).1 := by
  cases turn with
  | finished outcome => exact .refl
  | command payload pending =>
    simp only [Session.turn]
    split
    · exact .refl
    · next cause link w _ => exact moves_resume { s with link } ..
  | reply payload pending =>
    simp only [Session.turn]
    split
    · exact .refl
    · next cause link w _ => exact moves_resume { s with link } ..
  | wait pending => exact moves_resume { s with link := (s.link.receive w).2.1 } ..

theorem changes_afterCall {α : Type} (s : Session) (result : Except ChannelError α)
    (log : List Deed) : Changes ⟨s.state, log⟩ ⟨(s.afterCall result).2.state, log⟩ := by
  unfold afterCall
  split
  · exact .refl
  · split
    · exact s.changes_broken log
    · exact .refl

theorem changes_startByHand (s : Session) (log : List Deed) :
    Changes ⟨s.state, log⟩
      ⟨s.startByHand.2.state, if s.isConnected then .began :: log else log⟩ := by
  by_cases idle : s.state = .connected
  · simp only [startByHand, isConnected, idle]
    exact .single (.began log)
  · have held : s.isConnected = false := by simpa [isConnected] using idle
    rw [held]
    unfold startByHand
    split
    · contradiction
    · exact s.changes_broken log
    · exact s.changes_broken log
    · exact .refl

theorem changes_send (s : Session) (payload : Bytes) (w : ω) (log : List Deed) :
    Changes ⟨s.state, log⟩
      ⟨(s.send payload w).2.1.state, if s.isConnected then .began :: log else log⟩ := by
  have started := s.changes_startByHand log
  unfold send
  split
  · next cause t refused =>
    rw [refused] at started
    exact started
  · next t begun =>
    rw [begun] at started
    exact started.trans (changes_afterCall { t with link := (t.link.command payload w).2.1 } ..)

theorem changes_receive (s : Session) (w : ω) (log : List Deed) :
    Changes ⟨s.state, log⟩ ⟨(s.receive w).2.1.state, log⟩ :=
  changes_afterCall { s with link := (s.link.receive w).2.1 } ..

theorem state_dispose (s : Session) (w : ω) : (s.dispose w).2.1.state = .closed := by
  unfold dispose
  split <;> rfl

end Session

namespace CancelHandle

theorem changes_start (h : CancelHandle) (i : Nat) (s : Session) (log : List Deed) :
    Changes ⟨s.state, log⟩
      ⟨(h.start s).2.state, if (h.start s).1 then .marked i :: log else log⟩ := by
  unfold start
  split
  · next marks =>
    simp only [Bool.and_eq_true, beq_iff_eq] at marks
    rw [marks.2]
    exact .single (.marked i log)
  · exact .refl

theorem changes_abort (h : CancelHandle) (i : Nat) (s : Session) (log : List Deed) :
    Changes ⟨s.state, log⟩
      ⟨(h.abort s).state, if h.isCancelling s then .unmarked i :: log else log⟩ := by
  unfold abort isCancelling
  split
  · next marked =>
    simp only [Bool.and_eq_true, beq_iff_eq] at marked
    rw [marked.2]
    exact .single (.unmarked i log)
  · exact .refl

theorem changes_tell (h : CancelHandle) (i : Nat) (s : Session) (log : List Deed) :
    Changes ⟨s.state, log⟩ ⟨s.state, if h.isCancelling s then .told i :: log else log⟩ := by
  split
  · next marked =>
    rw [(isCancelling_iff.mp marked).2]
    exact .single (.told i log)
  · exact .refl

end CancelHandle

namespace Shared

variable {ω : Type}

def course (x : Shared ω) : Course := ⟨x.session.state, x.log⟩

theorem course_goOn (x : Shared ω) (found : SessionState) (scene : Session × Turn) (w : ω) :
    (x.goOn found scene w).course = ⟨scene.1.state, scene.2.note x.log⟩ := by
  obtain ⟨s, turn⟩ := scene
  cases turn <;> rfl

/-- Whether the state of a session comes about from what it was by changes. -/
def Reaches (x y : Shared ω) : Prop := Changes x.course y.course

variable [Network ω]

/-- Whatever happens to a session with handles, its state only changes so. -/
theorem reaches_step (x : Shared ω) (a : Act) : x.Reaches (x.step a) := by
  have same : x.Reaches x := .refl
  cases a with
  | begin c =>
    apply whenFree_keeps same
    intro _
    split
    · rw [Reaches, course_goOn]
      exact x.session.moves_begin ..
    · exact same
  | proceed =>
    apply onErrand_keeps same
    intro e _
    rw [Reaches, course_goOn]
    exact x.session.moves_turn ..
  | abandon link reached =>
    apply onErrand_keeps same
    intro e _
    exact .refl
  | send payload cut =>
    apply whenFree_keeps same
    intro _
    cases cut with
    | none => exact x.session.changes_send ..
    | some link => exact x.session.changes_startByHand _
  | receive cut =>
    apply whenFree_keeps same
    intro _
    cases cut with
    | none => exact x.session.changes_receive ..
    | some link => exact .refl
  | settle =>
    apply whenFree_keeps same
    intro _
    exact x.session.changes_settled _
  | revoke =>
    apply whenFree_keeps same
    intro _
    exact .refl
  | dispose cut =>
    apply whenFree_keeps same
    intro _
    cases cut with
    | none =>
      simp only [Reaches, course, Session.cutShort, Session.state_dispose]
      exact .single (.closed ..)
    | some link => exact .single (.closed ..)
  | take =>
    apply whenFree_keeps same
    intro _
    exact .refl
  | start i =>
    apply through_keeps same
    intro h _
    exact h.changes_start i x.session x.log
  | abort i =>
    apply through_keeps same
    intro h _
    exact h.changes_abort i x.session x.log
  | dial i =>
    apply through_keeps same
    intro h _
    split
    · split <;> exact .refl
    · exact .refl
  | tell killer =>
    simp only [step]
    split
    · exact .refl
    · next k _ =>
      apply through_keeps same
      intro h _
      exact h.changes_tell k.handle x.session x.log

/-- What every change keeps is kept whatever happens. -/
theorem run_keeps {P : Course → Prop} (keep : ∀ c d, Change c d → P c → P d) (acts : List Act)
    {x : Shared ω} (start : P x.course) : P (run acts x).course :=
  run_induction (fun x a held => Changes.keeps keep (x.reaches_step a) held) acts start

end Shared

end SqlWire
