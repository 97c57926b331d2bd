import SqlWire.Proofs.Session.Owed
import SqlWire.Session.Run

/-! # How a session stands to its exchanges

A session settles its state in one place, from the class of the error that has ended a command. This
module follows the exchanges of a command beside it and compares the two. `Standing` relates a
session between two turns to what the server still owes, one lemma for each turn preserves it, and
`follow_standing` carries it to the end of a request, whatever the network does.
-/

namespace SqlWire

namespace Session

variable {ω : Type} [Network ω]

/-- Exchanges, the latest first, after a payload has been read. -/
def hear (payload : Bytes) : List Exchange → List Exchange
  | [] => []
  | e :: log => e.heard payload :: log

/-- The exchanges of a request, the latest first, in front of earlier ones. The turns are those of
`follow`. -/
def transcript : Nat → Session × Turn → ω → List Exchange → List Exchange
  | _, (_, .finished _), _, log => log
  | 0, _, _, log => log
  | turns + 1, (s, .command payload pending), w, log =>
    match (s.link.withBudget s.config.commandTimeout.nonZero?).command payload w with
    | (.ok (), link, w) =>
      transcript turns ({ s with link }, .wait pending) w (⟨payload, []⟩ :: log)
    | (.error cause, link, w) =>
      transcript turns ({ s with link }.resume pending (.error cause)) w (⟨payload, []⟩ :: log)
  | turns + 1, (s, .reply payload pending), w, log =>
    match s.link.send payload w with
    | (.ok (), link, w) => transcript turns ({ s with link }, .wait pending) w log
    | (.error cause, link, w) =>
      transcript turns ({ s with link }.resume pending (.error cause)) w log
  | turns + 1, (s, .wait pending), w, log =>
    match s.link.receive w with
    | (.ok payload, link, w) =>
      transcript turns ({ s with link }.resume pending (.ok payload)) w (hear payload log)
    | (.error cause, link, w) =>
      transcript turns ({ s with link }.resume pending (.error cause)) w log

/-- A relation between sessions and exchanges that every turn preserves holds at the end of a
request. -/
theorem follow_invariant {P : List Exchange → Session × Turn → Prop}
    (sent : ∀ log s payload pending link, P log (s, .command payload pending) →
      P (⟨payload, []⟩ :: log) ({ s with link }, .wait pending))
    (replied : ∀ log s payload pending link, P log (s, .reply payload pending) →
      P log ({ s with link }, .wait pending))
    (told : ∀ log s pending payload link, P log (s, .wait pending) →
      P (hear payload log) ({ s with link }.resume pending (.ok payload)))
    (lost : ∀ log s pending cause link, P log (s, .wait pending) →
      P log ({ s with link }.resume pending (.error cause)))
    (late : ∀ log s payload pending,
      P log (s, .command payload pending) ∨ P log (s, .reply payload pending) →
      P log (s.resume pending (.error .timeout)))
    (closing : ∀ log s outcome, P log (s, .finished outcome) →
      P log (s.withBudget none, .finished outcome))
    (turns : Nat) (x : Session × Turn) (w : ω) (log : List Exchange) (start : P log x) :
    P (transcript turns x w log) ((follow turns x w).2.1, .finished (follow turns x w).1) := by
  induction turns generalizing x w log with
  | zero =>
    obtain ⟨s, turn⟩ := x
    cases turn with
    | finished outcome => exact closing _ _ _ start
    | command payload pending => exact closing _ _ _ (late _ _ _ _ (.inl start))
    | reply payload pending => exact closing _ _ _ (late _ _ _ _ (.inr start))
    | wait pending => exact closing _ _ _ (lost _ _ _ _ s.link start)
  | succ turns ih =>
    obtain ⟨s, turn⟩ := x
    cases turn with
    | finished outcome => exact closing _ _ _ start
    | command payload pending =>
      simp only [follow, transcript]
      obtain ⟨result, link, w⟩ :=
        (s.link.withBudget s.config.commandTimeout.nonZero?).command payload w
      have waiting := sent log s payload pending link start
      cases result with
      | ok => exact ih _ _ _ waiting
      | error cause => exact ih _ _ _ (lost _ { s with link } _ _ link waiting)
    | reply payload pending =>
      simp only [follow, transcript]
      obtain ⟨result, link, w⟩ := s.link.send payload w
      have waiting := replied log s payload pending link start
      cases result with
      | ok => exact ih _ _ _ waiting
      | error cause => exact ih _ _ _ (lost _ { s with link } _ _ link waiting)
    | wait pending =>
      simp only [follow, transcript]
      obtain ⟨result, link, w⟩ := s.link.receive w
      cases result with
      | ok payload => exact ih _ _ _ (told _ _ _ _ link start)
      | error cause => exact ih _ _ _ (lost _ _ _ _ link start)

/-- How a session stands to its exchanges. One that is about to send has read all that it was owed,
one that waits knows what it is owed, and one that has finished has failed or is owed what the
outcome says. -/
def Standing (log : List Exchange) : Session × Turn → Prop
  | (s, .command payload pending) =>
    s.state = .querying ∧ Settled log ∧ pending.owed = .ofCommand payload
  | (s, .reply _ pending) | (s, .wait pending) =>
    s.state = .querying ∧ ∃ e earlier, log = e :: earlier ∧ Settled earlier ∧
      e.owed? = some pending.owed
  | (s, .finished outcome) =>
    s.state = .failed ∨ s.state = .connected ∧ ∃ e earlier, log = e :: earlier ∧
      Settled earlier ∧ e.owed? = some (.ofOutcome s.status (fun _ => .nothing) outcome)

theorem state_broken {s : Session} (busy : s.state = .querying) : s.broken.state = .failed := by
  simp [broken, busy]

theorem state_settled {s : Session} (busy : s.state = .querying) :
    s.settled.state = .connected := by
  simp [settled, busy, SessionState.isBusy]

theorem failed_of_isConnection {s : Session} {pending : Pending} {cause : ClientError}
    (lost : cause.isConnection = true) : s.failed pending cause = s.broken := by
  cases pending <;> simp [failed, lost]

theorem isConnection_ofChannel (cause : ChannelError) :
    (ClientError.ofChannel cause).isConnection = true := by
  cases cause <;> rfl

/-- A failure that the connection does not survive breaks the session. -/
theorem standing_lost {s : Session} {pending : Pending} {cause : ClientError}
    {log : List Exchange} (busy : s.state = .querying) (lost : cause.isConnection = true) :
    Standing log (s.fail pending cause) := by
  left
  rw [failed_of_isConnection lost, state_broken busy]

/-- A failure that the connection survives leaves owed what its cause says. -/
theorem standing_fail {s : Session} {pending : Pending} {cause : ClientError} {e : Exchange}
    {earlier : List Exchange} (busy : s.state = .querying) (settled : Settled earlier)
    (owed : cause.isConnection = false → e.owed? = some (.afterFailure s.status cause)) :
    Standing (e :: earlier) (s.fail pending cause) := by
  cases usable : cause.isConnection with
  | true => exact standing_lost busy usable
  | false =>
    by_cases pong : pending = .pong
    · subst pong
      exact .inl (state_broken busy)
    · have same : s.failed pending cause = s.settled := by
        cases pending <;> simp_all [failed]
      right
      rw [same]
      exact ⟨state_settled busy, e, earlier, rfl, settled, owed usable⟩

theorem standing_finish {s : Session} {log : List Exchange} (idle : s.state = .connected)
    (some : log ≠ []) (settled : Settled log) : Standing log s.finish := by
  obtain ⟨e, earlier, rfl⟩ := List.exists_cons_of_ne_nil some
  exact .inr ⟨idle, e, earlier, rfl, (settled_cons_iff.mp settled).2, (settled_cons_iff.mp settled).1⟩

theorem standing_command {s : Session} {payload : Bytes} {pending : Pending}
    {log : List Exchange} (idle : s.state = .connected) (settled : Settled log)
    (owed : pending.owed = .ofCommand payload) : Standing log (s.command payload pending) := by
  simp only [command, idle]
  exact ⟨rfl, settled, owed⟩

/-- A single reply either fails or leaves a connected session that is owed nothing. -/
theorem standing_afterReply {s : Session} {pending : Pending} {e : Exchange}
    {earlier : List Exchange} {next : Session → Session × Turn} (payload : Bytes)
    (busy : s.state = .querying) (settled : Settled earlier)
    (owed : e.owed? = some pending.owed) (single : pending.owed = .reply)
    (onward : ∀ t : Session, t.state = .connected → Settled (e.heard payload :: earlier) →
      Standing (e.heard payload :: earlier) (next t)) :
    Standing (e.heard payload :: earlier) (s.afterReply pending payload next) := by
  rw [single] at owed
  unfold afterReply
  cases told : singleReply payload with
  | error cause =>
    apply standing_fail busy settled
    intro usable
    rw [Exchange.owed?_heard owed, after?_singleReply payload s.status (by simpa [told])]
    simp [told, Owed.ofOutcome]
  | ok reply =>
    refine onward _ (state_settled busy) (settled_cons_iff.mpr ⟨?_, settled⟩)
    rw [Exchange.IsComplete, Exchange.owed?_heard owed,
      after?_singleReply payload s.status (by simp [told])]
    simp [told, Owed.ofOutcome]

theorem standing_afterReset {s : Session} {log : List Exchange} (idle : s.state = .connected)
    (some : log ≠ []) (settled : Settled log) : Standing log s.afterReset := by
  unfold afterReset
  split
  · exact standing_finish idle some settled
  · exact standing_finish idle some settled
  · exact standing_command idle settled rfl

private theorem standing_takeVerdict {s : Session} {challenge : Challenge} {e : Exchange}
    {earlier : List Exchange} (busy : s.state = .querying) (settled : Settled earlier)
    (owed : e.owed? = some .login) (payload : Bytes) :
    Standing (e.heard payload :: earlier) (s.take payload (.verdict challenge)) := by
  have known := challenge.after?_verdict payload s.status
  rw [← Exchange.owed?_heard owed] at known
  simp only [take]
  cases told : challenge.verdict payload with
  | error cause =>
    simp only [told, Except.error.injEq, forall_eq', Owed.ofOutcome] at known
    exact standing_fail busy settled known
  | ok verdict =>
    simp only [told, reduceCtorEq, false_implies, implies_true, forall_const, Owed.ofOutcome]
      at known
    cases verdict with
    | accepted reply =>
      exact standing_finish (state_settled busy) (List.cons_ne_nil _ _)
        (settled_cons_iff.mpr ⟨known, settled⟩)
    | again challenge => exact ⟨busy, _, _, rfl, settled, known⟩
    | pending => exact ⟨busy, _, _, rfl, settled, known⟩

private theorem standing_takeAnswer {s : Session} {reader : AnswerReader} {e : Exchange}
    {earlier : List Exchange} (busy : s.state = .querying) (settled : Settled earlier)
    (owed : e.owed? = some reader.place.owed) (payload : Bytes) :
    Standing (e.heard payload :: earlier) (s.take payload (.answer reader)) := by
  have known := reader.after?_step payload
  rw [← Exchange.owed?_heard owed] at known
  simp only [take]
  generalize reader.step payload = taken at known ⊢
  obtain ⟨next, step⟩ := taken
  cases step with
  | more => exact ⟨busy, _, _, rfl, settled, known rfl⟩
  | decline => exact ⟨busy, _, _, rfl, settled, known rfl⟩
  | complete => exact .inr ⟨state_settled busy, _, _, rfl, settled, known rfl⟩
  | failed cause =>
    refine standing_fail busy settled ?_
    intro usable
    apply known
    simp [AnswerReader.Step.isUsable, usable]

/-- A payload that a session takes leaves it standing to its exchanges. -/
theorem standing_take {s : Session} {pending : Pending} {e : Exchange} {earlier : List Exchange}
    (busy : s.state = .querying) (settled : Settled earlier) (owed : e.owed? = some pending.owed)
    (payload : Bytes) : Standing (e.heard payload :: earlier) (s.take payload pending) := by
  cases pending with
  | pong | restored =>
    simp only [take]
    apply standing_afterReply payload busy settled owed rfl
    intro t idle all
    exact standing_finish idle (List.cons_ne_nil _ _) all
  | selected database =>
    simp only [take]
    apply standing_afterReply payload busy settled owed rfl
    intro t idle all
    exact standing_finish (s := { t with databaseOverride := database }) idle (List.cons_ne_nil _ _) all
  | cleared =>
    simp only [take]
    apply standing_afterReply payload busy settled owed rfl
    intro t idle all
    exact standing_afterReset idle (List.cons_ne_nil _ _) all
  | verdict challenge => exact standing_takeVerdict busy settled owed payload
  | answer reader => exact standing_takeAnswer busy settled owed payload

/-- The relation between a session and its exchanges holds at the end of a request. -/
theorem follow_standing (turns : Nat) (x : Session × Turn) (w : ω) (log : List Exchange)
    (standing : Standing log x) :
    Standing (transcript turns x w log) ((follow turns x w).2.1, .finished (follow turns x w).1) := by
  refine follow_invariant ?sent ?replied ?told ?lost ?late ?closing turns x w log standing
  case sent =>
    rintro log s payload pending link ⟨busy, settled, owed⟩
    exact ⟨busy, _, _, rfl, settled, by rw [Exchange.owed?_start, owed]⟩
  case replied =>
    intro _ _ _ _ _ standing
    exact standing
  case told =>
    rintro _ s pending payload link ⟨busy, e, earlier, rfl, settled, owed⟩
    exact standing_take (s := { s with link }) busy settled owed payload
  case lost =>
    rintro log s pending cause link ⟨busy, _⟩
    exact standing_lost (s := { s with link }) busy (isConnection_ofChannel cause)
  case late =>
    rintro log s payload pending (⟨busy, _⟩ | ⟨busy, _⟩) <;>
      exact standing_lost busy (isConnection_ofChannel .timeout)
  case closing =>
    intro _ _ _ standing
    exact standing

end Session

end SqlWire
