import SqlWire.Proofs.Framing.Reading
import SqlWire.Proofs.Result.Reading
import SqlWire.Proofs.Session.Use

/-! # Prepared answers, received

A session that waits for the answer to a statement takes the payloads of it one by one, and each
takes its reader a step further. `follow_reads` follows a session along a reader, as far as the
answer is left open; the last payload ends the request. So `follow_prepared` says what a session
makes of all that a stand-in sends for a prepared answer: it takes these payloads and no other.
-/

namespace SqlWire

open Standin Standin.Response

variable {ω : Type} [Network ω]

namespace Link

/-- A link on which payloads come in one after the other, and what becomes of it and of the
network. -/
inductive Receives : Link → ω → List Bytes → Link → ω → Prop where
  | none (l : Link) (w : ω) : Receives l w [] l w
  | more {l next last : Link} {w w' w'' : ω} {payload : Bytes} {payloads : List Bytes}
    (one : l.receive w = (.ok payload, next, w')) (others : Receives next w' payloads last w'') :
    Receives l w (payload :: payloads) last w''

/-- Payloads received in two parts. -/
theorem Receives.split {l last : Link} {w w' : ω} {front back : List Bytes}
    (received : l.Receives w (front ++ back) last w') :
    ∃ next w'', l.Receives w front next w'' ∧ next.Receives w'' back last w' := by
  induction front generalizing l w with
  | nil => exact ⟨l, w, .none l w, received⟩
  | cons payload rest ih =>
    cases received with
    | more one others =>
      obtain ⟨next, w'', first, later⟩ := ih others
      exact ⟨next, w'', .more one first, later⟩

/-- Payloads whose packets are on their way on a quiet link are received, in any pieces, if the
network keeps what a reader leaves. -/
theorem receives_of_holds {l : Link}
    (keeps : ∀ incoming now (w : ω),
      (Network.incoming l.line (Network.advance l.line incoming now w)).arrivals = incoming.arrivals)
    (payloads : List Bytes) (w : ω)
    (segments : ∀ a ∈ (Network.incoming l.line w).arrivals, a.IsSegment)
    (holds : l.channel.Holds (Arrival.all (Network.incoming l.line w).arrivals)
      (payloads.flatMap splitPayload)) :
    ∃ last w', l.Receives w payloads last w' := by
  induction payloads generalizing l w with
  | nil => exact ⟨l, w, .none l w⟩
  | cons payload rest ih =>
    obtain ⟨c, left, now, got, behind, _⟩ := Channel.read_holds segments holds (Network.now w)
    have later := Channel.read_suffix (Network.now w) l.channel (Network.incoming l.line w)
    rw [got] at later
    have pieces : ∀ a ∈ left, a.IsSegment := by
      intro a member
      exact segments a (later.subset member)
    have one : l.receive w = (.ok payload, { l with channel := c },
        Network.advance l.line ⟨left, (Network.incoming l.line w).ended⟩ now w) := by
      simp only [receive, got]
    obtain ⟨last, w', others⟩ := ih (l := { l with channel := c }) keeps
      (Network.advance l.line ⟨left, (Network.incoming l.line w).ended⟩ now w)
      (by rw [keeps]; exact pieces) (by rw [keeps]; exact behind)
    exact ⟨last, w', .more one others⟩

end Link

/-- What a request for an answer with these results gives, with an error at its end or none. -/
def Standin.Response.outcome (sets : List ResultSet) :
    Option ErrorReply → Except ClientError (List ResultSet)
  | none => .ok sets
  | some reply => .error (.ofReply reply)

namespace Session

/-- A payload that leaves the answer open takes a session one step further in it. -/
theorem follow_more {s : Session} {r next : AnswerReader} {payload : Bytes} {link : Link} {w w' : ω}
    (one : r.step payload = (next, .more)) (got : s.link.receive w = (.ok payload, link, w'))
    (turns : Nat) :
    follow (turns + 1) (s, .wait (.answer r)) w =
      follow turns ({ s with link, status := next.status }, .wait (.answer next)) w' := by
  simp only [follow, got, resume, take, one]

/-- Payloads that leave the answer open take a session as far in it as they take its reader. -/
theorem follow_reads {r last : AnswerReader} {payloads : List Bytes} (reads : r.Reads payloads last)
    {s : Session} (told : s.status = r.status) {link : Link} {w w' : ω}
    (received : s.link.Receives w payloads link w') (turns : Nat) :
    follow (payloads.length + turns) (s, .wait (.answer r)) w =
      follow turns ({ s with link, status := last.status }, .wait (.answer last)) w' := by
  induction reads generalizing s w with
  | none r =>
    cases received
    rw [List.length_nil, Nat.zero_add, ← told]
  | more one _ ih =>
    cases received with
    | more got received =>
      rw [List.length_cons, Nat.add_right_comm, follow_more one got, ih rfl received]

/-- The last payload of an answer ends the request. -/
theorem follow_conclusion {s : Session} {r last : AnswerReader} {payload : Bytes} {link : Link}
    {w w' : ω} {failure : Option ErrorReply} (one : r.step payload = (last, conclusion failure))
    (got : s.link.receive w = (.ok payload, link, w')) (turns : Nat) :
    follow (turns + 1) (s, .wait (.answer r)) w = (outcome last.results failure,
      ({ s with link, status := last.status }.settled).withBudget none, w') := by
  cases failure with
  | none =>
    simp only [follow, got, resume, take, one, conclusion, follow_finished]
    rfl
  | some reply =>
    simp only [follow, got, resume, take, one, conclusion, fail, follow_finished]
    rfl

/-- A session that receives the payloads of a prepared answer takes all of them and no other one. It
gives a result for each part of the answer, or the error at its end, and knows the status that the
last result told. -/
theorem follow_prepared (response : Response) (results : List Response)
    (failure : Option ErrorReply) (parts : response.parts = withFailure results failure)
    (nonempty : withFailure results failure ≠ []) (readable : ∀ r ∈ results, r.IsResult)
    (stated : ∀ reply ∈ failure, (Utf8.encode reply.state).length = 5) (sql : String)
    {server : Status} (last : server.contains .moreResults = false) {s : Session} {link : Link}
    {w w' : ω} (received : s.link.Receives w (response.payloads sql server).1 link w') {turns : Nat}
    (enough : (response.payloads sql server).1.length ≤ turns) :
    (response.payloads sql server).2 = true ∧ ∃ sets, List.Forall₂ Gives results sets ∧
      follow turns (s, .wait (.answer (.start s.status))) w = (outcome sets failure,
        ({ s with link, status := lastStatus server failure s.status results }.settled).withBudget
          none, w') := by
  obtain ⟨sets, gives, complete, before, final, next, whole, reads, ended⟩ :=
    concludes_parts nonempty readable stated sql last [] s.status
  rw [Response.payloads, parts] at received enough ⊢
  refine ⟨complete, sets, gives, ?_⟩
  rw [whole] at received enough
  obtain ⟨place, w'', first, rest⟩ := received.split
  cases rest with
  | more got none =>
    cases none
    obtain ⟨spare, rfl⟩ : ∃ spare, turns = before.length + (spare + 1) := by
      rw [List.length_append, List.length_singleton] at enough
      exact ⟨turns - before.length - 1, by omega⟩
    rw [AnswerReader.start, follow_reads reads rfl first, follow_conclusion ended got]
    rfl

/-- A session that has sent a statement in one packet. -/
def awaiting : Session :=
  { fresh "8.0.36" with state := .querying, link := ⟨0, .start ⟨1, true⟩⟩ }

/-- Two results to one statement, the second of which is a table. -/
def twoResults : Response := .multiple [.ok 3 0, .scalar (.int 5)]

theorem follow_prepared_twoResults :
    ∃ sets link w', List.Forall₂ Gives [.ok 3 0, .scalar (.int 5)] sets ∧
      follow patience (awaiting, .wait (.answer (.start awaiting.status)))
          (Scripted.ofAnswers [(twoResults.payloads "" .autocommit).1]) =
        (.ok sets, { awaiting with link, state := .connected }, w') := by
  have segments : ∀ a ∈ (Scripted.ofAnswers [(twoResults.payloads "" .autocommit).1]).arrivals,
      a.IsSegment := by
    intro a member
    rw [List.mem_singleton.mp member]
    exact ⟨_, _, rfl⟩
  have held : awaiting.link.channel.Holds
      (Arrival.all (Scripted.ofAnswers [(twoResults.payloads "" .autocommit).1]).arrivals)
      ((twoResults.payloads "" .autocommit).1.flatMap splitPayload) :=
    ⟨⟨rfl, rfl, fun _ => rfl, rfl, rfl, rfl⟩, rfl, by decide +kernel⟩
  obtain ⟨link, w', received⟩ := Link.receives_of_holds (l := awaiting.link) (fun _ _ _ => rfl) _
    (Scripted.ofAnswers [(twoResults.payloads "" .autocommit).1]) segments held
  have single : IsReadable [valueColumn (.int 5)] [[.int 5]] := by
    refine ⟨by decide, by decide, by decide, ?_, ?_, ?_⟩
    · have five : Value.ofCell (valueColumn (.int 5)).definition (Scalar.int 5).cell =
          .ok (.int 5) := by decide +kernel
      simpa using ⟨_, five⟩
    · simp only [List.forall_mem_singleton, Storable]
      decide +kernel
    · simp only [List.forall_mem_singleton, Storable]
      decide +kernel
  have few : (twoResults.payloads "" .autocommit).1.length ≤ patience := by decide +kernel
  obtain ⟨_, sets, gives, followed⟩ := follow_prepared twoResults [.ok 3 0, .scalar (.int 5)] none
    rfl (List.cons_ne_nil _ _) (by simpa [IsResult] using single) (by simp) "" rfl received few
  exact ⟨sets, _, w', gives, followed⟩

end Session

end SqlWire
