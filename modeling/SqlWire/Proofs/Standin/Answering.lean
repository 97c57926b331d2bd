import SqlWire.Proofs.Result.Reading
import SqlWire.Proofs.Standin.Exchange
import SqlWire.Session.Run

/-! # Statements that a stand-in answers

A stand-in answers a statement if what it replies is read to its end and comes in time
(`ServerConfig.Answers`). It answers each statement that it has a whole answer for, each one that is to
interrupt another connection, and each pause that is over before the client gives up.
-/

namespace SqlWire

open AnswerReader

/-- Whether a step ends an answer in a way that leaves the session as it is. -/
def AnswerReader.Step.IsLast : AnswerReader.Step → Prop
  | .complete => True
  | .failed cause => cause.isConnection = false
  | _ => False

namespace Standin

/-- Whether a prepared answer consists of results that a client can read, maybe with an error at their
end. -/
def Response.IsWhole (response : Response) : Prop :=
  ∃ results failure, response.parts = withFailure results failure ∧
    withFailure results failure ≠ [] ∧ (∀ result ∈ results, result.IsResult) ∧
    ∀ reply ∈ failure, (Utf8.encode reply.state).length = 5

theorem Response.isLast_conclusion (failure : Option ErrorReply) : (conclusion failure).IsLast := by
  cases failure with
  | none => trivial
  | some reply => rfl

theorem Response.IsResult.isWhole {response : Response} (result : response.IsResult) :
    response.IsWhole := by
  refine ⟨[response], none, ?_, List.cons_ne_nil _ _, by simpa using result, nofun⟩
  cases response with
  | multiple => exact result.elim
  | _ => rfl

theorem Response.isWhole_error {reply : ErrorReply}
    (stated : (Utf8.encode reply.state).length = 5) : (error reply).IsWhole :=
  ⟨[], some reply, rfl, List.cons_ne_nil _ _, nofun, by simpa using stated⟩

/-- A client reads a whole answer to its end. -/
theorem Response.IsWhole.concludes {response : Response} (whole : response.IsWhole) (sql : String)
    {server : Status} (last : server.contains .moreResults = false) :
    (response.payloads sql server).2 = true ∧ ∀ status, ∃ reader step, step.IsLast ∧
      Concludes (.start status) (response.payloads sql server).1 (reader, step) := by
  obtain ⟨results, failure, parts, nonempty, readable, stated⟩ := whole
  rw [Response.payloads, parts]
  have concludes := concludes_parts nonempty readable stated sql last []
  refine ⟨?_, fun status => ?_⟩
  · obtain ⟨_, _, complete, _⟩ := concludes ⟨0⟩
    exact complete
  · obtain ⟨_, _, _, ended⟩ := concludes status
    exact ⟨_, _, isLast_conclusion failure, ended⟩

/-- Whether the payload of a command gets an answer that a client reads to its end, in a time. -/
structure ServerConfig.Answers (server : ServerConfig) (limit : Option Duration) (payload : Bytes)
    (h : Handler) (pausing : List UInt32) : Prop where
  stays : (h.takeCommand server pausing payload).handler = h
  prompt : (h.takeCommand server pausing payload).IsPrompt limit
  short : (h.takeCommand server pausing payload).replies.length < patience
  whole : ∀ status, ∃ last step, step.IsLast ∧ Concludes (.start status)
    (h.takeCommand server pausing payload).replies (last, step)

section statements

variable {server : ServerConfig} {h : Handler} {pausing : List UInt32} {limit : Option Duration}
  {body : Bytes} {sql : List Char}

namespace ServerConfig

/-- A statement is answered if the payloads of a whole answer are sent for it. -/
theorem answers_of_answer (heard : trim (Utf8.decodeLossy body).toList = sql)
    (last : server.status.contains .moreResults = false) {response : Response}
    (whole : response.IsWhole) (text : String)
    (short : (response.payloads text server.status).1.length < patience) {r : Reaction}
    (answered : Handler.answer server h pausing sql = r) (stays : r.handler = h)
    (replies : r.replies = (response.payloads text server.status).1)
    (inTime : ∀ left ∈ limit, (r.pause.getD .zero).nanos < left.nanos) :
    server.Answers limit (Command.query.tag :: body) h pausing := by
  have taken : h.takeCommand server pausing (Command.query.tag :: body) =
      Handler.noting (.query (Utf8.decodeLossy body)) r := by
    rw [← answered, ← heard]
    rfl
  obtain ⟨_, concludes⟩ := whole.concludes text last
  rw [← replies] at short concludes
  obtain ⟨_, _, _, before, final, _, ended, _⟩ := concludes ⟨0⟩
  constructor <;> rw [taken]
  · exact stays
  · exact ⟨by simp [Handler.noting, ended], inTime⟩
  · exact short
  · exact concludes

/-- A stand-in answers a statement that it has a whole answer for. -/
theorem answers_prepared (heard : trim (Utf8.decodeLossy body).toList = sql)
    (last : server.status.contains .moreResults = false) (noKill : killTarget? sql = none)
    (noPause : sleepSeconds? sql = none) (whole : (server.responseTo (String.ofList sql)).IsWhole)
    (short : ((server.responseTo (String.ofList sql)).payloads (String.ofList sql)
      server.status).1.length < patience) (inTime : ∀ left ∈ limit, 0 < left.nanos) :
    server.Answers limit (Command.query.tag :: body) h pausing := by
  obtain ⟨complete, _⟩ := whole.concludes (String.ofList sql) last
  refine answers_of_answer heard last whole _ short ?_ rfl rfl inTime
    (r := h.send ((server.responseTo (String.ofList sql)).payloads (String.ofList sql)
      server.status).1)
  generalize found : (server.responseTo (String.ofList sql)).payloads (String.ofList sql)
    server.status = sent at complete ⊢
  obtain ⟨replies, _⟩ := sent
  cases complete
  simp only [Handler.answer, noKill, noPause, found]

/-- A stand-in answers a statement that is to interrupt a connection, whether it pauses or not. -/
theorem answers_kill (heard : trim (Utf8.decodeLossy body).toList = sql)
    (last : server.status.contains .moreResults = false) {target : UInt32}
    (kill : killTarget? sql = some target) (inTime : ∀ left ∈ limit, 0 < left.nanos) :
    server.Answers limit (Command.query.tag :: body) h pausing := by
  have answered : Handler.answer server h pausing sql = Handler.kill server h pausing target := by
    simp only [Handler.answer, kill]
  rw [Handler.kill] at answered
  split at answered
  · have whole : (Response.ok 0 0).IsWhole := Response.IsResult.isWhole trivial
    exact answers_of_answer heard last whole "" (by decide : 1 < patience) answered rfl rfl inTime
  · have stated : (Utf8.encode "HY000").length = 5 := by decide +kernel
    exact answers_of_answer heard last (Response.isWhole_error stated) ""
      (by decide : 1 < patience) answered rfl rfl inTime

/-- The name of the column that comes after a pause. -/
def pauseName (sql : List Char) : String :=
  String.ofList (trim (withoutStarts "SELECT ".toList sql))

/-- The table that comes after a pause, as a prepared answer. -/
def pauseTable (sql : List Char) : Response := .table [⟨pauseName sql, .longLong, ⟨0⟩⟩] [[.int 0]]

theorem isResult_pauseTable (storable : Storable (Utf8.encode (pauseName sql))) :
    (pauseTable sql).IsResult := by
  have zero : Storable (Utf8.encode (String.ofList (Digits.ofInt 0))) := by
    rw [Storable]
    decide +kernel
  constructor
  · exact Nat.one_pos
  · exact (by decide : 1 ≤ maxColumns)
  · simp
  · have read (name : String) : Value.ofCell (Column.definition ⟨name, .longLong, ⟨0⟩⟩)
        (Scalar.cell (.int 0)) = .ok (.int 0) := by
      have zero : Value.integerCell false (Utf8.encode (String.ofList (Digits.ofInt 0))) =
          .ok (.int 0) := by
        decide +kernel
      have signed : ColumnDefinition.isUnsigned (Column.definition ⟨name, .longLong, ⟨0⟩⟩) = false :=
        (by decide : (⟨0⟩ : ColumnFlags).contains .isUnsigned = false)
      rw [← zero, ← signed]
      rfl
    simpa using ⟨_, read _⟩
  · simpa using storable
  · simpa [Scalar.cell] using zero

/-- A stand-in answers a pause that is over in time. -/
theorem answers_pause (heard : trim (Utf8.decodeLossy body).toList = sql)
    (last : server.status.contains .moreResults = false) (noKill : killTarget? sql = none)
    {seconds : Double} (pause : sleepSeconds? sql = some seconds) {time : Duration}
    (span : spanOfSeconds? seconds = some time)
    (storable : Storable (Utf8.encode (pauseName sql)))
    (inTime : ∀ left ∈ limit, time.nanos < left.nanos) :
    server.Answers limit (Command.query.tag :: body) h pausing := by
  have table : ((pauseTable sql).payloads "" server.status).1 = Handler.sleepTable server sql :=
    List.append_nil _
  refine answers_of_answer heard last (isResult_pauseTable storable).isWhole "" ?_ ?_ rfl
    table.symm inTime
    (r := { h.send (Handler.sleepTable server sql) with pause := some time })
  · rw [table]
    exact (by decide : 5 < patience)
  · simp only [Handler.answer, noKill, pause, Handler.sleep, span]

/-- Whether a stand-in knows what to do about a statement: to interrupt a connection, to let a span of time
pass that is short enough, or to send a whole answer. -/
def Knows (server : ServerConfig) (limit : Option Duration) (sql : List Char) : Prop :=
  match killTarget? sql, sleepSeconds? sql with
  | some _, _ => True
  | none, some seconds => Storable (Utf8.encode (pauseName sql)) ∧
    ∃ time, spanOfSeconds? seconds = some time ∧ ∀ left ∈ limit, time.nanos < left.nanos
  | none, none => (server.responseTo (String.ofList sql)).IsWhole ∧
    ((server.responseTo (String.ofList sql)).payloads (String.ofList sql)
      server.status).1.length < patience

/-- A stand-in answers every statement that it knows what to do about. -/
theorem answers_statement (last : server.status.contains .moreResults = false)
    (known : server.Knows limit (trim (Utf8.decodeLossy body).toList))
    (inTime : ∀ left ∈ limit, 0 < left.nanos) :
    server.Answers limit (Command.query.tag :: body) h pausing := by
  unfold Knows at known
  split at known
  · next kill => exact answers_kill rfl last kill inTime
  · next noKill pause =>
    obtain ⟨storable, time, span, short⟩ := known
    exact answers_pause rfl last noKill pause span storable short
  · next noKill noPause => exact answers_prepared rfl last noKill noPause known.1 known.2 inTime

end ServerConfig

end statements

end Standin

end SqlWire
