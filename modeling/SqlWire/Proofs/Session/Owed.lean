import Mathlib.Tactic.SplitIfs
import SqlWire.Session.Basic

/-! # What a server still owes

A command and the payloads that have been read since are an exchange. What the server still owes
follows from the two alone: from the first byte of the command and from the payloads in order. It
is said here without regard to what a session makes of the payloads, so that a session can be held
against it.

`AnswerReader.after?_step`, `Challenge.after?_verdict` and `Session.after?_singleReply` compare what
the three kinds of readers do with a payload to what the server owes behind it. They differ from
each other in what a failure leaves: an error of the server ends every exchange, a cell that cannot
be read only ends a table, and a challenge that may not be answered ends nothing.
-/

namespace SqlWire

/-- What a server still owes for a command. -/
inductive Owed where
  /-- The one reply to a command that is no statement. -/
  | reply
  /-- The end of an authentication. -/
  | login
  /-- The first payload of a result. -/
  | result
  /-- Definitions of columns, and the terminator behind them. -/
  | definitions (missing : Nat)
  /-- Rows, and the terminator behind them. -/
  | rows
  /-- The answer is complete. -/
  | nothing
deriving Repr, DecidableEq

namespace Owed

/-- What is owed for a command before anything has been read. -/
def ofCommand (command : Bytes) : Owed :=
  if command.head? == some Command.query.tag then result
  else if command.head? == some Command.changeUser.tag then login
  else reply

/-- What is owed behind a result that ends with some status. -/
def afterResult (status : Status) : Owed :=
  if status.contains .moreResults then result else nothing

/-- What is owed behind a payload that ends an authentication or goes on with it. -/
def afterLogin? (header : UInt8) : Option Owed :=
  if header == Reply.okHeader || header == Reply.errorHeader then some nothing
  else if header == Reply.eofHeader || header == Reply.authMoreHeader then some login
  else none

/-- What is owed behind the first payload of a result. -/
def afterHead? (header : UInt8) (payload : Bytes) : Option Owed :=
  if header == Reply.okHeader then
    (OkReply.decode payload).toOption.map fun reply => afterResult reply.status
  else if header == Reply.errorHeader then some nothing
  else if header == Reply.localFileHeader then some result
  else (decodeColumnCount payload).toOption.map definitions

/-- What is owed behind a payload among the rows. -/
def afterRow? (payload : Bytes) : Option Owed :=
  if Reply.isEof payload then
    (EofReply.decode payload).toOption.map fun reply => afterResult reply.status
  else if Reply.isError payload then some nothing
  else some rows

/-- What is owed behind a payload; none if the payload has no place in the answer. -/
def after? : Owed → Bytes → Option Owed
  | nothing, _ => none
  | definitions (missing + 1), _ => some (definitions missing)
  | definitions 0, payload => if Reply.isEof payload then some rows else none
  | rows, payload => afterRow? payload
  | reply, header :: _ =>
    if header == Reply.okHeader || header == Reply.errorHeader then some nothing else none
  | login, header :: _ => afterLogin? header
  | result, header :: rest => afterHead? header (header :: rest)
  | _, [] => none

/-- What is owed behind the payload that made a session give up, if the connection can still be
used. -/
def afterFailure (status : Status) : ClientError → Owed
  | .value _ => afterResult status
  | .auth _ => login
  | _ => nothing

/-- What is owed behind a payload that was read with some outcome. -/
def ofOutcome {α : Type} (status : Status) (owed : α → Owed) : Except ClientError α → Owed
  | .ok a => owed a
  | .error cause => afterFailure status cause

theorem afterResult_eq_nothing_iff {status : Status} :
    afterResult status = nothing ↔ status.contains .moreResults = false := by
  unfold afterResult
  split <;> simp_all

/-- Whether something is owed for a statement. -/
def isStatement : Owed → Bool
  | result | definitions _ | rows => true
  | _ => false

theorem isStatement_afterResult (status : Status) :
    afterResult status = nothing ∨ (afterResult status).isStatement = true := by
  unfold afterResult
  split <;> simp [isStatement]

/-- What can be owed behind the first payload of a result. -/
theorem afterHead?_cases {header : UInt8} {payload : Bytes} {next : Owed}
    (after : afterHead? header payload = some next) :
    (header = Reply.okHeader ∧
      ∃ reply, OkReply.decode payload = .ok reply ∧ next = afterResult reply.status) ∨
    (header = Reply.errorHeader ∧ next = nothing) ∨ next = result ∨
      ∃ missing, next = definitions missing := by
  unfold afterHead? at after
  split_ifs at after with ok error file
  · cases decoded : OkReply.decode payload with
    | ok reply =>
      simp only [decoded, Except.toOption, Option.map_some, Option.some.injEq] at after
      exact .inl ⟨by simpa using ok, reply, rfl, after.symm⟩
    | error cause => simp [decoded, Except.toOption] at after
  · exact .inr (.inl ⟨by simpa using error, (Option.some.inj after).symm⟩)
  · exact .inr (.inr (.inl (Option.some.inj after).symm))
  · obtain ⟨missing, _, rfl⟩ := Option.map_eq_some_iff.mp after
    exact .inr (.inr (.inr ⟨missing, rfl⟩))

/-- What can be owed behind a payload among the rows. -/
theorem afterRow?_cases {payload : Bytes} {next : Owed} (after : afterRow? payload = some next) :
    (Reply.isEof payload = true ∧
      ∃ reply, EofReply.decode payload = .ok reply ∧ next = afterResult reply.status) ∨
    (Reply.isError payload = true ∧ next = nothing) ∨ next = rows := by
  unfold afterRow? at after
  split_ifs at after with ended error
  · cases decoded : EofReply.decode payload with
    | ok reply =>
      simp only [decoded, Except.toOption, Option.map_some, Option.some.injEq] at after
      exact .inl ⟨ended, reply, rfl, after.symm⟩
    | error cause => simp [decoded, Except.toOption] at after
  · exact .inr (.inl ⟨error, (Option.some.inj after).symm⟩)
  · exact .inr (.inr (Option.some.inj after).symm)

/-- What can be owed behind a payload of an authentication. -/
theorem afterLogin?_cases {header : UInt8} {next : Owed} (after : afterLogin? header = some next) :
    ((header = Reply.okHeader ∨ header = Reply.errorHeader) ∧ next = nothing) ∨ next = login := by
  unfold afterLogin? at after
  split_ifs at after with ended more
  · exact .inl ⟨by simpa using ended, (Option.some.inj after).symm⟩
  · exact .inr (Option.some.inj after).symm

/-- What can be owed behind a reply. -/
theorem afterReply?_cases {header : UInt8} {rest : Bytes} {next : Owed}
    (after : reply.after? (header :: rest) = some next) :
    (header = Reply.okHeader ∨ header = Reply.errorHeader) ∧ next = nothing := by
  simp only [after?] at after
  split_ifs at after with ended
  exact ⟨by simpa using ended, (Option.some.inj after).symm⟩

theorem isStatement_after? {owed next : Owed} {payload : Bytes}
    (after : owed.after? payload = some next) :
    next = nothing ∨ next.isStatement = owed.isStatement := by
  match owed, payload with
  | nothing, _ | reply, [] | login, [] | result, [] => simp [after?] at after
  | definitions (missing + 1), _ => cases after; exact .inr rfl
  | definitions 0, payload =>
    simp only [after?] at after
    split_ifs at after
    cases after
    exact .inr rfl
  | rows, payload =>
    obtain ⟨_, reply, _, rfl⟩ | ⟨_, rfl⟩ | rfl := afterRow?_cases after
    · exact isStatement_afterResult reply.status
    · exact .inl rfl
    · exact .inr rfl
  | reply, header :: rest => exact .inl (afterReply?_cases after).2
  | login, header :: rest => exact (afterLogin?_cases after).imp (·.2) (congrArg isStatement)
  | result, header :: rest =>
    obtain ⟨_, reply, _, rfl⟩ | ⟨_, rfl⟩ | rfl | ⟨missing, rfl⟩ := afterHead?_cases after
    · exact isStatement_afterResult reply.status
    · exact .inl rfl
    · exact .inr rfl
    · exact .inr rfl

theorem isStatement_foldlM {answer : List Bytes} {owed last : Owed}
    (after : answer.foldlM after? owed = some last) :
    last = nothing ∨ last.isStatement = owed.isStatement := by
  induction answer generalizing owed with
  | nil => cases after; exact .inr rfl
  | cons payload rest ih =>
    obtain ⟨next, first, others⟩ := Option.bind_eq_some_iff.mp after
    rcases isStatement_after? first with rfl | same
    · cases rest with
      | nil => cases others; exact .inl rfl
      | cons another rest => simp [List.foldlM_cons, after?] at others
    · rw [← same]
      exact ih others

end Owed

/-- A command, and the payloads that have been read since. -/
structure Exchange where
  command : Bytes
  answer : List Bytes
deriving Repr, DecidableEq

namespace Exchange

/-- What the server still owes in an exchange; none if a payload had no place in it. -/
def owed? (e : Exchange) : Option Owed := e.answer.foldlM Owed.after? (.ofCommand e.command)

/-- Whether the complete answer has been read. -/
def IsComplete (e : Exchange) : Prop := e.owed? = some .nothing

instance (e : Exchange) : Decidable e.IsComplete := inferInstanceAs (Decidable (_ = _))

/-- An exchange in which another payload has been read. -/
def heard (e : Exchange) (payload : Bytes) : Exchange := { e with answer := e.answer ++ [payload] }

@[simp] theorem owed?_start (command : Bytes) :
    (Exchange.mk command []).owed? = some (.ofCommand command) := rfl

theorem owed?_heard {e : Exchange} {owed : Owed} (known : e.owed? = some owed) (payload : Bytes) :
    (e.heard payload).owed? = owed.after? payload := by
  unfold owed? at known
  simp [owed?, heard, List.foldlM_append, known]

/-- How a complete answer ends: with an error, or with a reply behind which a statement has no more
results. -/
def EndsAnswer (command payload : Bytes) : Prop :=
  Reply.isError payload = true ∨
    if command.head? == some Command.query.tag then
      (payload.head? = some Reply.okHeader ∧
        ∃ reply, OkReply.decode payload = .ok reply ∧ reply.status.contains .moreResults = false) ∨
      (Reply.isEof payload = true ∧
        ∃ reply, EofReply.decode payload = .ok reply ∧ reply.status.contains .moreResults = false)
    else payload.head? = some Reply.okHeader

private theorem ends_of_after? {command payload : Bytes} {owed : Owed}
    (kind : owed.isStatement = (Owed.ofCommand command).isStatement)
    (last : owed.after? payload = some .nothing) : EndsAnswer command payload := by
  have statement : (command.head? == some Command.query.tag) = owed.isStatement := by
    rw [kind, Owed.ofCommand]
    split_ifs with query <;> simp [query, Owed.isStatement]
  simp only [EndsAnswer, statement]
  match owed, payload with
  | .nothing, _ | .reply, [] | .login, [] | .result, [] => simp [Owed.after?] at last
  | .definitions (missing + 1), _ => cases last
  | .definitions 0, payload => simp [Owed.after?] at last
  | .rows, payload =>
    obtain ⟨ended, reply, decoded, done⟩ | ⟨error, _⟩ | wrong := Owed.afterRow?_cases last
    · exact .inr (.inr ⟨ended, reply, decoded, Owed.afterResult_eq_nothing_iff.mp done.symm⟩)
    · exact .inl error
    · cases wrong
  | .reply, header :: rest =>
    obtain ⟨rfl | rfl, _⟩ := Owed.afterReply?_cases last
    · exact .inr rfl
    · exact .inl rfl
  | .login, header :: rest =>
    obtain ⟨rfl | rfl, _⟩ | wrong := Owed.afterLogin?_cases last
    · exact .inr rfl
    · exact .inl rfl
    · cases wrong
  | .result, header :: rest =>
    obtain ⟨rfl, reply, decoded, done⟩ | ⟨rfl, _⟩ | wrong | ⟨missing, wrong⟩ :=
      Owed.afterHead?_cases last
    · exact .inr (.inl ⟨rfl, reply, decoded, Owed.afterResult_eq_nothing_iff.mp done.symm⟩)
    · exact .inl rfl
    · cases wrong
    · cases wrong

/-- A complete answer ends as answers end. -/
theorem IsComplete.ends {e : Exchange} (complete : e.IsComplete) :
    ∃ payload, e.answer.getLast? = some payload ∧ EndsAnswer e.command payload := by
  obtain ⟨command, answer⟩ := e
  rcases List.eq_nil_or_concat answer with rfl | ⟨before, payload, rfl⟩
  · simp only [IsComplete, owed?_start, Owed.ofCommand, Option.some.injEq] at complete
    split_ifs at complete
  · simp only [IsComplete, owed?, List.concat_eq_append, List.foldlM_append, List.foldlM_cons,
      List.foldlM_nil, Option.bind_eq_bind, Option.bind_eq_some_iff, Option.pure_def] at complete
    obtain ⟨owed, read, last⟩ := complete
    have last : owed.after? payload = some .nothing := by simpa using last
    refine ⟨payload, by simp, ?_⟩
    rcases Owed.isStatement_foldlM read with rfl | kind
    · simp [Owed.after?] at last
    · exact ends_of_after? kind last

end Exchange

/-- The complete answers of a conversation. -/
def Settled (log : List Exchange) : Prop := ∀ e ∈ log, e.IsComplete

theorem settled_cons_iff {e : Exchange} {log : List Exchange} :
    Settled (e :: log) ↔ e.IsComplete ∧ Settled log := by
  simp [Settled]

/-- What the server owes a reader at some place of an answer. -/
def AnswerPlace.owed : AnswerPlace → Owed
  | .head => .result
  | .columns missing _ => .definitions missing
  | .rows _ _ => .rows

/-- What the server owes a session that waits for something. -/
def Pending.owed : Pending → Owed
  | .pong | .selected _ | .cleared | .restored => .reply
  | .verdict _ => .login
  | .answer reader => reader.place.owed

/-- An error that the server tells leaves nothing owed, if its payload can be read. -/
theorem Owed.afterFailure_ofErrorPayload (status : Status) {payload : Bytes}
    (usable : (ClientError.ofErrorPayload payload).isConnection = false) :
    afterFailure status (.ofErrorPayload payload) = nothing := by
  unfold ClientError.ofErrorPayload at usable ⊢
  split <;> simp_all [ClientError.isConnection, ClientError.ofReply, afterFailure]

namespace AnswerReader

/-- What is owed behind the payload of a step. -/
def owedBehind (r : AnswerReader) : Step → Owed
  | .more | .decline => r.place.owed
  | .complete => .nothing
  | .failed cause => .afterFailure r.status cause

/-- Whether a session can still be used after a step. -/
def Step.isUsable : Step → Bool
  | .failed cause => !cause.isConnection
  | _ => true

theorem owedBehind_finish (r : AnswerReader) (result : ResultSet) :
    (r.finish result).1.owedBehind (r.finish result).2 = .afterResult r.status := by
  unfold finish Owed.afterResult
  split_ifs <;> rfl

private theorem after?_stepHead (r : AnswerReader) (here : r.place = .head) (payload : Bytes)
    (usable : (r.stepHead payload).2.isUsable = true) :
    Owed.result.after? payload =
      some ((r.stepHead payload).1.owedBehind (r.stepHead payload).2) := by
  fun_cases stepHead r payload with
  | case1 =>
    simp [stepHead, Step.isUsable, ClientError.emptyPayload, ClientError.isConnection] at usable
  | case2 header rest ok cause bad =>
    simp_all [stepHead, Step.isUsable, ClientError.isConnection]
  | case3 header rest ok reply good =>
    simp only [good]
    rw [owedBehind_finish]
    simp [Owed.after?, Owed.afterHead?, ok, good, Except.toOption]
  | case4 header rest other error =>
    simp only [stepHead, other, error, Bool.false_eq_true, ↓reduceIte, Step.isUsable,
      Bool.not_eq_true'] at usable ⊢
    rw [owedBehind, Owed.afterFailure_ofErrorPayload r.status usable]
    simp [Owed.after?, Owed.afterHead?, other, error]
  | case5 header rest other noError file =>
    simp_all [stepHead, Owed.after?, Owed.afterHead?, owedBehind, AnswerPlace.owed]
  | case6 header rest other noError noFile cause bad =>
    simp_all [stepHead, Step.isUsable, ClientError.isConnection]
  | case7 header rest other noError noFile count good =>
    simp_all [stepHead, Owed.after?, Owed.afterHead?, owedBehind, AnswerPlace.owed, Except.toOption]

private theorem after?_stepColumns (r : AnswerReader) (missing : Nat)
    (known : List ColumnDefinition) (payload : Bytes)
    (usable : (r.stepColumns missing known payload).2.isUsable = true) :
    (Owed.definitions missing).after? payload =
      some ((r.stepColumns missing known payload).1.owedBehind
        (r.stepColumns missing known payload).2) := by
  fun_cases stepColumns r missing known payload with
  | case1 missing cause bad => simp_all [stepColumns, Step.isUsable, ClientError.isConnection]
  | case2 missing column good =>
    simp_all [stepColumns, Owed.after?, owedBehind, AnswerPlace.owed]
  | case3 ended => simp_all [stepColumns, Owed.after?, owedBehind, AnswerPlace.owed]
  | case4 other =>
    simp_all [stepColumns, Step.isUsable, ClientError.unexpected, ClientError.isConnection]

private theorem after?_stepRows (r : AnswerReader) (columns : List ColumnDefinition)
    (known : List RawRow) (payload : Bytes)
    (usable : (r.stepRows columns known payload).2.isUsable = true) :
    Owed.rows.after? payload =
      some ((r.stepRows columns known payload).1.owedBehind
        (r.stepRows columns known payload).2) := by
  fun_cases stepRows r columns known payload with
  | case1 ended cause bad => simp_all [stepRows, Step.isUsable, ClientError.isConnection]
  | case2 ended reply good told cause bad =>
    simp_all [stepRows, Owed.after?, Owed.afterRow?, owedBehind, Owed.afterFailure,
      Except.toOption, told]
  | case3 ended reply good told result table =>
    rw [owedBehind_finish]
    simp [Owed.after?, Owed.afterRow?, ended, good, Except.toOption, told]
  | case4 noEnd error =>
    simp only [stepRows, noEnd, error, Bool.false_eq_true, ↓reduceIte, Step.isUsable,
      Bool.not_eq_true'] at usable ⊢
    rw [owedBehind, Owed.afterFailure_ofErrorPayload r.status usable]
    simp [Owed.after?, Owed.afterRow?, noEnd, error]
  | case5 noEnd noError cause bad =>
    simp_all [stepRows, Step.isUsable, ClientError.isConnection]
  | case6 noEnd noError cells good =>
    simp_all [stepRows, Owed.after?, Owed.afterRow?, owedBehind, AnswerPlace.owed]

/-- A step that leaves the session usable knows exactly what is owed behind its payload. -/
theorem after?_step (r : AnswerReader) (payload : Bytes)
    (usable : (r.step payload).2.isUsable = true) :
    r.place.owed.after? payload = some ((r.step payload).1.owedBehind (r.step payload).2) := by
  unfold step at usable ⊢
  cases place : r.place with
  | head => exact after?_stepHead r place payload (by simpa only [place] using usable)
  | columns missing known =>
    exact after?_stepColumns r missing known payload (by simpa only [place] using usable)
  | rows columns known =>
    exact after?_stepRows r columns known payload (by simpa only [place] using usable)

end AnswerReader

/-- What is owed behind the payload that a verdict is about. -/
def Challenge.Verdict.owed : Challenge.Verdict → Owed
  | .accepted _ => .nothing
  | .again _ | .pending => .login

namespace Challenge

private theorem ofName_failed {name : String} {nonce : Bytes} {cause : ClientError}
    (failed : ofName name nonce = .error cause) (usable : cause.isConnection = false)
    (status : Status) : Owed.afterFailure status cause = .login := by
  unfold ofName at failed
  split at failed
  · cases failed
    simp [ClientError.isConnection] at usable
  · cases failed
    rfl
  · split at failed
    · simp at failed
    · cases failed
      rfl

private theorem ofOutcome_dataVerdict (c : Challenge) (data : Bytes) (status : Status)
    (usable : ∀ cause, c.dataVerdict data = .error cause → cause.isConnection = false) :
    Owed.ofOutcome status Verdict.owed (c.dataVerdict data) = .login := by
  fun_cases dataVerdict c data with
  | case1 b rest fast => rfl
  | case2 b rest other full => rfl
  | case3 b rest other noFull =>
    have connection := usable _ (by simp [dataVerdict, other, noFull]; rfl)
    simp [ClientError.unexpected, ClientError.isConnection] at connection
  | case4 =>
    have connection := usable _ rfl
    simp [ClientError.unexpected, ClientError.isConnection] at connection

/-- A verdict that leaves the session usable knows exactly what is owed behind its payload. -/
theorem after?_verdict (c : Challenge) (payload : Bytes) (status : Status)
    (usable : ∀ cause, c.verdict payload = .error cause → cause.isConnection = false) :
    Owed.login.after? payload = some (.ofOutcome status Verdict.owed (c.verdict payload)) := by
  fun_cases verdict c payload with
  | case1 =>
    have connection := usable _ rfl
    simp [ClientError.emptyPayload, ClientError.isConnection] at connection
  | case2 header rest ok =>
    cases decoded : OkReply.decode (header :: rest) with
    | ok reply =>
      simp only [Owed.after?, Owed.afterLogin?, ok, Bool.true_or, ↓reduceIte]
      rfl
    | error cause =>
      have connection := usable (.protocol cause) (by simp [verdict, ok, decoded]; rfl)
      simp [ClientError.isConnection] at connection
  | case3 header rest other error =>
    have connection := usable (.ofErrorPayload (header :: rest)) (by simp [verdict, other, error])
    simp [Owed.after?, Owed.afterLogin?, error, Owed.ofOutcome,
      Owed.afterFailure_ofErrorPayload status connection]
  | case4 header rest other noError eof =>
    have goal : Owed.login.after? (header :: rest) = some .login := by
      simp [Owed.after?, Owed.afterLogin?, other, noError, eof]
    rw [goal]
    cases decoded : AuthSwitch.decode (header :: rest) with
    | error cause =>
      have connection := usable (.protocol cause) (by
        simp [verdict, other, noError, eof, decoded]; rfl)
      simp [ClientError.isConnection] at connection
    | ok request =>
      cases named : ofName request.plugin request.nonce with
      | ok challenge =>
        simp [Except.mapError, bind, Except.bind, named, pure, Except.pure, Owed.ofOutcome,
          Verdict.owed]
      | error cause =>
        have connection := usable cause (by
          simp [verdict, other, noError, eof, decoded, Except.mapError, bind, Except.bind, named])
        simp [Except.mapError, bind, Except.bind, named, Owed.ofOutcome,
          ofName_failed named connection status]
  | case5 header rest other noError noEof more =>
    have goal : Owed.login.after? (header :: rest) = some .login := by
      simp [Owed.after?, Owed.afterLogin?, other, noError, noEof, more]
    rw [goal]
    cases decoded : AuthMore.decode (header :: rest) with
    | error cause =>
      have connection := usable (.protocol cause) (by
        simp [verdict, other, noError, noEof, more, decoded]; rfl)
      simp [ClientError.isConnection] at connection
    | ok data =>
      have opened : c.verdict (header :: rest) = c.dataVerdict data.data := by
        simp [verdict, other, noError, noEof, more, decoded, Except.mapError, bind, Except.bind]
      have login := ofOutcome_dataVerdict c data.data status (by simpa only [opened] using usable)
      simpa [Except.mapError, bind, Except.bind] using login.symm
  | case6 header rest other noError noEof noMore =>
    have connection := usable _ (by simp [verdict, other, noError, noEof, noMore]; rfl)
    simp [ClientError.unexpected, ClientError.isConnection] at connection

end Challenge

/-- A single reply that leaves the session usable is all that was owed. -/
theorem Session.after?_singleReply (payload : Bytes) (status : Status)
    (usable : ∀ cause, singleReply payload = .error cause → cause.isConnection = false) :
    Owed.reply.after? payload =
      some (.ofOutcome status (fun _ => Owed.nothing) (singleReply payload)) := by
  fun_cases singleReply payload with
  | case1 =>
    have connection := usable _ rfl
    simp [ClientError.emptyPayload, ClientError.isConnection] at connection
  | case2 header rest ok =>
    cases decoded : OkReply.decode (header :: rest) with
    | ok reply => simp [Owed.after?, ok, Except.mapError, Owed.ofOutcome]
    | error cause =>
      have connection := usable (.protocol cause) (by
        simp [singleReply, ok, decoded, Except.mapError])
      simp [ClientError.isConnection] at connection
  | case3 header rest other error =>
    have connection := usable (.ofErrorPayload (header :: rest)) (by
      simp [singleReply, other, error])
    simp [Owed.after?, error, Owed.ofOutcome, Owed.afterFailure_ofErrorPayload status connection]
  | case4 header rest other noError =>
    have connection := usable _ (by simp [singleReply, other, noError]; rfl)
    simp [ClientError.unexpected, ClientError.isConnection] at connection

end SqlWire
