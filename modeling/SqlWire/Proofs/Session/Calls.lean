import SqlWire.Proofs.Session.Settling
import SqlWire.Proofs.Statement.Filling

/-! # Connected means settled

The command methods of a session settle its state themselves. This module runs them in any order on
any network and says what a session that counts itself connected has read: the complete answer to
each of its commands, unless a call was stranded. A call is stranded by a cell that cannot be read in
a table behind which more results follow, and by a challenge that may not be answered; both errors
are the client's own, so that the session takes the answer for finished although the server goes on
with it.

`runAll_settled` is the equivalence. `query_stranded` and `reset_stranded` are the two ways in which
a session comes to wait for an answer while old payloads are still on their way.
-/

namespace SqlWire

namespace Session

variable {ω : Type} [Network ω]

/-- The methods of a session that settle its state themselves. -/
inductive Call where
  | execute (sql : String)
  | executeWith (sql : String) (ps : Parameters)
  | query (sql : String)
  | queryWith (sql : String) (ps : Parameters)
  | queryMultiple (sql : String)
  | changeDatabase (database : String)
  | ping
  | reset
deriving DecidableEq

/-- The error of an outcome. -/
def failure? {α : Type} : Except ClientError α → Option ClientError
  | .ok _ => none
  | .error cause => some cause

/-- The error of a call in place of its outcome. -/
def reported {α : Type} : Except ClientError α × Session × ω → Option ClientError × Session × ω
  | (outcome, s, w) => (failure? outcome, s, w)

namespace Call

/-- Runs a call: its error, the session and the network. A ping keeps its error to itself. -/
def run (s : Session) (w : ω) : Call → Option ClientError × Session × ω
  | .execute sql => reported (s.execute sql w)
  | .executeWith sql ps => reported (s.executeWith sql ps w)
  | .query sql => reported (s.query sql w)
  | .queryWith sql ps => reported (s.queryWith sql ps w)
  | .queryMultiple sql => reported (s.queryMultiple sql w)
  | .changeDatabase database => reported (s.changeDatabase database w)
  | .ping => (none, (s.ping w).2)
  | .reset => reported (s.reset w)

/-- What a call asks for, if its statement can be made. -/
def request (s : Session) : Call → Except ClientError Request
  | .execute sql | .query sql | .queryMultiple sql => .ok (.statement (Command.encodeQuery sql))
  | .executeWith sql ps | .queryWith sql ps => (s.bind sql ps).map .statement
  | .changeDatabase database => .ok (.selectDatabase database)
  | .ping => .ok .ping
  | .reset => .ok .reset

/-- The exchanges of a call, the latest first. -/
def exchanges (s : Session) (w : ω) (c : Call) : List Exchange :=
  match c.request s with
  | .ok request => transcript patience (s.begin request) w []
  | .error _ => []

end Call

/-- What is known of a call that has returned. -/
structure Report where
  /-- What was sent and read. -/
  exchanges : List Exchange
  /-- The error that the call gave. -/
  failure : Option ClientError
  /-- The status that the server had told last. -/
  status : Status
deriving DecidableEq

/-- Whether a call has left the end of an answer unread without knowing it: with a cell that cannot
be read in a table behind which more results follow, or with a challenge that may not be answered. -/
def Report.IsStranded (r : Report) : Prop :=
  r.exchanges ≠ [] ∧
    ((∃ cause, r.failure = some (.value cause)) ∧ r.status.contains .moreResults = true ∨
      ∃ cause, r.failure = some (.auth cause))

/-- What is known of a call. -/
def Call.report (s : Session) (w : ω) (c : Call) : Report :=
  ⟨c.exchanges s w, (c.run s w).1, (c.run s w).2.1.status⟩

def runAll : List Call → Session → ω → List Report × Session × ω
  | [], s, w => ([], s, w)
  | c :: rest, s, w =>
    let (reports, last) := runAll rest (c.run s w).2.1 (c.run s w).2.2
    (c.report s w :: reports, last)

/-- What is owed behind a call that gave some error. -/
def owedBehind (status : Status) : Option ClientError → Owed
  | none => .nothing
  | some cause => .afterFailure status cause

theorem owedBehind_eq_nothing_iff {status : Status} {failure : Option ClientError} :
    owedBehind status failure = .nothing ↔
      ¬ ((∃ cause, failure = some (.value cause)) ∧ status.contains .moreResults = true ∨
        ∃ cause, failure = some (.auth cause)) := by
  cases failure with
  | none => simp [owedBehind]
  | some cause =>
    cases cause <;> simp [owedBehind, Owed.afterFailure, Owed.afterResult_eq_nothing_iff]

/-- What is made of the results does not change what is owed. -/
theorem owedBehind_bind {α : Type} {take : List ResultSet → Except ClientError α}
    (harmless : ∀ results cause, take results = .error cause → cause = .emptyPayload)
    (status : Status) (outcome : Except ClientError (List ResultSet)) :
    owedBehind status (failure? (outcome.bind take)) =
      .ofOutcome status (fun _ => .nothing) outcome := by
  cases outcome with
  | error cause => rfl
  | ok results =>
    cases taken : take results with
    | ok _ => simp [Except.bind, taken, failure?, owedBehind, Owed.ofOutcome]
    | error cause =>
      simp [Except.bind, taken, harmless _ _ taken, failure?, owedBehind, Owed.ofOutcome,
        ClientError.emptyPayload, Owed.afterFailure]

/-- Nothing is owed behind an outcome that is not an error. -/
theorem ofOutcome_eq_nothing {α : Type} {status : Status} {outcome : Except ClientError α}
    (answered : failure? outcome = none) :
    Owed.ofOutcome status (fun _ => .nothing) outcome = .nothing := by
  cases outcome with
  | ok _ => rfl
  | error cause => simp [failure?] at answered

theorem firstTable_failed (results : List ResultSet) (cause : ClientError)
    (failed : ResultSet.firstTable results = .error cause) : cause = .emptyPayload := by
  unfold ResultSet.firstTable at failed
  split at failed
  · cases failed
  · split at failed
    · cases failed
    · exact (Except.error.inj failed).symm

theorem owedBehind_map (status : Status) (outcome : Except ClientError (List ResultSet)) :
    owedBehind status (failure? (outcome.map fun _ => ())) =
      .ofOutcome status (fun _ => .nothing) outcome := by
  cases outcome <;> rfl

/-- A statement leaves what its request leaves, whatever is taken from its results. -/
theorem reported_runPayload {α : Type} {take : List ResultSet → Except ClientError α}
    (harmless : ∀ results cause, take results = .error cause → cause = .emptyPayload)
    (s : Session) (payload : Bytes) (w : ω) :
    (reported (s.runPayload (.ok payload) take w)).2 = (s.ask (.statement payload) w).2 ∧
      ∀ status, owedBehind status (reported (s.runPayload (.ok payload) take w)).1 =
        .ofOutcome status (fun _ => .nothing) (s.ask (.statement payload) w).1 :=
  ⟨rfl, fun status => owedBehind_bind harmless status _⟩

namespace Call

/-- A call whose statement cannot be made gives that error. -/
theorem run_unmade {c : Call} {s : Session} {cause : ClientError}
    (failed : c.request s = .error cause) (w : ω) : c.run s w = (some cause, s, w) := by
  cases c with
  | executeWith sql ps | queryWith sql ps =>
    cases made : s.bind sql ps with
    | ok payload => simp [request, made, Except.map] at failed
    | error bound =>
      obtain rfl : bound = cause := by simpa [request, made, Except.map] using failed
      simp [run, Session.executeWith, Session.queryWith, made, runPayload, reported, failure?]
  | _ => simp [request] at failed

/-- A call whose statement cannot be made does nothing. -/
theorem run_error {c : Call} {s : Session} {cause : ClientError}
    (failed : c.request s = .error cause) (w : ω) : (c.run s w).2 = (s, w) := by
  rw [run_unmade failed]

/-- A call with parameters asks for a statement that could be made. -/
theorem exists_of_map_bind {s : Session} {sql : String} {ps : Parameters} {r : Request}
    (asked : (s.bind sql ps).map Request.statement = .ok r) :
    ∃ payload, s.bind sql ps = .ok payload ∧ r = .statement payload := by
  cases made : s.bind sql ps with
  | error cause =>
    rw [made] at asked
    cases asked
  | ok payload =>
    rw [made] at asked
    exact ⟨payload, rfl, (Except.ok.inj asked).symm⟩

/-- A call that asks for something leaves what its request leaves, and its error says what that of
the request says. -/
theorem run_ok {c : Call} {s : Session} {r : Request} (asked : c.request s = .ok r) (w : ω) :
    (c.run s w).2 = (s.ask r w).2 ∧
      (c = .ping ∨ ∀ status, owedBehind status (c.run s w).1 =
        .ofOutcome status (fun _ => .nothing) (s.ask r w).1) := by
  have counted (results : List ResultSet) (cause : ClientError)
      (failed : (Except.ok ∘ ResultSet.totalAffected) results = .error cause) :
      cause = .emptyPayload := by cases failed
  cases c with
  | execute sql =>
    cases asked
    exact (reported_runPayload counted s _ w).imp_right .inr
  | query sql =>
    cases asked
    exact (reported_runPayload firstTable_failed s _ w).imp_right .inr
  | queryMultiple sql =>
    cases asked
    exact (reported_runPayload (by simp) s _ w).imp_right .inr
  | executeWith sql ps =>
    obtain ⟨payload, made, rfl⟩ := exists_of_map_bind asked
    simp only [run, Session.executeWith, made]
    exact (reported_runPayload counted s payload w).imp_right .inr
  | queryWith sql ps =>
    obtain ⟨payload, made, rfl⟩ := exists_of_map_bind asked
    simp only [run, Session.queryWith, made]
    exact (reported_runPayload firstTable_failed s payload w).imp_right .inr
  | changeDatabase database | reset =>
    cases asked
    exact ⟨rfl, .inr fun status => owedBehind_map status _⟩
  | ping =>
    cases asked
    exact ⟨rfl, .inl rfl⟩

end Call

/-- Whether what a session waits for is the reply to a ping, and what comes of it: a failure breaks
the session. -/
def OnlyPong : Session × Turn → Prop
  | (_, .command _ pending) | (_, .reply _ pending) | (_, .wait pending) => pending = .pong
  | (s, .finished outcome) => s.state = .connected → failure? outcome = none

theorem state_broken_ne (s : Session) : s.broken.state ≠ .connected := by
  unfold broken
  split_ifs <;> simp

/-- A ping after which the session is connected has been answered. -/
theorem failure?_ping {s : Session} {w : ω} (connected : (s.ask .ping w).2.1.state = .connected) :
    failure? (s.ask .ping w).1 = none := by
  refine follow_invariant (P := fun _ => OnlyPong) ?sent ?replied ?told ?lost ?late ?closing
    patience (s.begin .ping) w [] ?start connected
  case sent =>
    intro _ _ _ _ _ pong
    exact pong
  case replied =>
    intro _ _ _ _ _ pong
    exact pong
  case closing =>
    intro _ _ _ pong
    exact pong
  case lost =>
    rintro _ s _ cause link rfl connected
    exact (state_broken_ne _ connected).elim
  case late =>
    rintro _ s _ _ (rfl | rfl) connected <;> exact (state_broken_ne _ connected).elim
  case told =>
    rintro _ s _ payload link rfl
    simp only [resume, take, afterReply]
    split
    · intro connected
      exact (state_broken_ne _ connected).elim
    · intro _
      rfl
  case start =>
    simp only [begin, command]
    split
    · rfl
    · intro connected
      exact (state_broken_ne _ connected).elim

theorem head?_bind {s : Session} {sql : String} {ps : Parameters} {payload : Bytes}
    (made : s.bind sql ps = .ok payload) : payload.head? = some Command.query.tag := by
  obtain ⟨text, _, rfl⟩ := Binding.payload_eq_ok_iff.mp made
  rfl

/-- The first turn of what a call asks for is a command that is owed what its first byte says. -/
theorem Call.standing_begin {c : Call} {s : Session} {r : Request} (asked : c.request s = .ok r)
    (idle : s.state = .connected) : Standing [] (s.begin r) := by
  have none : Settled [] := by simp [Settled]
  have statement (payload : Bytes) (tagged : payload.head? = some Command.query.tag) :
      Standing [] (s.begin (.statement payload)) :=
    standing_command idle none (by
      simp [Pending.owed, AnswerReader.start, AnswerPlace.owed, Owed.ofCommand, tagged])
  cases c with
  | execute sql | query sql | queryMultiple sql =>
    cases asked
    exact statement _ rfl
  | executeWith sql ps | queryWith sql ps =>
    obtain ⟨payload, made, rfl⟩ := exists_of_map_bind asked
    exact statement payload (head?_bind made)
  | changeDatabase database =>
    cases asked
    exact standing_command idle none rfl
  | ping =>
    cases asked
    exact standing_command idle none rfl
  | reset =>
    cases asked
    simp only [begin]
    split_ifs
    · exact standing_command idle none rfl
    · exact standing_command idle none rfl

/-- A call on a connected session breaks it, or leaves it connected and settled unless stranded. -/
theorem Call.run_settled (c : Call) (s : Session) (w : ω) (idle : s.state = .connected) :
    (c.run s w).2.1.state = .failed ∨ (c.run s w).2.1.state = .connected ∧
      (Settled (c.exchanges s w) ↔ ¬ (c.report s w).IsStranded) := by
  cases asked : c.request s with
  | error cause =>
    have unchanged : (c.run s w).2 = (s, w) := run_error asked w
    simp [unchanged, idle, exchanges, asked, report, Report.IsStranded, Settled]
  | ok r =>
    obtain ⟨same, sound⟩ := run_ok asked w
    rw [same]
    obtain failed | ⟨connected, e, earlier, log, settled, owed⟩ :=
      follow_standing patience (s.begin r) w [] (standing_begin asked idle)
    · exact .inl failed
    refine .inr ⟨connected, ?_⟩
    have told : owedBehind (c.run s w).2.1.status (c.run s w).1 =
        .ofOutcome (s.ask r w).2.1.status (fun _ => .nothing) (s.ask r w).1 := by
      rw [same]
      rcases sound with rfl | sound
      · cases asked
        exact (ofOutcome_eq_nothing (failure?_ping connected)).symm
      · exact sound _
    have exchanged : c.exchanges s w = e :: earlier := by simp [exchanges, asked, log]
    have stranded : ¬ (c.report s w).IsStranded ↔
        Owed.ofOutcome (s.ask r w).2.1.status (fun _ => .nothing) (s.ask r w).1 = .nothing := by
      rw [← told, owedBehind_eq_nothing_iff]
      simp [Report.IsStranded, report, exchanged]
    rw [exchanged, settled_cons_iff, Exchange.IsComplete, stranded]
    constructor
    · rintro ⟨complete, _⟩
      exact Option.some.inj (owed.symm.trans complete)
    · intro nothing
      exact ⟨nothing ▸ owed, settled⟩

/-- A session that is not connected refuses every command. -/
theorem command_refused {s : Session} (busy : s.state ≠ .connected) (payload : Bytes)
    (pending : Pending) :
    s.command payload pending = (s.broken, .finished (.error .connectionClosed)) := by
  unfold command
  split
  · next idle => exact (busy idle).elim
  · rw [fail, failed_of_isConnection rfl]

/-- A session that is not connected refuses every request. -/
theorem begin_refused {s : Session} (busy : s.state ≠ .connected) (r : Request) :
    s.begin r = (s.broken, .finished (.error .connectionClosed)) := by
  cases r with
  | reset => simp only [begin, command_refused busy, ite_self]
  | _ => exact command_refused busy _ _

/-- A call on a session that is not connected leaves it as it is or breaks it. -/
theorem Call.run_refused (c : Call) (s : Session) (w : ω) (busy : s.state ≠ .connected) :
    (c.run s w).2.1.state = s.state ∨ (c.run s w).2.1.state = s.broken.state := by
  cases asked : c.request s with
  | error cause => simp [run_error asked w]
  | ok r =>
    rw [(run_ok asked w).1, ask, begin_refused busy]
    exact .inr rfl

theorem Call.run_not_connected (c : Call) (s : Session) (w : ω) (busy : s.state ≠ .connected) :
    (c.run s w).2.1.state ≠ .connected := by
  rcases c.run_refused s w busy with same | broken
  · rwa [same]
  · rw [broken]
    exact state_broken_ne s

theorem Call.run_failed (c : Call) (s : Session) (w : ω) (failed : s.state = .failed) :
    (c.run s w).2.1.state = .failed := by
  rcases c.run_refused s w (by simp [failed]) with same | broken
  · rw [same, failed]
  · simp [broken, Session.broken, failed]

theorem runAll_failed (calls : List Call) (s : Session) (w : ω) (failed : s.state = .failed) :
    (runAll calls s w).2.1.state = .failed := by
  induction calls generalizing s w with
  | nil => exact failed
  | cons c rest ih => exact ih _ _ (c.run_failed s w failed)

/-- Whatever calls are made in whatever order, and whatever the network brings: a session that is
connected in the end has been connected all along and has read the complete answer to each command
of a call, with its last payload, exactly if the call was not stranded. A connected session on which
calls are made is connected or has failed in the end. -/
theorem runAll_settled (calls : List Call) (s : Session) (w : ω) :
    ((runAll calls s w).2.1.state = .connected →
      s.state = .connected ∧ ∀ r ∈ (runAll calls s w).1,
        (∀ e ∈ r.exchanges, e.IsComplete ∧
          ∃ payload, e.answer.getLast? = some payload ∧ Exchange.EndsAnswer e.command payload) ↔
        ¬ r.IsStranded) ∧
    (s.state = .connected →
      (runAll calls s w).2.1.state = .connected ∨ (runAll calls s w).2.1.state = .failed) := by
  induction calls generalizing s w with
  | nil =>
    refine ⟨?_, .inl⟩
    intro idle
    exact ⟨idle, by simp [runAll]⟩
  | cons c rest ih =>
    obtain ⟨settled, ends⟩ := ih (c.run s w).2.1 (c.run s w).2.2
    constructor
    · intro connected
      obtain ⟨between, others⟩ := settled connected
      have idle : s.state = .connected :=
        Decidable.byContradiction fun busy => c.run_not_connected s w busy between
      refine ⟨idle, ?_⟩
      intro r member
      rcases List.mem_cons.mp member with rfl | member
      · obtain failed | ⟨_, here⟩ := c.run_settled s w idle
        · simp [failed] at between
        · rw [← here]
          constructor
          · intro all e member
            exact (all e member).1
          · intro all e member
            exact ⟨all e member, (all e member).ends⟩
      · exact others r member
    · intro idle
      obtain failed | ⟨connected, _⟩ := c.run_settled s w idle
      · exact .inr (runAll_failed rest _ _ failed)
      · exact ends connected

/-- A network on which the bytes that are still to come have been written down. -/
structure Scripted where
  arrivals : List Arrival
deriving DecidableEq

instance : Network Scripted where
  now _ := .zero
  wait _ w := w
  freshId w := (1, w)
  shuffle hosts w := (hosts, w)
  dial _ _ _ w := (.line 0, w)
  write _ _ w := (.ok (), w)
  incoming _ w := ⟨w.arrivals, false⟩
  advance _ incoming _ _ := ⟨incoming.arrivals⟩
  hangUp _ w := w

/-- A network that brings the answers to some commands, each answer at once. -/
def Scripted.ofAnswers (answers : List (List Bytes)) : Scripted :=
  ⟨answers.map fun answer => ⟨.zero, .zero, .data
    (answer.mapIdx fun i payload => Packet.encode ⟨1 + UInt8.ofNat i, payload⟩).flatten⟩⟩

/-- A session with a server of some version that has just been opened. -/
def fresh (version : String) : Session :=
  { id := 1, config := .default, host := "", serverVersion := .parse version, connectionId := 1
    capabilities := ⟨0⟩, status := .autocommit, challenge := ⟨.nativePassword, [], rfl⟩
    generation := 0, createdAt := .zero, returnedAt := .zero, databaseOverride := none
    state := .connected, lease := 0, link := ⟨0, .start .start⟩ }

/-- A result with one number, which is written as some text. -/
def numberTable (text : Bytes) (status : Status) : List Bytes :=
  [[1], (ColumnDefinition.new "n" .long).encode, EofReply.encode ⟨0, .autocommit⟩,
    Write.lengthBytes text, EofReply.encode ⟨0, status⟩]

theorem runAll_settled_query_ping :
    ∀ r ∈ (runAll [.query "SELECT 7", .ping] (fresh "8.0.36")
        (Scripted.ofAnswers [numberTable [0x37] .autocommit, [[0, 0, 0, 2, 0, 0, 0]]])).1,
      ∀ e ∈ r.exchanges, e.IsComplete := by
  intro r member e exchanged
  have settled := (runAll_settled [.query "SELECT 7", .ping] (fresh "8.0.36")
    (Scripted.ofAnswers [numberTable [0x37] .autocommit, [[0, 0, 0, 2, 0, 0, 0]]])).1
    (by decide +kernel)
  have quiet : ¬ r.IsStranded := by
    have silent : ∀ r ∈ (runAll [.query "SELECT 7", .ping] (fresh "8.0.36")
        (Scripted.ofAnswers [numberTable [0x37] .autocommit, [[0, 0, 0, 2, 0, 0, 0]]])).1,
        r.failure = none := by decide +kernel
    simp [Report.IsStranded, silent r member]
  exact ((settled.2 r member).mpr quiet e exchanged).1

/-- A cell that cannot be read, in a table behind which a reply follows: the session waits for its
next command while that reply is on its way. -/
theorem query_stranded :
    ∃ (s : Session) (w : Scripted), s.state = .connected ∧
      (s.query "SELECT 1" w).2.1.state = .connected ∧
      ¬ Settled ((Call.query "SELECT 1").exchanges s w) := by
  refine ⟨fresh "8.0.36", Scripted.ofAnswers
    [numberTable [0x78] (.union .autocommit .moreResults) ++ [[0, 0, 0, 2, 0, 0, 0]]], rfl, ?_, ?_⟩
  · decide +kernel
  · unfold Settled
    decide +kernel

/-- A request for the clear password while a session is cleared for an old server: the session waits
for its next command while the server waits for the password. -/
theorem reset_stranded :
    ∃ (s : Session) (w : Scripted), s.state = .connected ∧
      (s.reset w).2.1.state = .connected ∧ ¬ Settled (Call.reset.exchanges s w) := by
  refine ⟨fresh "5.6.1", Scripted.ofAnswers [[[1, 4]]], rfl, ?_, ?_⟩
  · decide +kernel
  · unfold Settled
    decide +kernel

end Session

end SqlWire
