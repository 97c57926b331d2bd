import SqlWire.Proofs.Session.Calls
import SqlWire.Proofs.Session.Exchanges

/-! # What a server grants that decides about databases

A server grants a command with a success as the last payload of its answer. Three commands decide which
database is selected: a choice, another login and a reset. `Ends` lists what a request may have been
granted when it ends with the session connected, and what the session counts as chosen then; a reset may
take two commands and so may end between them. `Phase` says how far a request has come, one lemma for
each turn carries it on, and `follow_grants` reaches the end of the request.
-/

namespace SqlWire

/-- What a client asks for that decides which database is selected. -/
inductive Selection where
  /-- A database is chosen. -/
  | choice (database : String)
  /-- The client logs in again, with a database or without one. -/
  | login (database : Option String)
  /-- The session is cleared. -/
  | reset
deriving DecidableEq

namespace Selection

/-- What a command asks for. A request to log in again has an empty name for no database. -/
def ofCommand? (command : Bytes) : Option Selection :=
  match command with
  | [] => none
  | tag :: rest =>
    match Command.ofTag tag with
    | .ok .selectDatabase => (Utf8.decode? rest).map choice
    | .ok .changeUser =>
      some (login (((UserChange.decode command).toOption.map (·.database)).filter (· != "")))
    | .ok .resetConnection => some reset
    | _ => none

theorem ofCommand?_selectDatabase (database : String) :
    ofCommand? (Command.encodeSelectDatabase database) = some (choice database) := by
  simp [Command.encodeSelectDatabase, ofCommand?]

theorem ofCommand?_userChange (u : UserChange) :
    ofCommand? u.encode =
      some (login (((UserChange.decode u.encode).toOption.map (·.database)).filter (· != ""))) := by
  have tagged : u.encode.head? = some Command.changeUser.tag := rfl
  obtain ⟨rest, first⟩ := List.head?_eq_some_iff.mp tagged
  rw [first]
  simp only [ofCommand?, Command.ofTag_tag]

theorem ofCommand?_query {command : Bytes} (tagged : command.head? = some Command.query.tag) :
    ofCommand? command = none := by
  obtain ⟨rest, rfl⟩ := List.head?_eq_some_iff.mp tagged
  simp only [ofCommand?, Command.ofTag_tag]

end Selection

namespace Exchange

/-- What the server has granted with the last payload of an answer. -/
def selection? (e : Exchange) : Option Selection :=
  if e.answer.getLast?.bind List.head? = some Reply.okHeader then Selection.ofCommand? e.command
  else none

theorem selection?_heard (e : Exchange) (payload : Bytes) :
    (e.heard payload).selection? =
      if payload.head? = some Reply.okHeader then Selection.ofCommand? e.command else none := by
  simp [selection?, heard]

end Exchange

/-- What the server has granted, the latest first. -/
def granted (log : List Exchange) : List Selection := log.filterMap Exchange.selection?

section heard

variable {e : Exchange} {earlier : List Exchange} {payload : Bytes}

theorem granted_cons (quiet : e.selection? = none) : granted (e :: earlier) = granted earlier :=
  List.filterMap_cons_none quiet

/-- A success grants what was asked for. -/
theorem granted_heard {selection : Selection} (ok : payload.head? = some Reply.okHeader)
    (asked : Selection.ofCommand? e.command = some selection) :
    granted (e.heard payload :: earlier) = selection :: granted earlier := by
  have told : (e.heard payload).selection? = some selection := by
    rw [Exchange.selection?_heard, if_pos ok, asked]
  exact List.filterMap_cons_some told

/-- Only a success grants anything. -/
theorem quiet_of_head (other : payload.head? ≠ some Reply.okHeader) :
    (e.heard payload).selection? = none := by
  rw [Exchange.selection?_heard, if_neg other]

/-- Nothing is granted to a command that asks for nothing. -/
theorem quiet_of_command (nothing : Selection.ofCommand? e.command = none) :
    (e.heard payload).selection? = none := by
  rw [Exchange.selection?_heard, nothing, ite_self]

/-- The connection does not survive a message that cannot be read. -/
theorem isConnection_of_unread {α : Type} {read : Except ProtocolError α} {cause : ClientError}
    (failed : read.mapError .protocol = .error cause) : cause.isConnection = true := by
  cases read with
  | ok _ => cases failed
  | error _ =>
    cases failed
    rfl

/-- A verdict that fails and that the connection survives is not on a success. -/
theorem Challenge.head?_of_error {c : Challenge} {cause : ClientError}
    (failed : c.verdict payload = .error cause) (usable : cause.isConnection = false) :
    payload.head? ≠ some Reply.okHeader := by
  rintro ok
  obtain ⟨rest, rfl⟩ := List.head?_eq_some_iff.mp ok
  simp only [Challenge.verdict, beq_self_eq_true, if_true] at failed
  cases read : (OkReply.decode (Reply.okHeader :: rest)).mapError ClientError.protocol with
  | ok reply =>
    rw [read] at failed
    cases failed
  | error unread =>
    rw [read] at failed
    cases failed
    exact Bool.noConfusion (usable.symm.trans (isConnection_of_unread read))

end heard

namespace Session

variable {ω : Type} [Network ω]

/-- A reply that fails and that the connection survives is not a success. -/
theorem head?_of_singleReply_error {payload : Bytes} {cause : ClientError}
    (failed : singleReply payload = .error cause) (usable : cause.isConnection = false) :
    payload.head? ≠ some Reply.okHeader := by
  rintro ok
  obtain ⟨rest, rfl⟩ := List.head?_eq_some_iff.mp ok
  simp only [singleReply, beq_self_eq_true, if_true] at failed
  exact Bool.noConfusion (usable.symm.trans (isConnection_of_unread failed))

theorem head?_of_singleReply_ok {payload : Bytes} {reply : OkReply}
    (told : singleReply payload = .ok reply) : payload.head? = some Reply.okHeader := by
  unfold singleReply at told
  split at told
  · cases told
  · next header rest =>
    split_ifs at told with ok
    exact congrArg some (beq_iff_eq.mp ok)

/-- What a request has been granted when it ends with the session connected, the latest first, and the
database that is chosen then. -/
inductive Ends (start : Session) : Request → Bool → List Selection → Option String → Prop where
  | unchanged (r : Request) (succeeded : Bool) : Ends start r succeeded [] start.databaseOverride
  | chosen (database : String) :
    Ends start (.selectDatabase database) true [.choice database] (some database)
  | loggedIn {database : Option String}
    (asked : Selection.ofCommand? start.userChange.encode = some (.login database)) :
    Ends start .reset true [.login database] none
  /-- Nothing was chosen, or nothing is configured that takes its place. -/
  | cleared (kept : start.databaseOverride = none ∨ start.config.database = none) :
    Ends start .reset true [.reset] none
  | restored {database : String} (configured : start.config.database = some database) :
    Ends start .reset true [.choice database, .reset] none
  /-- The server did not select the configured database again. -/
  | interrupted {database : String} (chosen : start.databaseOverride ≠ none)
    (configured : start.config.database = some database) : Ends start .reset false [.reset] none

/-- What the first command of a request asks for, by what the session waits for. -/
def Asks (start : Session) (r : Request) (command : Bytes) : Pending → Prop
  | .pong | .answer _ => Selection.ofCommand? command = none
  | .selected database =>
    r = .selectDatabase database ∧ Selection.ofCommand? command = some (.choice database)
  | .cleared => r = .reset ∧ Selection.ofCommand? command = some .reset
  | .verdict _ => r = .reset ∧ command = start.userChange.encode
  | .restored => False

/-- How far a request has come whose last command is not answered yet: what was granted before, and the
database that is chosen meanwhile. -/
inductive Phase (start : Session) (r : Request) (override : Option String) (earlier : List Exchange)
    (command : Bytes) : Pending → Prop where
  | first {pending : Pending} (nothing : granted earlier = [])
    (kept : override = start.databaseOverride) (asks : start.Asks r command pending) :
    Phase start r override earlier command pending
  | second {database : String} (request : r = .reset) (reset : granted earlier = [.reset])
    (forgotten : override = none) (chosen : start.databaseOverride ≠ none)
    (configured : start.config.database = some database)
    (asks : Selection.ofCommand? command = some (.choice database)) :
    Phase start r override earlier command .restored

/-- How a session stands to what a request has been granted. -/
def Grants (start : Session) (r : Request) (log : List Exchange) : Session × Turn → Prop
  | (s, .command payload pending) =>
    s.config = start.config ∧ start.Phase r s.databaseOverride log payload pending
  | (s, .reply _ pending) | (s, .wait pending) =>
    s.config = start.config ∧ ∃ e earlier, log = e :: earlier ∧ e.selection? = none ∧
      start.Phase r s.databaseOverride earlier e.command pending
  | (s, .finished outcome) =>
    s.config = start.config ∧ (s.state = .connected →
      start.Ends r outcome.isOk (granted log) s.databaseOverride)

section turns

variable {start s : Session} {r : Request} {e : Exchange} {log earlier : List Exchange}
  {pending : Pending}

theorem keeps_failed (s : Session) (pending : Pending) (cause : ClientError) :
    (s.failed pending cause).config = s.config ∧
      (s.failed pending cause).databaseOverride = s.databaseOverride := by
  unfold failed
  split
  · exact ⟨rfl, rfl⟩
  · split <;> exact ⟨rfl, rfl⟩

/-- A failure ends a request, unless the connection does not survive it. -/
theorem grants_fail {cause : ClientError} (known : s.config = start.config)
    (ends : cause.isConnection = false →
      start.Ends r false (granted log) s.databaseOverride) :
    Grants start r log (s.fail pending cause) := by
  obtain ⟨config, override⟩ := keeps_failed s pending cause
  refine ⟨config.trans known, fun connected => ?_⟩
  cases usable : cause.isConnection with
  | true =>
    change (s.failed pending cause).state = .connected at connected
    rw [failed_of_isConnection usable] at connected
    exact (state_broken_ne s connected).elim
  | false =>
    change start.Ends r false (granted log) (s.failed pending cause).databaseOverride
    rw [override]
    exact ends usable

theorem grants_command {payload : Bytes} (known : s.config = start.config)
    (phase : start.Phase r s.databaseOverride log payload pending) :
    Grants start r log (s.command payload pending) := by
  unfold command
  split
  · exact ⟨known, phase⟩
  · exact grants_fail known nofun

/-- What a request has been granted that ends before its last command is. -/
theorem Phase.unanswered {override : Option String} {command : Bytes}
    (phase : start.Phase r override earlier command pending) :
    start.Ends r false (granted earlier) override := by
  cases phase with
  | first nothing kept =>
    rw [nothing, kept]
    exact .unchanged r false
  | second request reset forgotten chosen configured =>
    rw [request, reset, forgotten]
    exact .interrupted chosen configured

/-- A single reply is a success, or the request ends before its last command is granted. -/
theorem grants_afterReply {payload : Bytes} {next : Session → Session × Turn}
    (known : s.config = start.config)
    (phase : start.Phase r s.databaseOverride earlier e.command pending)
    (onward : ∀ t : Session, t.config = start.config → t.databaseOverride = s.databaseOverride →
      payload.head? = some Reply.okHeader → Grants start r (e.heard payload :: earlier) (next t)) :
    Grants start r (e.heard payload :: earlier) (s.afterReply pending payload next) := by
  unfold afterReply
  cases told : singleReply payload with
  | error cause =>
    apply grants_fail known
    intro usable
    rw [granted_cons (quiet_of_head (head?_of_singleReply_error told usable))]
    exact phase.unanswered
  | ok reply => exact onward (s.succeed reply) known rfl (head?_of_singleReply_ok told)

/-- After a reset the configured database is chosen again where another was. -/
theorem grants_afterReset (known : s.config = start.config)
    (kept : s.databaseOverride = start.databaseOverride) (reset : granted log = [.reset]) :
    Grants start .reset log s.afterReset := by
  unfold afterReset
  split
  · next unset =>
    refine ⟨known, fun _ => ?_⟩
    rw [reset, unset]
    exact .cleared (.inl (kept ▸ unset))
  · next unconfigured =>
    refine ⟨known, fun _ => ?_⟩
    rw [reset]
    exact .cleared (.inr (known ▸ unconfigured))
  · next chosen configured =>
    have some : start.databaseOverride ≠ none := by
      rw [← kept, chosen]
      exact Option.some_ne_none _
    exact grants_command (s := { s with databaseOverride := none }) known
      (.second rfl reset rfl some (known ▸ configured) (Selection.ofCommand?_selectDatabase _))

/-- A payload that a session takes carries its request on, or ends it. -/
theorem grants_take (known : s.config = start.config)
    (phase : start.Phase r s.databaseOverride earlier e.command pending) (payload : Bytes) :
    Grants start r (e.heard payload :: earlier) (s.take payload pending) := by
  have waiting := phase
  cases phase with
  | second request reset forgotten chosen configured asks =>
    simp only [take]
    apply grants_afterReply known waiting
    intro t known' kept ok
    refine ⟨known', fun _ => ?_⟩
    change start.Ends r true _ t.databaseOverride
    rw [granted_heard ok asks, reset, kept, forgotten, request]
    exact .restored configured
  | first nothing kept asks =>
    cases pending with
    | restored => exact asks.elim
    | pong =>
      simp only [take]
      apply grants_afterReply known waiting
      intro t known' kept' _
      refine ⟨known', fun _ => ?_⟩
      change start.Ends r true _ t.databaseOverride
      rw [granted_cons (quiet_of_command asks), nothing, kept', kept]
      exact .unchanged r true
    | selected database =>
      obtain ⟨rfl, asked⟩ := asks
      simp only [take]
      apply grants_afterReply known waiting
      intro t known' _ ok
      refine ⟨known', fun _ => ?_⟩
      rw [granted_heard ok asked, nothing]
      exact .chosen database
    | cleared =>
      obtain ⟨rfl, asked⟩ := asks
      simp only [take]
      apply grants_afterReply known waiting
      intro t known' kept' ok
      apply grants_afterReset known' (kept'.trans kept)
      rw [granted_heard ok asked, nothing]
    | verdict challenge =>
      obtain ⟨rfl, sent⟩ := asks
      have waits (quiet : payload.head? ≠ some Reply.okHeader) (c : Challenge) :
          ∃ e' earlier', e.heard payload :: earlier = e' :: earlier' ∧ e'.selection? = none ∧
            start.Phase .reset s.databaseOverride earlier' e'.command (.verdict c) :=
        ⟨_, _, rfl, quiet_of_head quiet, .first nothing kept ⟨rfl, sent⟩⟩
      simp only [take]
      cases told : challenge.verdict payload with
      | error cause =>
        apply grants_fail known
        intro usable
        rw [granted_cons (quiet_of_head (Challenge.head?_of_error told usable)), nothing, kept]
        exact .unchanged .reset false
      | ok verdict =>
        obtain ⟨reply, rfl, ok, -⟩ | ⟨request, next, rfl, switch, -⟩ | ⟨rfl, more, read, -⟩ :=
          Challenge.verdict_cases told
        · have asked := sent ▸ Selection.ofCommand?_userChange start.userChange
          refine ⟨known, fun _ => ?_⟩
          rw [granted_heard ok asked, nothing]
          exact .loggedIn (sent ▸ asked)
        · refine ⟨known, waits ?_ next⟩
          rw [Challenge.head?_of_switch switch]
          decide
        · refine ⟨known, waits ?_ challenge⟩
          rw [Challenge.head?_of_more read]
          decide
    | answer reader =>
      have quiet : (e.heard payload).selection? = none := quiet_of_command asks
      have rest : granted (e.heard payload :: earlier) = [] := (granted_cons quiet).trans nothing
      simp only [take]
      generalize reader.step payload = taken
      obtain ⟨reader, step⟩ := taken
      cases step with
      | more | decline => exact ⟨known, _, _, rfl, quiet, .first nothing kept asks⟩
      | complete =>
        refine ⟨known, fun _ => ?_⟩
        change start.Ends r true _ s.databaseOverride
        rw [rest, kept]
        exact .unchanged r true
      | failed cause =>
        refine grants_fail (s := { s with status := reader.status }) known fun _ => ?_
        change start.Ends r false _ s.databaseOverride
        rw [rest, kept]
        exact .unchanged r false

/-- A session stands to what a request has been granted at the end of the request too. -/
theorem follow_grants (turns : Nat) (x : Session × Turn) (w : ω) (log : List Exchange)
    (grants : Grants start r log x) :
    Grants start r (transcript turns x w log)
      ((follow turns x w).2.1, .finished (follow turns x w).1) := by
  refine follow_invariant ?sent ?replied ?told ?lost ?late ?closing turns x w log grants
  case sent =>
    rintro log s payload pending link ⟨known, phase⟩
    exact ⟨known, _, _, rfl, rfl, phase⟩
  case replied =>
    intro _ _ _ _ _ grants
    exact grants
  case told =>
    rintro _ s pending payload link ⟨known, e, earlier, rfl, _, phase⟩
    exact grants_take (s := { s with link }) known phase payload
  case lost =>
    rintro _ s pending cause link ⟨known, _⟩
    refine grants_fail (s := { s with link }) known fun usable => ?_
    exact Bool.noConfusion (usable.symm.trans (isConnection_ofChannel cause))
  case late =>
    rintro log s payload pending (⟨known, _⟩ | ⟨known, _⟩) <;> exact grants_fail known nofun
  case closing =>
    intro _ _ _ grants
    exact grants

/-- The first turn of what a call asks for. -/
theorem Call.grants_begin {c : Call} (asked : c.request s = .ok r) : Grants s r [] (s.begin r) := by
  have statement (payload : Bytes) (tagged : payload.head? = some Command.query.tag) :
      Grants s (.statement payload) [] (s.begin (.statement payload)) :=
    grants_command rfl (.first rfl rfl (Selection.ofCommand?_query tagged))
  cases c with
  | execute sql | query sql | queryMultiple sql =>
    cases asked
    exact statement _ rfl
  | executeWith sql ps | queryWith sql ps =>
    obtain ⟨payload, made, rfl⟩ := exists_of_map_bind asked
    exact statement payload (head?_bind made)
  | changeDatabase database =>
    cases asked
    exact grants_command rfl (.first rfl rfl ⟨rfl, Selection.ofCommand?_selectDatabase database⟩)
  | ping =>
    cases asked
    exact grants_command rfl (.first rfl rfl rfl)
  | reset =>
    cases asked
    simp only [begin]
    split_ifs
    · exact grants_command rfl (.first rfl rfl ⟨rfl, rfl⟩)
    · exact grants_command rfl (.first rfl rfl ⟨rfl, rfl⟩)

end turns

end Session

end SqlWire
