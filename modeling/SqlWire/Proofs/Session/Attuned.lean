import SqlWire.Proofs.Session.Calls
import SqlWire.Proofs.Session.Negotiation
import SqlWire.Proofs.Standin.Answering

/-! # Sessions with a stand-in

A session is attuned to a stand-in if the stand-in has let it in and still knows the challenge that the
session remembers. The stand-in grants all of its requests but statements, a reset on an old server too
(`Attuned.reset`), and a statement it answers as it was told to. If each statement has a whole answer,
the session stays attuned whatever it is asked to do (`Attuned.call`).
-/

namespace SqlWire

open Standin

theorem AuthPlugin.requiresSecureTransport_nativePassword :
    requiresSecureTransport .nativePassword = false := rfl

/-- The challenge of a server that stores double digests. -/
def Challenge.native (nonce : Bytes) : Challenge :=
  ⟨.nativePassword, nonce, AuthPlugin.requiresSecureTransport_nativePassword⟩

theorem Duration.pos_of_mem_nonZero? {d left : Duration} (member : left ∈ d.nonZero?) :
    0 < left.nanos := by
  unfold nonZero? at member
  split_ifs at member with empty
  · cases member
  · cases member
    simp only [isZero, beq_iff_eq] at empty
    omega

namespace Standin

/-- The stand-in lets in the user that it knows with the response to its nonce. -/
theorem ServerConfig.verify_native (server : ServerConfig) (nonce : Bytes) :
    server.verify server.credentials.username
      ((Challenge.native nonce).response server.credentials.password) nonce = true := by
  simp [verify, Challenge.native, Challenge.response, Scramble.verifyNative]

/-- Whether a reaction does nothing but say that a command has succeeded. -/
structure Reaction.Grants (r : Reaction) (h : Handler) (status : Status) : Prop where
  handler : r.handler = h
  replies : r.replies = [Response.okPayload 0 0 status]
  pause : r.pause = none

namespace Handler

variable (server : ServerConfig) (h : Handler) (pausing : List UInt32)

theorem grants_ping : (h.takeCommand server pausing Command.ping.encode).Grants h server.status :=
  ⟨rfl, rfl, rfl⟩

theorem grants_selectDatabase (database : String) :
    (h.takeCommand server pausing (Command.encodeSelectDatabase database)).Grants h server.status :=
  ⟨rfl, rfl, rfl⟩

theorem grants_resetConnection :
    (h.takeCommand server pausing Command.resetConnection.encode).Grants h server.status :=
  ⟨rfl, rfl, rfl⟩

theorem grants_changeUser {u : UserChange} (read : UserChange.decode u.encode = .ok u)
    (verified : server.verify u.username u.response h.nonce = true) :
    (h.takeCommand server pausing u.encode).Grants h server.status := by
  obtain ⟨rest, first⟩ : ∃ rest, u.encode = UserChange.tag :: rest := ⟨_, rfl⟩
  have command : Command.ofTag UserChange.tag = .ok .changeUser := rfl
  rw [first] at read ⊢
  simp only [takeCommand, command, read, verified, if_true]
  exact ⟨rfl, rfl, rfl⟩

end Handler

end Standin

namespace Session

/-- A session that a stand-in serves which knows its challenge, and that has nothing to receive. -/
structure Attuned (server : ServerConfig) (s : Session) (w : World) : Prop where
  credentials : s.config.credentials = server.credentials
  username : 0 ∉ Utf8.encode s.config.credentials.username
  database : ∀ name ∈ s.config.database, 0 ∉ Utf8.encode name
  peer : ∃ h : Handler, h.stage = .serving ∧ s.challenge = .native h.nonce ∧
    s.link.Brings w server h []

variable {server : ServerConfig} {s : Session} {w : World} {h : Handler}

/-- The request to log in again is granted by a stand-in that knows the challenge. -/
theorem grants_userChange (credentials : s.config.credentials = server.credentials)
    (challenge : s.challenge = .native h.nonce)
    (username : 0 ∉ Utf8.encode s.config.credentials.username)
    (database : ∀ name ∈ s.config.database, 0 ∉ Utf8.encode name) (pausing : List UInt32) :
    (h.takeCommand server pausing s.userChange.encode).Grants h server.status := by
  have response : s.userChange.response =
      (Challenge.native h.nonce).response server.credentials.password := by
    rw [← credentials, ← challenge]
    rfl
  apply Handler.grants_changeUser
  · exact UserChange.decode_encode (isRegular_userChange username database)
  · rw [response, show s.userChange.username = server.credentials.username by rw [← credentials]; rfl]
    exact server.verify_native h.nonce

/-- A command is sent and all that the stand-in replies is received. -/
theorem follow_command (serving : h.stage = .serving) (rests : s.link.Brings w server h [])
    (payload : Bytes) (pending : Pending) (prompt : ∀ pausing,
      (h.takeCommand server pausing payload).IsPrompt s.config.commandTimeout.nonZero?) :
    ∃ pausing l₁ w₁ l₂ w₂, (∀ turns, follow (turns + 1) (s, .command payload pending) w =
        follow turns ({ s with link := l₁ }, .wait pending) w₁) ∧
      l₁.Receives w₁ (h.takeCommand server pausing payload).replies l₂ w₂ ∧
      l₂.Brings w₂ server (h.takeCommand server pausing payload).handler [] := by
  have inTime : ∀ left ∈ s.config.commandTimeout.nonZero?, 0 < left.nanos := by
    intro left member
    exact Nat.lt_of_le_of_lt (Nat.zero_le _) ((prompt []).2 left member)
  obtain ⟨pausing, l₁, w₁, l₂, w₂, sent, received, rests⟩ :=
    rests.command serving inTime payload prompt
  refine ⟨pausing, l₁, w₁, l₂, w₂, fun turns => ?_, received, rests⟩
  simp only [follow, sent]

namespace Attuned

theorem withBudget (attuned : Attuned server s w) : Attuned server (s.withBudget none) w := by
  obtain ⟨credentials, username, database, h, serving, known, rests⟩ := attuned
  exact ⟨credentials, username, database, h, serving, known, rests.withoutBudget⟩

/-- What a session waits for does not matter to a stand-in. -/
theorem withState (attuned : Attuned server s w) (state : SessionState) :
    Attuned server { s with state } w :=
  ⟨attuned.credentials, attuned.username, attuned.database, attuned.peer⟩

theorem succeed (attuned : Attuned server s w) (reply : OkReply) :
    Attuned server (s.succeed reply) w :=
  ⟨attuned.credentials, attuned.username, attuned.database, attuned.peer⟩

theorem withDatabase (attuned : Attuned server s w) (database : Option String) :
    Attuned server { s with databaseOverride := database } w :=
  ⟨attuned.credentials, attuned.username, attuned.database, attuned.peer⟩

end Attuned

theorem state_succeed (busy : s.state = .querying) (reply : OkReply) :
    (s.succeed reply).state = .connected :=
  state_settled (s := { s with status := reply.status }) busy

/-- The status that a stand-in tells with a success. -/
def granting (server : ServerConfig) : OkReply := ⟨0, 0, .ofBits server.status.bits, 0, ""⟩

theorem decode_okPayload (server : ServerConfig) :
    OkReply.decode (Response.okPayload 0 0 server.status) = .ok (granting server) :=
  OkReply.decode_encode _

theorem singleReply_okPayload :
    singleReply (Response.okPayload 0 0 server.status) = .ok (granting server) := by
  have told := decode_okPayload server
  obtain ⟨rest, first⟩ : ∃ rest, Response.okPayload 0 0 server.status = Reply.okHeader :: rest :=
    ⟨_, rfl⟩
  rw [first] at told ⊢
  simp only [singleReply, beq_self_eq_true, if_true, told]
  rfl

theorem verdict_okPayload (c : Challenge) :
    c.verdict (Response.okPayload 0 0 server.status) = .ok (.accepted (granting server)) := by
  have told := decode_okPayload server
  obtain ⟨rest, first⟩ : ∃ rest, Response.okPayload 0 0 server.status = Reply.okHeader :: rest :=
    ⟨_, rfl⟩
  rw [first] at told ⊢
  simp only [Challenge.verdict, beq_self_eq_true, if_true, told]
  rfl

/-- A command that is granted is over with the next payload. -/
theorem Attuned.follow_granted (attuned : Attuned server s w) {payload : Bytes}
    (granted : ∀ (h : Handler) pausing, s.challenge = .native h.nonce →
      (h.takeCommand server pausing payload).Grants h server.status) (pending : Pending) :
    ∃ link w', (∀ turns, follow (turns + 2) (s, .command payload pending) w =
        follow turns ({ s with link }.take (Response.okPayload 0 0 server.status) pending) w') ∧
      Attuned server { s with link } w' := by
  obtain ⟨credentials, username, database, h, serving, known, rests⟩ := attuned
  have prompt (pausing : List UInt32) :
      (h.takeCommand server pausing payload).IsPrompt s.config.commandTimeout.nonZero? := by
    obtain ⟨_, replies, pause⟩ := granted h pausing known
    refine ⟨by simp [replies], ?_⟩
    intro left member
    rw [pause]
    exact Duration.pos_of_mem_nonZero? member
  obtain ⟨pausing, l₁, w₁, l₂, w₂, followed, received, rests⟩ :=
    follow_command serving rests payload pending prompt
  obtain ⟨handler, replies, _⟩ := granted h pausing known
  rw [replies] at received
  rw [handler] at rests
  cases received with
  | more got none =>
    cases none
    refine ⟨l₂, w₂, fun turns => ?_, credentials, username, database, h, serving, known, rests⟩
    rw [followed]
    simp only [follow, got, resume]

/-- A request that has succeeded and after which the session can go on. -/
def IsGranted (server : ServerConfig) :
    Except ClientError (List ResultSet) × Session × World → Prop
  | (outcome, s, w) => outcome.isOk = true ∧ s.state = .connected ∧ Attuned server s w

theorem Attuned.isGranted (attuned : Attuned server s w) (connected : s.state = .connected)
    (turns : Nat) : IsGranted server (follow turns (s, .finished (.ok [])) w) := by
  rw [follow_finished]
  exact ⟨rfl, connected, attuned.withBudget⟩

/-- A connected session sends a command. -/
theorem command_connected (connected : s.state = .connected) (payload : Bytes) (pending : Pending) :
    s.command payload pending = ({ s with state := .querying }, .command payload pending) := by
  simp only [command, connected]

/-- What follows a reply that says that a command has succeeded. -/
theorem afterReply_okPayload (pending : Pending) (next : Session → Session × Turn) :
    s.afterReply pending (Response.okPayload 0 0 server.status) next =
      next (s.succeed (granting server)) := by
  rw [afterReply, singleReply_okPayload]

/-- A command that is granted goes on with its only reply. -/
theorem Attuned.isGranted_command (attuned : Attuned server s w) (connected : s.state = .connected)
    {payload : Bytes} (granted : ∀ (h : Handler) pausing, s.challenge = .native h.nonce →
      (h.takeCommand server pausing payload).Grants h server.status) {pending : Pending} (turns : Nat)
    (onward : ∀ (t : Session) w, t.state = .querying → t.challenge = s.challenge →
      Attuned server t w → IsGranted server
        (follow turns (t.take (Response.okPayload 0 0 server.status) pending) w)) :
    IsGranted server (follow (turns + 2) (s.command payload pending) w) := by
  obtain ⟨link, w', followed, later⟩ :=
    (attuned.withState .querying).follow_granted granted pending
  rw [command_connected connected, followed]
  exact onward { s with state := .querying, link } w' rfl rfl later

theorem Attuned.ping (attuned : Attuned server s w) (connected : s.state = .connected) :
    IsGranted server (s.ask .ping w) := by
  refine attuned.isGranted_command connected (fun h pausing _ => h.grants_ping server pausing)
    999999998 ?_
  intro t w busy _ attuned
  rw [take, afterReply_okPayload]
  exact (attuned.succeed _).isGranted (state_succeed busy _) _

theorem Attuned.selectDatabase (attuned : Attuned server s w) (connected : s.state = .connected)
    (database : String) : IsGranted server (s.ask (.selectDatabase database) w) := by
  refine attuned.isGranted_command connected
    (fun h pausing _ => h.grants_selectDatabase server pausing database) 999999998 ?_
  intro t w busy _ attuned
  rw [take, afterReply_okPayload]
  exact ((attuned.succeed _).withDatabase (some database)).isGranted (state_succeed busy _) _

/-- After a reset the configured database is selected again if another one was. -/
theorem Attuned.isGranted_afterReset (attuned : Attuned server s w) (connected : s.state = .connected)
    (turns : Nat) : IsGranted server (follow (turns + 2) s.afterReset w) := by
  unfold afterReset
  split
  · exact attuned.isGranted connected _
  · exact (attuned.withDatabase none).isGranted connected _
  · next _ database _ _ =>
    refine (attuned.withDatabase none).isGranted_command connected
      (fun h pausing _ => h.grants_selectDatabase server pausing database) turns ?_
    intro t w busy _ attuned
    rw [take, afterReply_okPayload]
    exact (attuned.succeed _).isGranted (state_succeed busy _) _

/-- A reset is granted, on an old server too. -/
theorem Attuned.reset (attuned : Attuned server s w) (connected : s.state = .connected) :
    IsGranted server (s.ask .reset w) := by
  rw [ask, begin]
  split
  · refine attuned.isGranted_command connected
      (fun h pausing _ => h.grants_resetConnection server pausing) 999999998 ?_
    intro t w busy _ attuned
    rw [take, afterReply_okPayload]
    exact (attuned.succeed _).isGranted_afterReset (state_succeed busy _) 999999996
  · refine attuned.isGranted_command connected (fun h pausing known =>
      grants_userChange attuned.credentials known attuned.username attuned.database pausing)
      999999998 ?_
    intro t w busy same attuned
    rw [take, verdict_okPayload, ← same]
    exact ((attuned.succeed _).withDatabase none).isGranted (state_succeed busy _) _

/-- The last payload of an answer after which a session can go on. -/
theorem follow_last {r last : AnswerReader} {payload : Bytes} {step : AnswerReader.Step}
    (one : r.step payload = (last, step)) (ends : step.IsLast) {link : Link} {w' : World}
    (got : s.link.receive w = (.ok payload, link, w')) (turns : Nat) :
    (follow (turns + 1) (s, .wait (.answer r)) w).2 =
      (({ s with link, status := last.status }.settled).withBudget none, w') := by
  cases step with
  | complete => simp only [follow, got, resume, take, one, follow_finished]
  | failed cause =>
    have told : cause.isConnection = false := ends
    simp only [follow, got, resume, take, one, fail, failed, told, follow_finished,
      Bool.false_eq_true, if_false]
  | _ => exact ends.elim

/-- A statement that is answered leaves the session attuned. -/
theorem Attuned.statement (attuned : Attuned server s w) (connected : s.state = .connected)
    {payload : Bytes} (answered : ∀ h pausing,
      server.Answers s.config.commandTimeout.nonZero? payload h pausing) :
    (s.ask (.statement payload) w).2.1.state = .connected ∧
      Attuned server (s.ask (.statement payload) w).2.1 (s.ask (.statement payload) w).2.2 := by
  obtain ⟨h, serving, known, rests⟩ := attuned.peer
  obtain ⟨pausing, l₁, w₁, l₂, w₂, followed, received, rests⟩ :=
    follow_command (s := { s with state := .querying }) serving rests payload
      (.answer (.start s.status)) fun pausing => (answered h pausing).prompt
  obtain ⟨stays, prompt, short, whole⟩ := answered h pausing
  obtain ⟨last, step, ends, before, final, place, replies, reads, one⟩ := whole s.status
  rw [stays] at rests
  rw [replies] at received short
  obtain ⟨l, w', first, rest⟩ := received.split
  cases rest with
  | more got none =>
    cases none
    obtain ⟨spare, enough⟩ : ∃ spare, patience = before.length + (spare + 1) + 1 := by
      rw [List.length_append, List.length_singleton] at short
      exact ⟨patience - before.length - 2, by omega⟩
    have ended : (s.ask (.statement payload) w).2 =
        (({ s with state := .querying, link := l₂, status := last.status }.settled).withBudget none,
          w₂) := by
      rw [ask, begin, command_connected connected, enough, followed,
        follow_reads (s := { s with state := .querying, link := l₁ }) reads rfl first]
      exact follow_last one ends got spare
    rw [ended]
    exact ⟨rfl, attuned.credentials, attuned.username, attuned.database, h, serving, known,
      rests.withoutBudget⟩

/-- Whether a call is one whose statement, if it has one, is answered. -/
def Call.IsAnswered (server : ServerConfig) (s : Session) (c : Call) : Prop :=
  ∀ payload, c.request s = .ok (.statement payload) → ∀ h pausing,
    server.Answers s.config.commandTimeout.nonZero? payload h pausing

/-- A call is answered if the stand-in knows what to do about its statement. -/
theorem Call.isAnswered (last : server.status.contains .moreResults = false) {c : Call}
    (known : ∀ body, c.request s = .ok (.statement (Command.query.tag :: body)) →
      server.Knows s.config.commandTimeout.nonZero? (trim (Utf8.decodeLossy body).toList)) :
    c.IsAnswered server s := by
  intro payload asked h pausing
  have tagged : payload.head? = some Command.query.tag := by
    cases c with
    | execute | query | queryMultiple =>
      cases asked
      rfl
    | executeWith | queryWith =>
      obtain ⟨_, made, same⟩ := Call.exists_of_map_bind asked
      cases same
      exact head?_bind made
    | _ => cases asked
  obtain ⟨body, rfl⟩ := List.head?_eq_some_iff.mp tagged
  exact ServerConfig.answers_statement last (known body asked) fun _ => Duration.pos_of_mem_nonZero?

/-- Whatever a session is asked to do, it stays connected and attuned if its statements are answered. -/
theorem Attuned.call (attuned : Attuned server s w) (connected : s.state = .connected) {c : Call}
    (answered : c.IsAnswered server s) :
    (c.run s w).2.1.state = .connected ∧ Attuned server (c.run s w).2.1 (c.run s w).2.2 := by
  cases asked : c.request s with
  | error cause =>
    rw [Call.run_error asked]
    exact ⟨connected, attuned⟩
  | ok r =>
    rw [(Call.run_ok asked w).1]
    cases r with
    | ping => exact (attuned.ping connected).2
    | selectDatabase database => exact (attuned.selectDatabase connected database).2
    | reset => exact (attuned.reset connected).2
    | statement payload => exact attuned.statement connected (answered payload asked)

/-- What calls lead to whose statements are answered, with any time between them. -/
inductive Leads (server : ServerConfig) : Session → World → Session → World → Prop where
  | start (s : Session) (w : World) : Leads server s w s w
  | call {s s' : Session} {w w' : World} (led : Leads server s w s' w') (c : Call)
    (answered : c.IsAnswered server s') : Leads server s w (c.run s' w').2.1 (c.run s' w').2.2
  | wait {s s' : Session} {w w' : World} (led : Leads server s w s' w') (time : Duration) :
    Leads server s w s' (Network.wait time w')

/-- A session stays attuned. -/
theorem Leads.attuned {s s' : Session} {w w' : World} (led : Leads server s w s' w')
    (connected : s.state = .connected) (attuned : Attuned server s w) :
    s'.state = .connected ∧ Attuned server s' w' := by
  induction led with
  | start => exact ⟨connected, attuned⟩
  | call led c answered ih =>
    obtain ⟨connected, attuned⟩ := ih attuned
    exact attuned.call connected answered
  | wait led time ih =>
    obtain ⟨connected, credentials, username, database, h, serving, known, rests⟩ :=
      ih attuned
    exact ⟨connected, credentials, username, database, h, serving, known, rests.wait time⟩

end Session

end SqlWire
