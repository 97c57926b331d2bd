import SqlWire.Proofs.Session.Exchanges
import SqlWire.Proofs.Session.Negotiation
import SqlWire.Proofs.Session.Use
import SqlWire.Session.Connect

/-! # Conversations in which a client authenticates

A client authenticates when it opens a session and, on an old server, whenever it resets one. What is
said then follows the turns of `followOpening` and of `follow`. Both go on as an exchange
(`exchanged_opening`, `exchanged_wait`), the one behind a login that answers the greeting
(`opening_conversation`), the other behind a request to log in again (`reset_conversation`).
-/

namespace SqlWire

/-- What follows a verdict. -/
theorem Opening.step_answered (config : Config) (payload : Bytes) (greeting : Greeting)
    (capabilities : Capabilities) (c : Challenge) :
    step config payload (.answered greeting capabilities c) =
      (c.verdict payload).map fun
        | .accepted reply => .opened ⟨greeting.serverVersion, greeting.connectionId, capabilities,
            reply.status, c⟩
        | .again next => .send (next.response config.credentials.password)
            (.answered greeting capabilities next)
        | .pending => .wait (.answered greeting capabilities c) := by
  rw [step]
  cases c.verdict payload with
  | error cause => rfl
  | ok verdict => cases verdict <;> rfl

/-- Whether a client goes on after a greeting, and with which challenge, is for the server to say. -/
theorem Opening.greet_cases (payload : Bytes) :
    (∃ cause, ∀ config, greet config payload = .error cause) ∨
    ∃ greeting c, Greeting.decode payload = .ok greeting ∧
      Challenge.ofName greeting.plugin greeting.nonce = .ok c ∧
      ∀ config, greet config payload = .ok (.send (loginFor config greeting c).encode
        (.answered greeting (loginFor config greeting c).capabilities c)) := by
  unfold greet
  by_cases error : Reply.isError payload = true
  · left
    simp only [error, if_true]
    exact ⟨_, fun _ => rfl⟩
  · simp only [error]
    cases read : Greeting.decode payload with
    | error cause => exact .inl ⟨_, fun _ => rfl⟩
    | ok greeting =>
      simp only [Except.mapError, bind, Except.bind, Bool.false_eq_true, if_false]
      split
      · exact .inl ⟨_, fun _ => rfl⟩
      · cases named : Challenge.ofName greeting.plugin greeting.nonce with
          | error cause => exact .inl ⟨_, fun _ => rfl⟩
          | ok c => exact .inr ⟨greeting, c, rfl, named, fun _ => rfl⟩

namespace Session

variable {ω : Type} [Network ω]

/-- What is heard and sent while a session is opened. The turns are those of `followOpening`. -/
def saidOpening (config : Config) : Nat → Opening → Link → ω → List Said
  | 0, _, _, _ => []
  | turns + 1, opening, l, w =>
    match l.receive w with
    | (.error _, _, _) => []
    | (.ok payload, l, w) =>
      .heard payload ::
        match opening.step config payload with
        | .error _ | .ok (.opened _) => []
        | .ok (.wait next) => saidOpening config turns next l w
        | .ok (.send payload next) =>
          .sent payload ::
            match l.send payload w with
            | (.error _, _, _) => []
            | (.ok (), l, w) => saidOpening config turns next l w

/-- What is heard and sent while a request runs. The turns are those of `follow`. -/
def said : Nat → Session × Turn → ω → List Said
  | _, (_, .finished _), _ => []
  | 0, _, _ => []
  | turns + 1, (s, .command payload pending), w =>
    .sent payload ::
      match (s.link.withBudget s.config.commandTimeout.nonZero?).command payload w with
      | (.ok (), link, w) => said turns ({ s with link }, .wait pending) w
      | (.error cause, link, w) => said turns ({ s with link }.resume pending (.error cause)) w
  | turns + 1, (s, .reply payload pending), w =>
    .sent payload ::
      match s.link.send payload w with
      | (.ok (), link, w) => said turns ({ s with link }, .wait pending) w
      | (.error cause, link, w) => said turns ({ s with link }.resume pending (.error cause)) w
  | turns + 1, (s, .wait pending), w =>
    match s.link.receive w with
    | (.ok payload, link, w) =>
      .heard payload :: said turns ({ s with link }.resume pending (.ok payload)) w
    | (.error cause, link, w) => said turns ({ s with link }.resume pending (.error cause)) w

theorem exchanged_opening (config : Config) (turns : Nat) (greeting : Greeting)
    (capabilities : Capabilities) (c : Challenge) (l : Link) (w : ω) :
    Exchanged config.credentials.password c
      (saidOpening config turns (.answered greeting capabilities c) l w)
      ((followOpening config turns (.answered greeting capabilities c) l w).1.toOption.map
        (·.challenge)) := by
  induction turns generalizing c l w with
  | zero => exact .silence c
  | succ turns ih =>
    simp only [saidOpening, followOpening]
    obtain ⟨result, link, w'⟩ := l.receive w
    cases result with
    | error cause => exact .silence c
    | ok payload =>
      simp only [Opening.step_answered]
      cases told : c.verdict payload with
      | error cause => exact .stopped c payload
      | ok verdict =>
        cases verdict with
        | accepted reply => exact .accepted told
        | again next =>
          simp only [Except.map]
          obtain ⟨result, link, w'⟩ := link.send (next.response config.credentials.password) w'
          cases result with
          | error cause => exact .again told (.silence next)
          | ok => exact .again told (ih next link w')
        | pending => exact .pending told (ih c link w')

@[simp] theorem said_finished (turns : Nat) (s : Session)
    (outcome : Except ClientError (List ResultSet)) (w : ω) :
    said turns (s, .finished outcome) w = [] := by
  cases turns <;> rfl

/-- The challenge with which a request has ended well. -/
def accepted? : Except ClientError (List ResultSet) × Session × ω → Option Challenge
  | (.ok _, s, _) => some s.challenge
  | (.error _, _, _) => none

/-- A response that is sent goes on with the exchange; without turns it is not sent. -/
theorem exchanged_reply {turns : Nat} {s : Session} {p : Bytes} {c : Challenge} {w : ω}
    (onward : ∀ (link : Link) (w' : ω), Exchanged s.config.credentials.password c
      (said turns ({ s with link }, .wait (.verdict c)) w')
      (accepted? (follow turns ({ s with link }, .wait (.verdict c)) w'))) :
    ∃ rest, said (turns + 1) (s, .reply p (.verdict c)) w = .sent p :: rest ∧
      Exchanged s.config.credentials.password c rest
        (accepted? (follow (turns + 1) (s, .reply p (.verdict c)) w)) := by
  simp only [said, follow]
  obtain ⟨result, link, w'⟩ := s.link.send p w
  cases result with
  | ok => exact ⟨_, rfl, onward link w'⟩
  | error cause =>
    refine ⟨_, rfl, ?_⟩
    simp only [resume, fail, follow_finished, said_finished]
    exact .silence c

theorem exchanged_wait (turns : Nat) (s : Session) (c : Challenge) (w : ω) :
    Exchanged s.config.credentials.password c (said turns (s, .wait (.verdict c)) w)
      (accepted? (follow turns (s, .wait (.verdict c)) w)) := by
  induction turns using Nat.strong_induction_on generalizing s c w with
  | _ turns ih =>
    cases turns with
    | zero => exact .silence c
    | succ turns =>
      simp only [said, follow]
      obtain ⟨result, link, w'⟩ := s.link.receive w
      cases result with
      | error cause =>
        simp only [resume, fail, follow_finished, said_finished]
        exact .silence c
      | ok payload =>
        simp only [resume, take]
        cases told : c.verdict payload with
        | error cause =>
          simp only [fail, follow_finished, said_finished]
          exact .stopped c payload
        | ok verdict =>
          cases verdict with
          | accepted reply =>
            simp only [finish, follow_finished, said_finished]
            exact .accepted told
          | pending => exact .pending told (ih turns (Nat.lt_succ_self _) { s with link } c w')
          | again next =>
            cases turns with
            | zero => exact .stopped c payload
            | succ turns =>
              obtain ⟨rest, sent, others⟩ := exchanged_reply (s := { s with link }) (w := w')
                (p := next.response s.config.credentials.password) fun link w =>
                  ih turns (by omega) { s with link } next w
              simp only [sent]
              exact .again told others

/-- The login carries the response to the challenge of the greeting. -/
theorem response_loginFor (config : Config) (greeting : Greeting) (c : Challenge) :
    (Opening.loginFor config greeting c).response = c.response config.credentials.password := by
  rw [Opening.loginFor_eq]

/-- Either nothing is sent and no session is opened, or one login answers the greeting and an exchange
follows. -/
theorem opening_conversation (config : Config) (turns : Nat) (l : Link) (w : ω) :
    (∀ payload, .sent payload ∉ saidOpening config turns .start l w) ∧
      (followOpening config turns .start l w).1.isOk = false ∨
    ∃ payload greeting c rest, Greeting.decode payload = .ok greeting ∧
      Challenge.ofName greeting.plugin greeting.nonce = .ok c ∧
      saidOpening config turns .start l w =
        .heard payload :: .sent (Opening.loginFor config greeting c).encode :: rest ∧
      Exchanged config.credentials.password c rest
        ((followOpening config turns .start l w).1.toOption.map (·.challenge)) := by
  cases turns with
  | zero => exact .inl ⟨nofun, rfl⟩
  | succ turns =>
    simp only [saidOpening, followOpening, Opening.step]
    obtain ⟨result, link, w'⟩ := l.receive w
    cases result with
    | error cause => exact .inl ⟨nofun, rfl⟩
    | ok payload =>
      obtain ⟨cause, failed⟩ | ⟨greeting, c, read, named, answered⟩ := Opening.greet_cases payload
      · simp only [failed]
        exact .inl ⟨by simp, rfl⟩
      · simp only [answered]
        obtain ⟨result, link, w'⟩ := link.send (Opening.loginFor config greeting c).encode w'
        refine .inr ⟨payload, greeting, c, ?_⟩
        cases result with
        | error cause => exact ⟨[], read, named, rfl, .silence c⟩
        | ok => exact ⟨_, read, named, rfl, exchanged_opening config turns greeting _ c link w'⟩

/-- A session that has been opened was greeted and has answered with a login. -/
theorem opening_greeted {config : Config} {turns : Nat} {l l' : Link} {w w' : ω} {welcome : Welcome}
    (opened : followOpening config turns .start l w = (.ok welcome, l', w')) :
    ∃ payload greeting c rest, Greeting.decode payload = .ok greeting ∧
      greeting.capabilities.contains .protocol41 = true ∧
      greeting.capabilities.contains .secureConnection = true ∧
      saidOpening config turns .start l w =
        .heard payload :: .sent (Opening.loginFor config greeting c).encode :: rest := by
  cases turns with
  | zero => cases opened
  | succ turns =>
    simp only [saidOpening, followOpening, Opening.step] at opened ⊢
    generalize l.receive w = received at opened ⊢
    obtain ⟨result, link, w₁⟩ := received
    cases result with
    | error cause => cases opened
    | ok payload =>
      cases told : Opening.greet config payload with
      | error cause =>
        simp only [told] at opened
        cases opened
      | ok step =>
        obtain ⟨greeting, c, read, protocol, secure, -, rfl⟩ := Opening.greeting_of_greet told
        simp only [told]
        exact ⟨payload, greeting, c, _, read, protocol, secure, rfl⟩

/-- A session that is reset on an old server logs in again. -/
theorem begin_reset {s : Session} (idle : s.state = .connected)
    (old : s.serverVersion.supportsReset = false) :
    s.begin .reset =
      ({ s with state := .querying }, .command s.userChange.encode (.verdict s.challenge)) := by
  simp only [begin, old, command, idle, Bool.false_eq_true, if_false]

/-- One request to log in again is sent, and an exchange follows. -/
theorem reset_conversation {s : Session} (idle : s.state = .connected)
    (old : s.serverVersion.supportsReset = false) (turns : Nat) (w : ω) :
    ∃ rest, said (turns + 1) (s.begin .reset) w = .sent s.userChange.encode :: rest ∧
      Exchanged s.config.credentials.password s.challenge rest
        (accepted? (follow (turns + 1) (s.begin .reset) w)) := by
  rw [begin_reset idle old]
  simp only [said, follow]
  obtain ⟨result, link, w'⟩ :=
    (s.link.withBudget s.config.commandTimeout.nonZero?).command s.userChange.encode w
  cases result with
  | error cause =>
    refine ⟨_, rfl, ?_⟩
    simp only [resume, fail, said_finished, follow_finished]
    exact .silence _
  | ok => exact ⟨_, rfl, exchanged_wait turns { s with state := .querying, link } s.challenge w'⟩

end Session

end SqlWire
