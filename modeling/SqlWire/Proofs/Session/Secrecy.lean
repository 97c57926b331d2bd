import SqlWire.Proofs.Session.Conversation

/-! # The password stays with the client

Two clients that differ only in their passwords say the same, come to the same end and leave the
network the same, as long as the passwords have the same responses to the challenges that are made
(`opening_withPassword`, `follow_withPassword`). A session remembers the challenge of the last log-in
that has succeeded, whatever else it is asked to do (`challenge_follow`). `password_guarded` is all of
this, together with what the conversations can be.
-/

namespace SqlWire

/-- The challenge of a greeting. -/
def Challenge.ofGreeting? (payload : Bytes) : Option Challenge :=
  match Greeting.decode payload with
  | .ok greeting => (ofName greeting.plugin greeting.nonce).toOption
  | .error _ => none

/-- The challenges that were made on the way from the greeting on. -/
def Challenge.madeOpening : List Said → List Challenge
  | .heard greeting :: rest => (ofGreeting? greeting).toList ++ madeIn rest
  | rest => madeIn rest

def Config.withPassword (c : Config) (password : String) : Config :=
  { c with credentials := { c.credentials with password } }

def Session.withPassword (s : Session) (password : String) : Session :=
  { s with config := s.config.withPassword password }

namespace Session

variable {ω : Type} [Network ω]

/-! ## Another password -/

/-- The login shows no more of a password than its response. -/
theorem loginFor_withPassword {config : Config} {password : String} {c : Challenge}
    (same : c.response password = c.response config.credentials.password) (greeting : Greeting) :
    Opening.loginFor (config.withPassword password) greeting c =
      Opening.loginFor config greeting c := by
  simp only [Opening.loginFor, Config.withPassword, same]

/-- Neither does the request to log in again. -/
theorem userChange_withPassword {s : Session} {password : String}
    (same : s.challenge.response password = s.challenge.response s.config.credentials.password) :
    (s.withPassword password).userChange = s.userChange := by
  simp only [userChange, withPassword, Config.withPassword, same]

section secret

variable {config : Config} {password : String}

theorem answered_withPassword (turns : Nat) (greeting : Greeting) (asked : Capabilities)
    (c : Challenge) (l : Link) (w : ω)
    (same : ∀ d ∈ Challenge.madeIn (saidOpening config turns (.answered greeting asked c) l w),
      d.response password = d.response config.credentials.password) :
    saidOpening (config.withPassword password) turns (.answered greeting asked c) l w =
        saidOpening config turns (.answered greeting asked c) l w ∧
      followOpening (config.withPassword password) turns (.answered greeting asked c) l w =
        followOpening config turns (.answered greeting asked c) l w := by
  induction turns generalizing c l w with
  | zero => exact ⟨rfl, rfl⟩
  | succ turns ih =>
    simp only [saidOpening, followOpening] at same ⊢
    generalize l.receive w = got at same ⊢
    obtain ⟨result, link, w'⟩ := got
    cases result with
    | error cause => exact ⟨rfl, rfl⟩
    | ok payload =>
      simp only [Opening.step_answered] at same ⊢
      generalize told : c.verdict payload = verdict at same ⊢
      cases verdict with
      | error cause => exact ⟨rfl, rfl⟩
      | ok verdict =>
        cases verdict with
        | accepted reply => exact ⟨rfl, rfl⟩
        | pending =>
          simp only [Except.map] at same ⊢
          obtain ⟨said, followed⟩ := ih c link w' fun d made => same d (Challenge.madeIn_heard made)
          exact ⟨by rw [said], followed⟩
        | again next =>
          have response : next.response password = next.response config.credentials.password :=
            same next (Challenge.mem_madeIn (Challenge.named?_of_again told))
          simp only [Except.map, Config.withPassword, response] at same ⊢
          generalize link.send (next.response config.credentials.password) w' = sent at same ⊢
          obtain ⟨result, link, w'⟩ := sent
          cases result with
          | error cause => exact ⟨rfl, rfl⟩
          | ok =>
            obtain ⟨said, followed⟩ := ih next link w' fun d made =>
              same d (Challenge.madeIn_heard (Challenge.madeIn_heard made))
            exact ⟨congrArg (fun rest => _ :: _ :: rest) said, followed⟩

theorem opening_withPassword (turns : Nat) (l : Link) (w : ω)
    (same : ∀ d ∈ Challenge.madeOpening (saidOpening config turns .start l w),
      d.response password = d.response config.credentials.password) :
    saidOpening (config.withPassword password) turns .start l w =
        saidOpening config turns .start l w ∧
      followOpening (config.withPassword password) turns .start l w =
        followOpening config turns .start l w := by
  cases turns with
  | zero => exact ⟨rfl, rfl⟩
  | succ turns =>
    simp only [saidOpening, followOpening, Opening.step] at same ⊢
    generalize l.receive w = got at same ⊢
    obtain ⟨result, link, w'⟩ := got
    cases result with
    | error cause => exact ⟨rfl, rfl⟩
    | ok payload =>
      obtain ⟨cause, failed⟩ | ⟨greeting, c, read, named, answered⟩ := Opening.greet_cases payload
      · simp only [failed, and_self]
      · have made : Challenge.ofGreeting? payload = some c := by
          rw [Challenge.ofGreeting?, read]
          exact congrArg Except.toOption named
        have response : c.response password = c.response config.credentials.password := by
          refine same c (List.mem_append_left _ ?_)
          rw [made]
          exact List.mem_singleton_self c
        simp only [answered, loginFor_withPassword response] at same ⊢
        generalize link.send (Opening.loginFor config greeting c).encode w' = sent at same ⊢
        obtain ⟨result, link, w'⟩ := sent
        cases result with
        | error cause => exact ⟨rfl, rfl⟩
        | ok =>
          obtain ⟨said, followed⟩ := answered_withPassword turns greeting _ c link w' fun d made =>
            same d (List.mem_append_right _ (Challenge.madeIn_heard made))
          exact ⟨congrArg (fun rest => _ :: _ :: rest) said, followed⟩

end secret

/-- Whether a turn is part of an exchange that authenticates. -/
def IsVerdict : Turn → Prop
  | .command _ pending | .reply _ pending | .wait pending => ∃ c, pending = .verdict c
  | .finished _ => True

section secret

variable {password : String}

theorem fail_withPassword (s : Session) (pending : Pending) (cause : ClientError) :
    (s.withPassword password).fail pending cause =
      ((s.fail pending cause).1.withPassword password, (s.fail pending cause).2) := by
  simp only [fail, failed]
  split
  · rfl
  · split <;> rfl

/-- What is lost on the way ends an exchange, whatever the password is. -/
theorem follow_lost (turns : Nat) (s : Session) (pending : Pending) (cause : ChannelError) (w : ω) :
    said turns ((s.withPassword password).resume pending (.error cause)) w =
        said turns (s.resume pending (.error cause)) w ∧
      follow turns ((s.withPassword password).resume pending (.error cause)) w =
        ((follow turns (s.resume pending (.error cause)) w).1,
          (follow turns (s.resume pending (.error cause)) w).2.1.withPassword password,
          (follow turns (s.resume pending (.error cause)) w).2.2) := by
  simp only [resume, fail_withPassword]
  simp only [fail, said_finished, follow_finished, true_and]
  rfl

/-- What a payload makes of an exchange depends on the password only through a response. -/
theorem take_withPassword {s : Session} {c : Challenge} {payload : Bytes}
    (same : ∀ next, Challenge.named? payload = some next →
      next.response password = next.response s.config.credentials.password) :
    ∃ t turn, s.take payload (.verdict c) = (t, turn) ∧ t.config = s.config ∧ IsVerdict turn ∧
      (s.withPassword password).take payload (.verdict c) = (t.withPassword password, turn) := by
  simp only [take]
  cases told : c.verdict payload with
  | error cause =>
    refine ⟨_, _, rfl, ?_, trivial, fail_withPassword ..⟩
    simp only [failed]
    split <;> rfl
  | ok verdict =>
    cases verdict with
    | accepted reply => exact ⟨_, _, rfl, rfl, trivial, rfl⟩
    | pending => exact ⟨_, _, rfl, rfl, ⟨c, rfl⟩, rfl⟩
    | again next =>
      have response := same next (Challenge.named?_of_again told)
      refine ⟨_, _, rfl, rfl, ⟨next, rfl⟩, ?_⟩
      simp only [withPassword, Config.withPassword, response]

/-- A session with another password goes through an exchange in the same way if its responses are the
same. -/
theorem follow_withPassword {turns : Nat} {s : Session} {turn : Turn} {w : ω}
    (verdict : IsVerdict turn)
    (same : ∀ d ∈ Challenge.madeIn (said turns (s, turn) w),
      d.response password = d.response s.config.credentials.password) :
    said turns (s.withPassword password, turn) w = said turns (s, turn) w ∧
      follow turns (s.withPassword password, turn) w = ((follow turns (s, turn) w).1,
        (follow turns (s, turn) w).2.1.withPassword password, (follow turns (s, turn) w).2.2) := by
  induction turns generalizing s turn w with
  | zero =>
    cases turn with
    | finished outcome => exact ⟨rfl, rfl⟩
    | _ =>
      obtain ⟨c, rfl⟩ := verdict
      exact ⟨rfl, rfl⟩
  | succ turns ih =>
    cases turn with
    | finished outcome => exact ⟨rfl, rfl⟩
    | command payload pending =>
      have link : (s.withPassword password).link.withBudget
          (s.withPassword password).config.commandTimeout.nonZero? =
        s.link.withBudget s.config.commandTimeout.nonZero? := rfl
      simp only [said, follow, link] at same ⊢
      generalize (s.link.withBudget s.config.commandTimeout.nonZero?).command payload w = sent
        at same ⊢
      obtain ⟨result, link, w'⟩ := sent
      cases result with
      | error cause =>
        obtain ⟨said, followed⟩ := follow_lost turns { s with link } pending cause w'
        exact ⟨congrArg _ said, followed⟩
      | ok =>
        have waits : IsVerdict (.wait pending) := verdict
        obtain ⟨said, followed⟩ := ih (s := { s with link }) (w := w') waits fun d made =>
          same d (Challenge.madeIn_heard made)
        exact ⟨congrArg _ said, followed⟩
    | reply payload pending =>
      have link : (s.withPassword password).link = s.link := rfl
      simp only [said, follow, link] at same ⊢
      generalize s.link.send payload w = sent at same ⊢
      obtain ⟨result, link, w'⟩ := sent
      cases result with
      | error cause =>
        obtain ⟨said, followed⟩ := follow_lost turns { s with link } pending cause w'
        exact ⟨congrArg _ said, followed⟩
      | ok =>
        have waits : IsVerdict (.wait pending) := verdict
        obtain ⟨said, followed⟩ := ih (s := { s with link }) (w := w') waits fun d made =>
          same d (Challenge.madeIn_heard made)
        exact ⟨congrArg _ said, followed⟩
    | wait pending =>
      have link : (s.withPassword password).link = s.link := rfl
      simp only [said, follow, link] at same ⊢
      generalize s.link.receive w = got at same ⊢
      obtain ⟨result, link, w'⟩ := got
      cases result with
      | error cause => exact follow_lost turns { s with link } pending cause w'
      | ok payload =>
        obtain ⟨c, rfl⟩ := verdict
        obtain ⟨t, turn, taken, config, verdict, other⟩ := take_withPassword (s := { s with link })
          (c := c) fun next named => same next (Challenge.mem_madeIn named)
        simp only [resume, taken] at same ⊢
        obtain ⟨said, followed⟩ := ih verdict fun d made => by
          rw [config]
          exact same d (Challenge.madeIn_heard made)
        have taken : { s.withPassword password with link }.take payload (.verdict c) =
          (t.withPassword password, turn) := other
        rw [taken]
        exact ⟨congrArg _ said, followed⟩

end secret

/-! ## What a server may learn -/

/-- What the opening of a session shows of a password, whatever is heard. -/
structure OpeningGuarded (config : Config) (turns : Nat) (l : Link) (w : ω) : Prop where
  /-- Either nothing is sent and no session is opened, or one login answers the greeting. -/
  conversation :
    (∀ payload, .sent payload ∉ saidOpening config turns .start l w) ∧
      (followOpening config turns .start l w).1.isOk = false ∨
    ∃ payload greeting c rest, Greeting.decode payload = .ok greeting ∧
      Challenge.ofName greeting.plugin greeting.nonce = .ok c ∧
      (Opening.loginFor config greeting c).response = c.response config.credentials.password ∧
      saidOpening config turns .start l w =
        .heard payload :: .sent (Opening.loginFor config greeting c).encode :: rest ∧
      Guarded config.credentials.password c rest
        ((followOpening config turns .start l w).1.toOption.map (·.challenge))
  /-- A greeting that asks for the password itself, or for a plugin that is not known, is not
  answered. -/
  refusal : ∀ payload greeting,
    (saidOpening config turns .start l w).head? = some (.heard payload) →
    Greeting.decode payload = .ok greeting → Challenge.IsUnanswerable greeting.plugin →
    (∀ payload, .sent payload ∉ saidOpening config turns .start l w) ∧
      (followOpening config turns .start l w).1.isOk = false
  /-- A password with the same responses cannot be told apart. -/
  secret : ∀ password,
    (∀ c ∈ Challenge.madeOpening (saidOpening config turns .start l w),
      c.response password = c.response config.credentials.password) →
    saidOpening (config.withPassword password) turns .start l w =
        saidOpening config turns .start l w ∧
      followOpening (config.withPassword password) turns .start l w =
        followOpening config turns .start l w

/-- What the log-in of a session that is reset shows of a password, whatever is heard. -/
structure ResetGuarded (s : Session) (turns : Nat) (w : ω) : Prop where
  /-- One request to log in again is sent, with the response to the challenge that was answered
  last. -/
  conversation : s.userChange.response = s.challenge.response s.config.credentials.password ∧
    ∃ rest, said turns (s.begin .reset) w = .sent s.userChange.encode :: rest ∧
      Guarded s.config.credentials.password s.challenge rest
        (accepted? (follow turns (s.begin .reset) w))
  /-- A password with the same responses cannot be told apart. -/
  secret : ∀ password,
    (∀ c ∈ s.challenge :: Challenge.madeIn (said turns (s.begin .reset) w),
      c.response password = c.response s.config.credentials.password) →
    said turns ((s.withPassword password).begin .reset) w = said turns (s.begin .reset) w ∧
      follow turns ((s.withPassword password).begin .reset) w =
        ((follow turns (s.begin .reset) w).1,
          (follow turns (s.begin .reset) w).2.1.withPassword password,
          (follow turns (s.begin .reset) w).2.2)

/-- How a session that was opened with a challenge stands to it: only a log-in that succeeds takes
another one in its place. -/
def Remembers (c : Challenge) (login : Prop) : Session × Turn → Prop
  | (s, .command _ pending) | (s, .reply _ pending) | (s, .wait pending) =>
    s.challenge = c ∧ ∀ d, pending = .verdict d → login
  | (s, .finished outcome) => s.challenge = c ∨ login ∧ outcome.isOk = true

section memory

variable {c : Challenge} {login : Prop}

theorem challenge_failed (s : Session) (pending : Pending) (cause : ClientError) :
    (s.failed pending cause).challenge = s.challenge := by
  unfold failed
  split
  · rfl
  · split <;> rfl

theorem remembers_fail {s : Session} (same : s.challenge = c) (pending : Pending)
    (cause : ClientError) : Remembers c login (s.fail pending cause) :=
  .inl ((challenge_failed ..).trans same)

theorem remembers_command {s : Session} (same : s.challenge = c) (payload : Bytes)
    {pending : Pending} (asked : ∀ d, pending = .verdict d → login) :
    Remembers c login (s.command payload pending) := by
  unfold command
  split
  · exact ⟨same, asked⟩
  · exact remembers_fail same ..

theorem remembers_begin {s : Session} (r : Request) :
    Remembers s.challenge (r = .reset ∧ s.serverVersion.supportsReset = false) (s.begin r) := by
  cases r with
  | reset =>
    simp only [begin]
    split_ifs with new
    · refine remembers_command rfl _ ?_
      rintro _ ⟨⟩
    · refine remembers_command rfl _ ?_
      intro _ _
      simpa using new
  | _ =>
    refine remembers_command rfl _ ?_
    rintro _ ⟨⟩

theorem remembers_afterReply {s : Session} (same : s.challenge = c) (pending : Pending)
    (payload : Bytes) {next : Session → Session × Turn}
    (onward : ∀ t : Session, t.challenge = c → Remembers c login (next t)) :
    Remembers c login (s.afterReply pending payload next) := by
  unfold afterReply
  split
  · exact remembers_fail same ..
  · exact onward _ same

theorem remembers_take {s : Session} {pending : Pending}
    (remembers : Remembers c login (s, .wait pending)) (payload : Bytes) :
    Remembers c login (s.take payload pending) := by
  obtain ⟨same, asked⟩ := remembers
  cases pending with
  | pong | restored =>
    apply remembers_afterReply same
    intro t same
    exact Or.inl same
  | selected database =>
    simp only [take]
    apply remembers_afterReply same
    intro t same
    exact Or.inl same
  | cleared =>
    simp only [take]
    apply remembers_afterReply same
    intro t same
    unfold afterReset
    split
    · exact Or.inl same
    · exact Or.inl same
    · refine remembers_command (s := { t with databaseOverride := none }) same _ ?_
      rintro _ ⟨⟩
  | verdict d =>
    simp only [take]
    split
    · exact remembers_fail same ..
    · exact Or.inr ⟨asked d rfl, rfl⟩
    · exact ⟨same, fun _ _ => asked d rfl⟩
    · exact ⟨same, fun _ _ => asked d rfl⟩
  | answer reader =>
    simp only [take]
    generalize reader.step payload = taken
    obtain ⟨reader, step⟩ := taken
    cases step with
    | failed cause => exact remembers_fail (s := { s with status := reader.status }) same _ _
    | complete => exact Or.inl same
    | _ =>
      refine ⟨same, ?_⟩
      rintro _ ⟨⟩

end memory

/-- Only a log-in that succeeds changes the challenge that a session remembers. -/
theorem challenge_follow (turns : Nat) (s : Session) (r : Request) (w : ω) :
    (follow turns (s.begin r) w).2.1.challenge = s.challenge ∨
      (r = .reset ∧ s.serverVersion.supportsReset = false) ∧
        (follow turns (s.begin r) w).1.isOk = true := by
  refine follow_invariant
    (P := fun _ => Remembers s.challenge (r = .reset ∧ s.serverVersion.supportsReset = false))
    ?sent ?replied ?told ?lost ?late ?closing turns (s.begin r) w [] (remembers_begin r)
  case sent =>
    intro _ _ _ _ _ remembers
    exact remembers
  case replied =>
    intro _ _ _ _ _ remembers
    exact remembers
  case told =>
    intro _ s _ _ link remembers
    exact remembers_take (s := { s with link }) remembers _
  case lost =>
    intro _ s _ _ link remembers
    exact remembers_fail (s := { s with link }) remembers.1 _ _
  case late =>
    rintro _ _ _ _ (remembers | remembers) <;> exact remembers_fail remembers.1 _ _
  case closing =>
    intro _ _ _ remembers
    exact remembers

end Session

end SqlWire
