import SqlWire.Proofs.Session.Attuned
import SqlWire.Proofs.Session.Conversation

/-! # Sessions that a stand-in lets in

A client with the credentials that a stand-in knows is let in, with or without a change of the plugin:
what either peer sends is what the other one reads, and the response is the one to the nonce that the
stand-in sent last. The session that is opened is attuned to the stand-in, and so every later reset is
granted (`connect_admitted`).
-/

namespace SqlWire

open Standin

/-- The challenge of a greeting that names a plugin by its name. -/
theorem Challenge.ofName_name (c : Challenge) : ofName c.plugin.name c.nonce = .ok c := by
  obtain ⟨plugin, nonce, isOpen⟩ := c
  cases plugin with
  | nativePassword => rfl
  | cachingSha2Password => rfl
  | clearPassword => cases isOpen

namespace Standin

/-- The challenge that the greeting of a stand-in makes. -/
def ServerConfig.challenge (server : ServerConfig) (nonce : Bytes) : Challenge :=
  if server.switchesPlugin then ⟨.cachingSha2Password, nonce, rfl⟩ else .native nonce

variable (server : ServerConfig) (h : Handler)

theorem ServerConfig.challenge_plugin (nonce : Bytes) :
    (server.challenge nonce).plugin = server.greetingPlugin := by
  unfold challenge greetingPlugin
  split <;> rfl

theorem ServerConfig.challenge_nonce (nonce : Bytes) : (server.challenge nonce).nonce = nonce := by
  unfold challenge
  split <;> rfl

theorem ServerConfig.ofBits_capabilities :
    Capabilities.ofBits capabilities.bits = capabilities := by decide

/-- What a client reads of the greeting. -/
def Handler.greeting : Greeting :=
  { server.greeting h.connectionId h.nonce with status := .ofBits server.status.bits }

theorem Handler.decode_firstPayload (version : 0 ∉ Utf8.encode server.version)
    (nonce : h.nonce.length = 20) :
    Greeting.decode (h.firstPayload server) = .ok (h.greeting server) := by
  have plugins : ServerConfig.capabilities.contains .pluginAuth = true := by decide
  have regular : (server.greeting h.connectionId h.nonce).IsRegular :=
    { version := rfl
      serverVersion := version
      capabilities := ServerConfig.ofBits_capabilities
      secure := (by decide : ServerConfig.capabilities.contains .secureConnection = true)
      nonce := Nat.le_trans (Nat.le_of_eq nonce) (by decide)
      plugin := AuthPlugin.zero_notMem_name server.greetingPlugin
      noPlugin := fun none => Bool.noConfusion (plugins.symm.trans none) }
  have full : Greeting.padded h.nonce = h.nonce := Greeting.padded_of_full (Nat.le_of_eq nonce.symm)
  have read := Greeting.decode_encode regular
  rw [Greeting.asRead, show (server.greeting h.connectionId h.nonce).nonce = h.nonce from rfl,
    full] at read
  exact read

end Standin

namespace Opening

variable {server : ServerConfig} {h : Handler} {config : Config}

/-- The greeting is answered with a login. -/
theorem step_firstPayload (config : Config) (version : 0 ∉ Utf8.encode server.version)
    (nonce : h.nonce.length = 20) :
    step config (h.firstPayload server) .start = .ok
      (.send (loginFor config (h.greeting server) (server.challenge h.nonce)).encode
        (.answered (h.greeting server)
          (loginFor config (h.greeting server) (server.challenge h.nonce)).capabilities
          (server.challenge h.nonce))) := by
  have named : Challenge.ofName (h.greeting server).plugin (h.greeting server).nonce =
      .ok (server.challenge h.nonce) := by
    have same := (server.challenge h.nonce).ofName_name
    rwa [ServerConfig.challenge_plugin, ServerConfig.challenge_nonce] at same
  exact greet_ok (h.decode_firstPayload server version nonce)
    (by decide : ServerConfig.capabilities.contains .protocol41 = true)
    (by decide : ServerConfig.capabilities.contains .secureConnection = true) named config

/-- The login that answers the greeting is read as it was written. -/
theorem decode_loginFor (server : ServerConfig) (h : Handler)
    (username : 0 ∉ Utf8.encode config.credentials.username)
    (database : ∀ name ∈ config.database, 0 ∉ Utf8.encode name) (c : Challenge) :
    Login.decode (loginFor config (h.greeting server) c).encode =
      .ok (loginFor config (h.greeting server) c) := by
  have plugins : (asked config (h.greeting server)).contains .pluginAuth = true := by
    rw [asked_contains (by decide)]
    exact (by decide : (Capabilities.client.contains .pluginAuth &&
      ServerConfig.capabilities.contains .pluginAuth) = true)
  have regular : (loginFor config (h.greeting server) c).IsRegular := isRegular_loginFor
    (by decide : ServerConfig.capabilities.contains .protocol41 = true)
    (by decide : ServerConfig.capabilities.contains .secureConnection = true) username database
  rw [Login.decode_encode regular, asRead_loginFor, loginFor_eq, plugins, if_pos rfl]

theorem username_loginFor (c : Challenge) :
    (loginFor config (h.greeting server) c).username = config.credentials.username := by
  rw [loginFor_eq]

end Opening

namespace Standin.Handler

variable {server : ServerConfig} {h : Handler}

/-- The user that a stand-in knows is let in with the response to its nonce. -/
theorem letIn_native :
    h.letIn server server.credentials.username
      ((Challenge.native h.nonce).response server.credentials.password) =
      { h with stage := .serving }.send [Response.okPayload 0 0 server.status] := by
  simp only [letIn, server.verify_native, if_true]

theorem takeLogin_of_switch (switches : server.switchesPlugin = true) {login : Login}
    (read : Login.decode login.encode = .ok login) (freshNonce : Bytes) :
    h.takeLogin server freshNonce login.encode =
      { h with nonce := freshNonce, stage := .switched login.username }.send
        [AuthSwitch.encode ⟨AuthPlugin.nativePassword.name, freshNonce⟩] := by
  simp only [takeLogin, read, switches, if_true]

theorem takeLogin_of_native (switches : server.switchesPlugin = false) {login : Login}
    (read : Login.decode login.encode = .ok login)
    (username : login.username = server.credentials.username)
    (response : login.response = (Challenge.native h.nonce).response server.credentials.password)
    (freshNonce : Bytes) :
    h.takeLogin server freshNonce login.encode =
      { h with stage := .serving }.send [Response.okPayload 0 0 server.status] := by
  simp only [takeLogin, read, switches, username, response, letIn_native, Bool.false_eq_true,
    if_false]

end Standin.Handler

/-- A payload that a stand-in answers with a single one while it lets a client in. The reply and what
becomes of the handler may depend on a nonce that the stand-in chooses. -/
theorem Link.Brings.ask {l : Link} {w : World} {server : ServerConfig} {h : Handler}
    (rests : l.Brings w server h []) (present : h.stage.isOver = false) (early : h.stage ≠ .serving)
    {payload : Bytes} (next : Bytes → Handler) (reply : Bytes → Bytes)
    (taken : ∀ freshNonce pausing,
      h.take server freshNonce pausing payload = (next freshNonce).send [reply freshNonce]) :
    ∃ freshNonce l₁ w₁ l₂ w₂, l.send payload w = (.ok (), l₁, w₁) ∧
      l₁.receive w₁ = (.ok (reply freshNonce), l₂, w₂) ∧
      l₂.Brings w₂ server (next freshNonce) [] := by
  have prompt (freshNonce : Bytes) (pausing : List UInt32) :
      (h.take server freshNonce pausing payload).IsPrompt l.channel.budget := by
    rw [taken]
    exact ⟨List.cons_ne_nil _ _, rests.inTime⟩
  obtain ⟨freshNonce, pausing, l₁, w₁, l₂, w₂, sent, received, rests⟩ :=
    rests.exchange present (fun serving => (early serving).elim) payload prompt
  rw [taken] at received rests
  cases received with
  | more got none =>
    cases none
    exact ⟨freshNonce, l₁, w₁, l₂, w₂, sent, got, rests⟩

namespace Session

variable {config : Config} {w : World}

/-- A connection that a stand-in accepts brings its greeting. -/
theorem brings_accept (w : World) {budget : Option Duration}
    (inTime : ∀ left ∈ budget, w.server.greetingDelay.nanos < left.nanos) (h : Handler)
    (fresh : h = ⟨UInt32.ofNat (w.circuits.length + 1), w.nonce w.nonces, .greeted⟩) :
    Link.Brings ⟨w.circuits.length, (Channel.start .start).withBudget budget⟩ w.accept w.server h
      [h.firstPayload w.server] := by
  have holds : (Channel.start .start).Holds [] [] :=
    ⟨⟨rfl, rfl, fun _ => rfl, rfl, rfl, rfl⟩, rfl, rfl⟩
  let due : Duration := ⟨w.clock.nanos + w.server.greetingDelay.nanos⟩
  let bodies := [h.firstPayload w.server].flatMap splitPayload
  have nonempty : bodies ≠ [] := by simp [bodies, splitPayload_ne_nil]
  have sent := holds.sent bodies
  have delivered := Circuit.deliver_eq (c := ⟨h, .start .start, [], none, false⟩) holds
    [h.firstPayload w.server] due
  have here : w.accept.circuits[w.circuits.length]? = some
      (Circuit.deliver ⟨h, .start .start, [], none, false⟩ [h.firstPayload w.server] due) := by
    rw [fresh]
    simp [World.accept, due]
  rw [delivered] at here
  refine ⟨rfl, ⟨Arrival.burst due 0 bodies, none, ⟨_, here, ?_⟩, ?_⟩, ?_⟩
  · refine ⟨rfl, sent, ?_, rfl, rfl, rfl⟩
    rw [fresh]
    rfl
  · rw [Arrival.burst, if_neg nonempty]
    refine .burst (List.cons_ne_nil _ _) rfl ⟨holds.calm, rfl, rfl⟩ ?_ (by simp)
    intro left member
    have early := inTime left member
    change max w.clock.nanos (w.clock.nanos + w.server.greetingDelay.nanos) < w.clock.nanos + left.nanos
    omega
  · intro left member
    exact Nat.lt_of_le_of_lt (Nat.zero_le _) (inTime left member)

/-- What answers a payload while a session is opened is sent, and the next payload is waited for. -/
theorem followOpening_send {opening next : Opening} {l l₁ l₂ : Link} {w₁ w₂ : World}
    {payload reply : Bytes} (got : l.receive w = (.ok payload, l₁, w₁))
    (answer : opening.step config payload = .ok (.send reply next))
    (sent : l₁.send reply w₁ = (.ok (), l₂, w₂)) (turns : Nat) :
    followOpening config (turns + 1) opening l w = followOpening config turns next l₂ w₂ := by
  simp only [followOpening, got, answer, sent]

/-- The client is let in by the reply that says so. -/
theorem followOpening_okPayload {server : ServerConfig} {l l' : Link} {w' : World}
    (got : l.receive w = (.ok (Response.okPayload 0 0 server.status), l', w')) (greeting : Greeting)
    (capabilities : Capabilities) (c : Challenge) (turns : Nat) :
    followOpening config (turns + 1) (.answered greeting capabilities c) l w =
      (.ok ⟨greeting.serverVersion, greeting.connectionId, capabilities, (granting server).status, c⟩,
        l', w') := by
  simp only [followOpening, got, Opening.step_answered, verdict_okPayload]
  rfl

/-- Another nonce for the native plugin is answered. -/
theorem step_switch (config : Config) (greeting : Greeting) (capabilities : Capabilities) (c : Challenge)
    (nonce : Bytes) :
    Opening.step config (AuthSwitch.encode ⟨AuthPlugin.nativePassword.name, nonce⟩)
        (.answered greeting capabilities c) =
      .ok (.send ((Challenge.native nonce).response config.credentials.password)
        (.answered greeting capabilities (.native nonce))) := by
  have read := AuthSwitch.decode_encode (r := ⟨AuthPlugin.nativePassword.name, nonce⟩)
    (AuthPlugin.zero_notMem_name .nativePassword)
  have told : c.verdict (AuthSwitch.encode ⟨AuthPlugin.nativePassword.name, nonce⟩) =
      .ok (.again (.native nonce)) := by
    obtain ⟨rest, first⟩ : ∃ rest, AuthSwitch.encode ⟨AuthPlugin.nativePassword.name, nonce⟩ =
        Reply.eofHeader :: rest := ⟨_, rfl⟩
    have ok : (Reply.eofHeader == Reply.okHeader) = false := rfl
    have error : (Reply.eofHeader == Reply.errorHeader) = false := rfl
    rw [first] at read ⊢
    simp only [Challenge.verdict, ok, error, read, beq_self_eq_true, Bool.false_eq_true, if_true,
      if_false]
    rfl
  rw [Opening.step_answered, told]
  rfl

/-- A session is opened on a connection that brings the greeting of a stand-in which knows the user. -/
theorem followOpening_admitted {server : ServerConfig} {h : Handler} {l : Link}
    (greeted : h.stage = .greeted) (brings : l.Brings w server h [h.firstPayload server])
    (version : 0 ∉ Utf8.encode server.version) (nonce : h.nonce.length = 20)
    (credentials : config.credentials = server.credentials)
    (username : 0 ∉ Utf8.encode config.credentials.username)
    (database : ∀ name ∈ config.database, 0 ∉ Utf8.encode name) (turns : Nat) :
    ∃ welcome l' w', followOpening config (turns + 3) .start l w = (.ok welcome, l', w') ∧
      welcome.serverVersion = server.version ∧ welcome.connectionId = h.connectionId ∧
      ∃ h' : Handler, h'.stage = .serving ∧ welcome.challenge = .native h'.nonce ∧
        l'.Brings w' server h' [] := by
  obtain ⟨l₁, w₁, got, rests⟩ := brings.receive
  have answer := Opening.step_firstPayload config version nonce
  have read := Opening.decode_loginFor server h username database (server.challenge h.nonce)
  have user : (Opening.loginFor config (h.greeting server) (server.challenge h.nonce)).username =
      server.credentials.username := by
    rw [Opening.username_loginFor, credentials]
  have response := response_loginFor config (h.greeting server) (server.challenge h.nonce)
  rw [credentials] at response
  have present : h.stage.isOver = false := by rw [greeted]; rfl
  have early : h.stage ≠ .serving := by simp [greeted]
  cases switches : server.switchesPlugin with
  | false =>
    have native : server.challenge h.nonce = .native h.nonce := by
      simp [ServerConfig.challenge, switches]
    rw [native] at answer read user response
    obtain ⟨_, l₂, w₂, l₃, w₃, sent, told, rests⟩ := rests.ask present early
      (fun _ => { h with stage := .serving }) (fun _ => Response.okPayload 0 0 server.status)
      fun freshNonce pausing => by
        rw [Handler.take, greeted]
        exact Handler.takeLogin_of_native switches read user response freshNonce
    have opened := (followOpening_send got answer sent (turns + 2)).trans
      (followOpening_okPayload told _ _ _ (turns + 1))
    exact ⟨_, l₃, w₃, opened, rfl, rfl, { h with stage := .serving }, rfl, rfl, rests⟩
  | true =>
    obtain ⟨fresh, l₂, w₂, l₃, w₃, sent, switch, rests⟩ := rests.ask present early
      (fun nonce => { h with nonce, stage := .switched server.credentials.username })
      (fun nonce => AuthSwitch.encode ⟨AuthPlugin.nativePassword.name, nonce⟩)
      fun freshNonce pausing => by
        rw [Handler.take, greeted, ← user]
        exact Handler.takeLogin_of_switch switches read freshNonce
    obtain ⟨_, l₄, w₄, l₅, w₅, sent', told, rests⟩ := rests.ask rfl (by simp)
      (fun _ => { h with nonce := fresh, stage := .serving })
      (fun _ => Response.okPayload 0 0 server.status) fun _ _ => Handler.letIn_native
    have answer' := step_switch config (h.greeting server)
      (Opening.loginFor config (h.greeting server) (server.challenge h.nonce)).capabilities
      (server.challenge h.nonce) fresh
    rw [credentials] at answer'
    have opened := (followOpening_send got answer sent (turns + 2)).trans
      ((followOpening_send switch answer' sent' (turns + 1)).trans
        (followOpening_okPayload told _ _ _ turns))
    exact ⟨_, l₅, w₅, opened, rfl, rfl, { h with nonce := fresh, stage := .serving }, rfl, rfl,
      rests⟩

/-- Hosts are dialled until the one of the stand-in accepts. -/
theorem dialAny_standin {hosts : List String} (member : w.host ∈ hosts) (deadline : Option Duration)
    (last : Option IoError) :
    dialAny w.port deadline hosts last w = (.ok (w.host, w.circuits.length), w.accept) := by
  induction hosts generalizing last with
  | nil => cases member
  | cons host rest ih =>
    by_cases here : host = w.host
    · simp [dialAny, Network.dial, here]
    · have later := ih ((List.mem_cons.mp member).resolve_left (Ne.symm here)) (some World.refusal)
      simpa [dialAny, Network.dial, here] using later

/-- There is a deadline if the time to connect is limited and the clock can show its end. -/
theorem connectDeadline_ok (shown : ∀ limit ∈ config.connectTimeout.nonZero?,
    Duration.fitsClock ⟨w.clock.nanos + limit.nanos⟩ = true) :
    connectDeadline config w =
      .ok (config.connectTimeout.nonZero?.map fun limit => ⟨w.clock.nanos + limit.nanos⟩) := by
  unfold connectDeadline
  cases limited : config.connectTimeout.nonZero? with
  | none => rfl
  | some limit => exact if_pos (shown limit limited)

/-- A client with the credentials of a stand-in opens a session that the stand-in knows, if the greeting
comes before the time to connect is over. -/
theorem connect_attuned (valid : config.validate = .ok ()) (host : w.host ∈ config.hosts)
    (port : config.port = w.port) (credentials : config.credentials = w.server.credentials)
    (username : 0 ∉ Utf8.encode config.credentials.username)
    (database : ∀ name ∈ config.database, 0 ∉ Utf8.encode name)
    (version : 0 ∉ Utf8.encode w.server.version) (nonce : (w.nonce w.nonces).length = 20)
    (shown : ∀ limit ∈ config.connectTimeout.nonZero?,
      Duration.fitsClock ⟨w.clock.nanos + limit.nanos⟩ = true)
    (early : ∀ limit ∈ config.connectTimeout.nonZero?, w.server.greetingDelay.nanos < limit.nanos)
    (number generation : Nat) :
    ∃ s w', connect config number generation w = (.ok s, w') ∧ s.state = .connected ∧
      s.connectionId = UInt32.ofNat (w.circuits.length + 1) ∧
      s.serverVersion = .parse w.server.version ∧ Attuned w.server s w' := by
  obtain ⟨welcome, l, w', opened, told, id, h, serving, known, rests⟩ :=
    followOpening_admitted rfl (brings_accept w early _ rfl) version nonce credentials username
      database 999999997
  have order : hostOrder config w = (config.hosts, w) := by
    unfold hostOrder
    split <;> rfl
  have dialled (deadline : Option Duration) : dialAny config.port deadline config.hosts none w =
      (.ok (w.host, w.circuits.length), w.accept) := by
    rw [port]
    exact dialAny_standin host deadline none
  have wholeTime : ((config.connectTimeout.nonZero?.map fun limit =>
      Duration.mk (w.clock.nanos + limit.nanos)).map fun limit =>
        Duration.mk (limit.nanos - (Network.now w.accept).nanos)) = config.connectTimeout.nonZero? := by
    have moment : (Network.now w.accept).nanos = w.clock.nanos := rfl
    cases limited : config.connectTimeout.nonZero? <;> simp [moment]
  have connected : connect config number generation w =
      (.ok (ofWelcome config number generation w.host w'.clock welcome (l.withBudget none)), w') := by
    simp only [connect, valid, connectDeadline_ok shown, order, dialled]
    rw [openOn, wholeTime, show patience = 999999997 + 3 from rfl, opened]
    rfl
  exact ⟨_, w', connected, rfl, id, congrArg ServerVersion.parse told, credentials, username,
    database, h, serving, known, rests.withoutBudget⟩

/-- A session that a stand-in knows is reset whenever it is asked to be. -/
theorem Attuned.reset_succeeds {server : ServerConfig} {s : Session} (attuned : Attuned server s w)
    (connected : s.state = .connected) :
    (s.reset w).1 = .ok () ∧ (s.reset w).2.1.state = .connected := by
  have granted := attuned.reset connected
  simp only [Session.reset, askUnit]
  generalize s.ask .reset w = asked at granted ⊢
  obtain ⟨outcome, t, v⟩ := asked
  obtain ⟨succeeded, still, _⟩ := granted
  cases outcome with
  | error cause => cases succeeded
  | ok results => exact ⟨rfl, still⟩

/-- A user without a password. -/
def shopkeeper : Config :=
  { Config.default with database := some "shop", credentials := ⟨"app", ""⟩ }

/-- A stand-in of an old version that knows this user and changes the plugin. -/
def oldStandin : World :=
  .start { ServerConfig.new with
    version := "5.6.51", credentials := ⟨"app", ""⟩, switchesPlugin := true } "localhost" 3306
    fun n => List.replicate 20 (UInt8.ofNat (n + 1))

theorem knows_oldStandin (limit : Option Duration) :
    oldStandin.server.Knows limit (trim "SELECT 1".toList) := by
  have noKill : killTarget? (trim "SELECT 1".toList) = none := by decide +kernel
  have noPause : sleepSeconds? (trim "SELECT 1".toList) = none := by decide +kernel
  rw [ServerConfig.Knows, noKill, noPause]
  exact ⟨Response.IsResult.isWhole trivial, (by decide : 1 < patience)⟩

end Session

end SqlWire
