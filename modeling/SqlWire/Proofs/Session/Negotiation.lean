import SqlWire.Proofs.Message.Login
import SqlWire.Proofs.Outcome
import SqlWire.Session.Basic

/-! # Logins that a client negotiates

The login that answers a greeting asks for no more than the greeting offers (`Opening.offers_asked`), and
whatever it has to say a server reads, since the capabilities decide alike how it is written and how it
is read (`Opening.isRegular_loginFor`, `Opening.asRead_loginFor`). A client logs in to any server that offers what it cannot do without and
whose plugin it knows (`Opening.greet_ok`).
-/

namespace SqlWire

theorem AuthPlugin.zero_notMem_name (p : AuthPlugin) : 0 ∉ Utf8.encode p.name := by
  cases p <;> decide +kernel

theorem Challenge.length_response_le (c : Challenge) (password : String) :
    (c.response password).length ≤ 32 := by
  obtain ⟨plugin, nonce, isOpen⟩ := c
  cases plugin with
  | nativePassword =>
    simp only [response, Scramble.native]
    split <;> simp [Scramble.mask]
  | cachingSha2Password =>
    simp only [response, Scramble.cachingSha2]
    split <;> simp [Scramble.mask]
  | clearPassword => cases isOpen

/-- A response is short enough for either form that has a length. -/
theorem Challenge.responseFits (c : Challenge) (password : String) {capabilities : Capabilities}
    (secure : capabilities.contains .secureConnection = true) :
    Login.ResponseFits capabilities (c.response password) := by
  have short := c.length_response_le password
  unfold Login.ResponseFits Login.maxShort
  split_ifs
  · omega
  · omega

/-- The request to log in again is one that a server can read. -/
theorem Session.isRegular_userChange {s : Session}
    (username : 0 ∉ Utf8.encode s.config.credentials.username)
    (database : ∀ name ∈ s.config.database, 0 ∉ Utf8.encode name) : s.userChange.IsRegular where
  username := username
  response := Nat.le_trans (s.challenge.length_response_le _) (by decide)
  database := by
    change 0 ∉ Utf8.encode (s.config.database.getD "")
    cases named : s.config.database with
    | none => decide
    | some name => exact database name named
  plugin := AuthPlugin.zero_notMem_name s.challenge.plugin

/-- A greeting is not mistaken for an error: it starts with the version of the protocol. -/
theorem Greeting.not_isError_of_decode {payload : Bytes} {greeting : Greeting}
    (read : decode payload = .ok greeting) : Reply.isError payload = false := by
  cases payload with
  | nil => rfl
  | cons b rest =>
    by_contra error
    obtain rfl : b = Reply.errorHeader := by simpa [Reply.isError] using error
    cases read

namespace Opening

variable {config : Config} {greeting : Greeting} {c : Challenge}

/-- What a client asks a server for: what both know, and a database if the greeting offers that. -/
def asked (config : Config) (greeting : Greeting) : Capabilities :=
  if config.database.isSome && greeting.capabilities.contains .connectWithDatabase then
    (Capabilities.client.inter greeting.capabilities).union .connectWithDatabase
  else Capabilities.client.inter greeting.capabilities

theorem loginFor_eq (config : Config) (greeting : Greeting) (c : Challenge) :
    loginFor config greeting c =
      { capabilities := asked config greeting
        maxPayload := SqlWire.maxPayload
        collation := defaultCollation
        username := config.credentials.username
        response := c.response config.credentials.password
        database :=
          if greeting.capabilities.contains .connectWithDatabase then config.database else none
        plugin := c.plugin.name } := by
  unfold loginFor asked
  cases config.database with
  | none =>
    simp only [Option.isSome_none, Bool.false_and, ite_self]
    rfl
  | some name =>
    cases greeting.capabilities.contains .connectWithDatabase <;> rfl

/-- A flag but for the one of the database is asked for if both peers know it. -/
theorem asked_contains {flag : Capabilities}
    (apart : flag.bits &&& Capabilities.connectWithDatabase.bits = 0) :
    (asked config greeting).contains flag =
      (Capabilities.client.contains flag && greeting.capabilities.contains flag) := by
  unfold asked
  split_ifs
  · rw [Capabilities.union_contains_of_apart apart, Capabilities.inter_contains]
  · rw [Capabilities.inter_contains]

/-- The flag of the database is set if the login names a database. -/
theorem asked_contains_database :
    (asked config greeting).contains .connectWithDatabase =
      (config.database.isSome && greeting.capabilities.contains .connectWithDatabase) := by
  have unasked : Capabilities.client.contains .connectWithDatabase = false := by decide
  unfold asked
  split_ifs with both
  · rw [Capabilities.union_contains_right, both]
  · rw [Capabilities.inter_contains, unasked, Bool.false_and, Bool.eq_false_of_not_eq_true both]

/-- Any set that has what both peers know, and the flag of the database if the greeting offers it, has
all that is asked for. -/
theorem contains_asked {all : Capabilities}
    (common : all.contains (Capabilities.client.inter greeting.capabilities) = true)
    (database : greeting.capabilities.contains .connectWithDatabase = true →
      all.contains .connectWithDatabase = true) :
    all.contains (asked config greeting) = true := by
  unfold asked
  split_ifs with both
  · rw [Bool.and_eq_true] at both
    exact Capabilities.contains_union common (database both.2)
  · exact common

/-- Nothing is asked for that the greeting does not offer. -/
theorem offers_asked : greeting.capabilities.contains (asked config greeting) = true :=
  contains_asked Capabilities.contains_inter_right id

/-- Nothing is asked for that has no name. -/
theorem defined_asked : Capabilities.defined.contains (asked config greeting) = true :=
  contains_asked (Capabilities.contains_trans (by decide) Capabilities.contains_inter_left)
    fun _ => by decide

/-- The login that answers a greeting is one that a server can read. -/
theorem isRegular_loginFor (protocol : greeting.capabilities.contains .protocol41 = true)
    (secure : greeting.capabilities.contains .secureConnection = true)
    (username : 0 ∉ Utf8.encode config.credentials.username)
    (database : ∀ name ∈ config.database, 0 ∉ Utf8.encode name) :
    (loginFor config greeting c).IsRegular := by
  rw [loginFor_eq]
  constructor
  case protocol =>
    rw [asked_contains (by decide), protocol]
    decide
  case username => exact username
  case response =>
    apply c.responseFits
    rw [asked_contains (by decide), secure]
    decide
  case database =>
    rw [asked_contains_database]
    cases greeting.capabilities.contains .connectWithDatabase <;> simp
  case databaseName =>
    intro name member
    dsimp only at member
    split_ifs at member
    · exact database name member
    · cases member
  case plugin => exact c.plugin.zero_notMem_name

/-- The login that answers a greeting is read as it was written, but for the name of the plugin if
plugins are not negotiated. -/
theorem asRead_loginFor :
    (loginFor config greeting c).asRead = { loginFor config greeting c with
      plugin := if (loginFor config greeting c).capabilities.contains .pluginAuth then
        c.plugin.name else "" } := by
  rw [loginFor_eq, Login.asRead, Capabilities.ofBits_of_defined defined_asked]

/-- A client logs in to a server that offers what the client cannot do without and whose plugin it
knows. -/
theorem greet_ok {payload : Bytes} (read : Greeting.decode payload = .ok greeting)
    (protocol : greeting.capabilities.contains .protocol41 = true)
    (secure : greeting.capabilities.contains .secureConnection = true)
    (named : Challenge.ofName greeting.plugin greeting.nonce = .ok c) (config : Config) :
    greet config payload = .ok (.send (loginFor config greeting c).encode
      (.answered greeting (loginFor config greeting c).capabilities c)) := by
  have quiet := Greeting.not_isError_of_decode read
  simp only [greet, quiet, read, Except.mapError, bind, Except.bind, requiredCapabilities,
    List.forIn_cons, List.forIn_nil, protocol, secure, named, pure, Except.pure, Bool.not_true,
    Bool.false_eq_true, if_false]

/-- A client that goes on after a greeting has been offered what it cannot do without. -/
theorem greeting_of_greet {payload : Bytes} {step : Step} (told : greet config payload = .ok step) :
    ∃ greeting c, Greeting.decode payload = .ok greeting ∧
      greeting.capabilities.contains .protocol41 = true ∧
      greeting.capabilities.contains .secureConnection = true ∧
      Challenge.ofName greeting.plugin greeting.nonce = .ok c ∧
      step = .send (loginFor config greeting c).encode
        (.answered greeting (loginFor config greeting c).capabilities c) := by
  unfold greet at told
  split at told
  · cases told
  · obtain ⟨greeting, read, told⟩ := Outcome.of_read told
    obtain ⟨_, offered, told⟩ := Outcome.bind_eq_ok told
    obtain ⟨c, named, told⟩ := Outcome.bind_eq_ok told
    cases told
    simp only [requiredCapabilities, List.forIn_cons, List.forIn_nil] at offered
    cases protocol : greeting.capabilities.contains .protocol41 with
    | false =>
      rw [protocol] at offered
      cases offered
    | true =>
      cases secure : greeting.capabilities.contains .secureConnection with
      | false =>
        rw [protocol, secure] at offered
        cases offered
      | true => exact ⟨greeting, c, read, protocol, secure, named, rfl⟩

/-- What a client sends to authenticate is read as it was written: a login, whichever fields its
capabilities ask for, and a request to log in again. The login that answers a greeting asks for nothing
that is not offered, and it is read with all that the client has to say. -/
theorem logins_read :
    (∀ l : Login, l.IsRegular → (l.capabilities.contains .pluginAuth = false → l.plugin = "") →
      Login.decode l.encode = .ok { l with capabilities := .ofBits l.capabilities.bits } ∧
        (.ofBits l.capabilities.bits = l.capabilities → Login.decode l.encode = .ok l)) ∧
    (∀ u : UserChange, u.IsRegular → UserChange.decode u.encode = .ok u) ∧
    ∀ (config : Config) (payload : Bytes) (greeting : Greeting) (c : Challenge),
      Greeting.decode payload = .ok greeting →
      greeting.capabilities.contains .protocol41 = true →
      greeting.capabilities.contains .secureConnection = true →
      Challenge.ofName greeting.plugin greeting.nonce = .ok c →
      greet config payload = .ok (.send (loginFor config greeting c).encode
        (.answered greeting (loginFor config greeting c).capabilities c)) ∧
      greeting.capabilities.contains (loginFor config greeting c).capabilities = true ∧
      (0 ∉ Utf8.encode config.credentials.username →
        (∀ name ∈ config.database, 0 ∉ Utf8.encode name) →
        Login.decode (loginFor config greeting c).encode = .ok { loginFor config greeting c with
          plugin := if (loginFor config greeting c).capabilities.contains .pluginAuth then
            c.plugin.name else "" }) := by
  refine ⟨?_, fun u regular => UserChange.decode_encode regular, ?_⟩
  · intro l regular noPlugin
    have read : Login.decode l.encode = .ok { l with capabilities := .ofBits l.capabilities.bits } := by
      rw [Login.decode_encode regular, Login.asRead_eq noPlugin]
    refine ⟨read, fun named => ?_⟩
    rw [read, named]
  · intro config payload greeting c read protocol secure named
    refine ⟨greet_ok read protocol secure named config, ?_, ?_⟩
    · rw [loginFor_eq]
      exact offers_asked
    · intro username database
      rw [Login.decode_encode (isRegular_loginFor protocol secure username database),
        asRead_loginFor]

/-- The greeting of a server that offers neither databases nor plugins. -/
def plainGreeting : Greeting :=
  { version := 10, serverVersion := "5.5.8", connectionId := 7, nonce := List.replicate 20 1
    capabilities := Capabilities.protocol41.union .secureConnection, collation := 45
    status := .autocommit, plugin := "" }

/-- A login to this server names neither the database nor the plugin. -/
theorem logins_read_plain :
    Login.decode (Login.encode ⟨Capabilities.protocol41.union .lengthEncodedAuth, 1, 45, "app",
      [0, 1], none, ""⟩) = .ok ⟨Capabilities.protocol41.union .lengthEncodedAuth, 1, 45, "app", [0, 1],
        none, ""⟩ ∧
    UserChange.decode (UserChange.encode ⟨"app", [0, 1], "shop", 45, "mysql_native_password"⟩) =
      .ok ⟨"app", [0, 1], "shop", 45, "mysql_native_password"⟩ ∧
    Login.decode (loginFor { Config.default with database := some "shop", credentials := ⟨"app", ""⟩ }
      plainGreeting ⟨.nativePassword, plainGreeting.nonce, rfl⟩).encode =
        .ok ⟨plainGreeting.capabilities, maxPayload, defaultCollation, "app", [], none, ""⟩ := by
  obtain ⟨login, change, answer⟩ := logins_read
  refine ⟨?_, ?_, ?_⟩
  · exact (login _ ⟨by decide, by decide +kernel, by decide, rfl, by decide +kernel, by decide +kernel⟩
      fun _ => rfl).2 (by decide)
  · exact change _ ⟨by decide +kernel, by decide, by decide +kernel, by decide +kernel⟩
  · obtain ⟨-, -, read⟩ := answer
      { Config.default with database := some "shop", credentials := ⟨"app", ""⟩ }
      plainGreeting.encode plainGreeting ⟨.nativePassword, plainGreeting.nonce, rfl⟩
      (by decide +kernel) (by decide) (by decide) (by decide +kernel)
    exact read (by decide +kernel) (by decide +kernel)

end Opening

end SqlWire
