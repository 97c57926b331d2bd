import SqlWire.Proofs.Session.Conversation
import SqlWire.Proofs.Session.Selections

/-! # The database of a session and of its server

A session says which database is selected without asking: the one that was chosen last, or else the
configured one. The server selects what a login, a choice or another login names, and a reset leaves it
where it is. Both are read off what the server has granted (`chosenAfter`, `servedAfter`), for one
request by what it may have been granted (`Ends.shows`, `Ends.agrees`) and for any calls by
`runAll_keeps`. `database_tracked` compares the two: they part when a reset forgets a choice that the
server keeps, and when a server cannot be told of the configured database.
-/

namespace SqlWire

namespace Selection

/-- The database that a server has selected once it has granted something. -/
def serve : Selection → Option String → Option String
  | choice database, _ => some database
  | login database, _ => database
  | reset, current => current

/-- The database that has been chosen. -/
def chosen? : Selection → Option String
  | choice database => some database
  | login _ | reset => none

end Selection

/-- The database that is chosen after what was granted, the latest first. -/
def chosenAfter (before : Option String) : List Selection → Option String
  | [] => before
  | last :: _ => last.chosen?

/-- The database that the server has selected after what it has granted, the latest first. -/
def servedAfter (before : Option String) (selections : List Selection) : Option String :=
  selections.foldr Selection.serve before

theorem chosenAfter_append (before : Option String) (later earlier : List Selection) :
    chosenAfter before (later ++ earlier) = chosenAfter (chosenAfter before earlier) later := by
  cases later <;> rfl

theorem servedAfter_append (before : Option String) (later earlier : List Selection) :
    servedAfter before (later ++ earlier) = servedAfter (servedAfter before earlier) later :=
  List.foldr_append

/-- The server has selected what is chosen. -/
theorem servedAfter_of_chosen {before : Option String} {selections : List Selection} {database : String}
    (chosen : chosenAfter none selections = some database) :
    servedAfter before selections = some database := by
  cases selections with
  | nil => cases chosen
  | cons last earlier =>
    cases last with
    | choice name => exact chosen
    | login | reset => cases chosen

/-- The payload that is sent, if there is one. -/
def Said.sent? : Said → Option Bytes
  | .sent payload => some payload
  | .heard _ => none

namespace Session

variable {ω : Type} [Network ω]

section requests

variable {s : Session} {r : Request} {succeeded : Bool} {selections : List Selection}
  {override before server : Option String}

/-- A session says that the database is selected which it counts as chosen, or the configured one. -/
theorem Ends.shows (ends : s.Ends r succeeded selections override)
    (same : s.database = before.or s.config.database) :
    override.or s.config.database = (chosenAfter before selections).or s.config.database := by
  cases ends with
  | unchanged => exact same
  | restored configured =>
    rw [configured]
    rfl
  | chosen | loggedIn | cleared | interrupted => rfl

/-- A session and its server go on to agree if the configured database can be selected and the request
succeeds or nothing is granted. -/
theorem Ends.agrees {name : String} (ends : s.Ends r succeeded selections override)
    (same : s.database = server) (configured : s.config.database = some name)
    (login : Selection.ofCommand? s.userChange.encode = some (.login (some name)))
    (whole : succeeded = true ∨ selections = []) :
    override.or s.config.database = servedAfter server selections := by
  cases ends with
  | unchanged => exact same
  | chosen => rfl
  | loggedIn asked =>
    cases login.symm.trans asked
    exact configured
  | cleared kept =>
    have unset : s.databaseOverride = none := kept.resolve_right (by simp [configured])
    rw [← same, database, unset]
    rfl
  | restored chosen => exact chosen
  | interrupted =>
    obtain success | nothing := whole
    · cases success
    · cases nothing

/-- Only a choice and a reset are granted anything. -/
theorem Ends.nothing (ends : s.Ends r succeeded selections override) (other : r ≠ .reset)
    (others : ∀ database, r ≠ .selectDatabase database) : selections = [] := by
  cases ends with
  | unchanged => rfl
  | chosen database => exact (others database rfl).elim
  | loggedIn | cleared | restored | interrupted => exact (other rfl).elim

/-- The request to log in again names the configured database. -/
theorem ofCommand?_userChange {name : String}
    (username : 0 ∉ Utf8.encode s.config.credentials.username)
    (configured : s.config.database = some name) (named : name ≠ "") (text : 0 ∉ Utf8.encode name) :
    Selection.ofCommand? s.userChange.encode = some (.login (some name)) := by
  have within : ∀ other ∈ s.config.database, 0 ∉ Utf8.encode other := by
    rw [configured]
    rintro _ ⟨⟩
    exact text
  have database : s.userChange.database = name := congrArg (·.getD "") configured
  rw [Selection.ofCommand?_userChange,
    UserChange.decode_encode (isRegular_userChange username within)]
  simp [Except.toOption, database, named]

end requests

theorem isOk_of_failure? {outcome : Except ClientError (List ResultSet)}
    (answered : failure? (outcome.map fun _ => ()) = none) : outcome.isOk = true := by
  cases outcome with
  | ok results => rfl
  | error cause => cases answered

/-- What a call has been granted if it leaves the session connected. If it gives no error, what it was
granted is all that it has asked for. -/
theorem Call.run_ends (c : Call) (s : Session) (w : ω) :
    (c.run s w).2.1.config = s.config ∧ ((c.run s w).2.1.state = .connected →
      ∃ r succeeded,
        s.Ends r succeeded (granted (c.exchanges s w)) (c.run s w).2.1.databaseOverride ∧
        ((c.run s w).1 = none → succeeded = true ∨ granted (c.exchanges s w) = [])) := by
  cases asked : c.request s with
  | error cause =>
    rw [run_error asked, exchanges, asked]
    exact ⟨rfl, fun _ => ⟨.ping, false, .unchanged .ping false, fun _ => .inr rfl⟩⟩
  | ok r =>
    obtain ⟨known, ends⟩ := follow_grants patience (s.begin r) w [] (grants_begin asked)
    rw [(run_ok asked w).1, exchanges, asked]
    refine ⟨known, fun connected => ⟨r, _, ends connected, fun answered => ?_⟩⟩
    have quiet (other : r ≠ .reset) (others : ∀ database, r ≠ .selectDatabase database) :
        granted (transcript patience (s.begin r) w []) = [] := (ends connected).nothing other others
    cases c with
    | changeDatabase | reset =>
      cases asked
      exact .inl (isOk_of_failure? answered)
    | executeWith | queryWith =>
      obtain ⟨payload, -, rfl⟩ := exists_of_map_bind asked
      exact .inr (quiet (by simp) (by simp))
    | execute | query | queryMultiple | ping =>
      cases asked
      exact .inr (quiet (by simp) (by simp))

/-- What was sent and read in several calls, the latest first. -/
def exchangesOf : List Report → List Exchange
  | [] => []
  | r :: later => exchangesOf later ++ r.exchanges

theorem runAll_not_connected (calls : List Call) (s : Session) (w : ω) (busy : s.state ≠ .connected) :
    (runAll calls s w).2.1.state ≠ .connected := by
  induction calls generalizing s w with
  | nil => exact busy
  | cons c rest ih => exact ih _ _ (c.run_not_connected s w busy)

/-- What each call keeps that leaves the session connected holds after several calls that do. -/
theorem runAll_keeps {P : Session → List Selection → Prop} {F : Report → Prop}
    (keep : ∀ (c : Call) (s : Session) (w : ω) selections, P s selections → F (c.report s w) →
      (c.run s w).2.1.state = .connected →
      P (c.run s w).2.1 (granted (c.exchanges s w) ++ selections))
    (calls : List Call) {s : Session} {w : ω} {selections : List Selection} (start : P s selections)
    (fine : ∀ r ∈ (runAll calls s w).1, F r)
    (connected : (runAll calls s w).2.1.state = .connected) :
    P (runAll calls s w).2.1 (granted (exchangesOf (runAll calls s w).1) ++ selections) := by
  induction calls generalizing s w selections with
  | nil => exact start
  | cons c rest ih =>
    obtain ⟨first, others⟩ := List.forall_mem_cons.mp fine
    have between : (c.run s w).2.1.state = .connected :=
      Decidable.byContradiction fun busy => runAll_not_connected rest _ _ busy connected
    have later := ih (keep c s w selections start first between) others connected
    rw [runAll, exchangesOf, granted, List.filterMap_append, List.append_assoc]
    exact later

/-- A session that is connected says what is chosen, or else what is configured. -/
theorem runAll_shows (calls : List Call) {s : Session} {w : ω} (unset : s.databaseOverride = none)
    (connected : (runAll calls s w).2.1.state = .connected) :
    (runAll calls s w).2.1.database =
      (chosenAfter none (granted (exchangesOf (runAll calls s w).1))).or s.config.database := by
  have start : s.config = s.config ∧ s.database = (chosenAfter none []).or s.config.database := by
    rw [database, unset]
    exact ⟨rfl, rfl⟩
  have last := runAll_keeps (P := fun t selections => t.config = s.config ∧
    t.database = (chosenAfter none selections).or s.config.database) (F := fun _ => True)
    ?keep calls start (fun _ _ => trivial) connected
  case keep =>
    rintro c t w selections ⟨known, same⟩ - connected
    obtain ⟨kept, ends⟩ := c.run_ends t w
    obtain ⟨r, succeeded, ends, -⟩ := ends connected
    have shows := ends.shows (known ▸ same)
    refine ⟨kept.trans known, ?_⟩
    rw [database, kept, shows, chosenAfter_append, known]
  rw [← List.append_nil (granted _)]
  exact last.2

/-- A session that agrees with its server goes on to agree if the configured database can be selected
and each call gives no error or was granted nothing. -/
theorem runAll_agrees (calls : List Call) {s : Session} {w : ω} {server : Option String} {name : String}
    (same : s.database = server) (username : 0 ∉ Utf8.encode s.config.credentials.username)
    (configured : s.config.database = some name) (named : name ≠ "") (text : 0 ∉ Utf8.encode name)
    (whole : ∀ r ∈ (runAll calls s w).1, r.failure = none ∨ granted r.exchanges = [])
    (connected : (runAll calls s w).2.1.state = .connected) :
    (runAll calls s w).2.1.database =
      servedAfter server (granted (exchangesOf (runAll calls s w).1)) := by
  have start : s.config = s.config ∧ s.database = servedAfter server [] := ⟨rfl, same⟩
  have last := runAll_keeps (P := fun t selections => t.config = s.config ∧
    t.database = servedAfter server selections) ?keep calls start whole connected
  case keep =>
    rintro c t w selections ⟨known, same⟩ fine connected
    obtain ⟨kept, ends⟩ := c.run_ends t w
    obtain ⟨r, succeeded, ends, answered⟩ := ends connected
    have login := ofCommand?_userChange (known ▸ username) (known ▸ configured) named text
    have agrees := ends.agrees same (known ▸ configured) login (fine.elim answered .inr)
    refine ⟨kept.trans known, ?_⟩
    rw [database, kept, agrees, servedAfter_append]
  rw [← List.append_nil (granted _)]
  exact last.2

/-- What is said while a session is opened on a line. -/
def saidOn (config : Config) (deadline : Option Duration) (line : Nat) (w : ω) : List Said :=
  saidOpening config patience .start ⟨line, (Channel.start .start).withBudget
    (deadline.map fun limit => ⟨limit.nanos - (Network.now w).nanos⟩)⟩ w

/-- The database that a client's first payload carries, which is its login. -/
def carried (said : List Said) : Option String :=
  (said.findSome? Said.sent?).bind fun login => (Login.decode login).toOption.bind (·.database)

/-- The login that answers a greeting carries the configured database if the greeting offers that. -/
theorem carried_loginFor {config : Config} {greeting : Greeting} {c : Challenge} {payload : Bytes}
    {rest : List Said} (protocol : greeting.capabilities.contains .protocol41 = true)
    (secure : greeting.capabilities.contains .secureConnection = true)
    (username : 0 ∉ Utf8.encode config.credentials.username)
    (database : ∀ name ∈ config.database, 0 ∉ Utf8.encode name) :
    carried (.heard payload :: .sent (Opening.loginFor config greeting c).encode :: rest) =
      if greeting.capabilities.contains .connectWithDatabase then config.database else none := by
  have read := Login.decode_encode
    (Opening.isRegular_loginFor (c := c) protocol secure username database)
  rw [carried, List.findSome?_cons_of_isNone rfl, List.findSome?_cons_of_isSome rfl]
  change (Login.decode (Opening.loginFor config greeting c).encode).toOption.bind (·.database) = _
  rw [read, Opening.asRead_loginFor, Opening.loginFor_eq]
  rfl

/-- A session that has been opened has the configuration that it was opened with. -/
theorem openOn_eq_ok {config : Config} {number generation : Nat} {deadline : Option Duration}
    {host : String} {line : Nat} {w w' : ω} {s : Session}
    (opened : openOn config number generation deadline host line w = (.ok s, w')) :
    s.config = config ∧ s.databaseOverride = none ∧
      ∃ payload greeting c rest, Greeting.decode payload = .ok greeting ∧
        greeting.capabilities.contains .protocol41 = true ∧
        greeting.capabilities.contains .secureConnection = true ∧
        saidOn config deadline line w =
          .heard payload :: .sent (Opening.loginFor config greeting c).encode :: rest := by
  simp only [openOn] at opened
  split at opened
  · next welcome l w₁ followed =>
    cases opened
    exact ⟨rfl, rfl, opening_greeted followed⟩
  · cases opened

/-- The database that was chosen last, unless it was reset. -/
def chosenDatabase (reports : List Report) : Option String :=
  chosenAfter none (granted (exchangesOf reports))

/-- The database that a server has selected after a session was opened and used. What statements select
is not looked at. -/
def serverDatabase (said : List Said) (reports : List Report) : Option String :=
  servedAfter (carried said) (granted (exchangesOf reports))

/-- Whatever calls are made on a session and whatever the network brings, a session that is connected
says that the database is selected which was chosen since the last reset, or else the configured one.
The server agrees exactly if one was chosen or what it was told last is the configured database. It is
told that by the login if the greeting offers to be. Then they part only in a call that fails although
it was granted something. -/
theorem database_tracked {config : Config} {number generation : Nat} {deadline : Option Duration}
    {host : String} {line : Nat} {w w' : ω} {s : Session}
    (opened : openOn config number generation deadline host line w = (.ok s, w')) (calls : List Call)
    (connected : (runAll calls s w').2.1.state = .connected) :
    (runAll calls s w').2.1.database =
      (chosenDatabase (runAll calls s w').1).or config.database ∧
    ((runAll calls s w').2.1.database =
        serverDatabase (saidOn config deadline line w) (runAll calls s w').1 ↔
      chosenDatabase (runAll calls s w').1 ≠ none ∨
        serverDatabase (saidOn config deadline line w) (runAll calls s w').1 = config.database) ∧
    ∃ payload greeting, (saidOn config deadline line w).head? = some (.heard payload) ∧
      Greeting.decode payload = .ok greeting ∧
      (0 ∉ Utf8.encode config.credentials.username →
        (∀ name ∈ config.database, 0 ∉ Utf8.encode name) →
        carried (saidOn config deadline line w) =
          (if greeting.capabilities.contains .connectWithDatabase then config.database else none) ∧
        (greeting.capabilities.contains .connectWithDatabase = true →
          ∀ name, config.database = some name → name ≠ "" →
          (∀ r ∈ (runAll calls s w').1, r.failure = none ∨ granted r.exchanges = []) →
          (runAll calls s w').2.1.database =
            serverDatabase (saidOn config deadline line w) (runAll calls s w').1)) := by
  obtain ⟨rfl, unset, payload, greeting, c, rest, read, protocol, secure, said⟩ := openOn_eq_ok opened
  have shows := runAll_shows calls unset connected
  refine ⟨shows, ?_, payload, greeting, by rw [said, List.head?_cons], read, ?_⟩
  · rw [shows]
    change (chosenDatabase _).or _ = _ ↔ _
    cases chosen : chosenDatabase (runAll calls s w').1 with
    | none =>
      rw [Option.none_or]
      simp [eq_comm]
    | some name =>
      have served : serverDatabase (saidOn s.config deadline line w) (runAll calls s w').1 = some name :=
        servedAfter_of_chosen chosen
      simp [served]
  · intro username database
    have told : carried (saidOn s.config deadline line w) =
        if greeting.capabilities.contains .connectWithDatabase then s.config.database else none := by
      rw [said, carried_loginFor protocol secure username database]
    refine ⟨told, fun offered name configured named whole => ?_⟩
    rw [if_pos offered] at told
    have agrees : s.database = carried (saidOn s.config deadline line w) := by
      rw [told, Session.database, unset, Option.none_or]
    exact runAll_agrees calls agrees username configured named (database name configured) whole
      connected

/-- A client with a configured database. -/
def archivist : Config :=
  { Config.default with database := some "shop", credentials := ⟨"app", ""⟩ }

def success : Bytes := OkReply.encode ⟨0, 0, .autocommit, 0, ""⟩

/-- The greeting of a server with some more capabilities than it has to have. -/
def greetingWith (more : Capabilities) : Greeting :=
  { version := 10, serverVersion := "8.0.36", connectionId := 7, nonce := List.replicate 20 1
    capabilities := (Capabilities.protocol41.union .secureConnection).union more
    collation := 45, status := .autocommit, plugin := "" }

/-- A network that brings such a greeting, the welcome, and the answers to some commands. -/
def Scripted.ofVisit (more : Capabilities) (answers : List (List Bytes)) : Scripted :=
  ⟨⟨.zero, .zero, .data
      (Packet.encode ⟨0, (greetingWith more).encode⟩ ++ Packet.encode ⟨2, success⟩)⟩ ::
    (Scripted.ofAnswers answers).arrivals⟩

/-- The session that is opened on a network, and what is left of the network. -/
def Scripted.enter (w : Scripted) (config : Config) : Session × Scripted :=
  let (outcome, w) := openOn config 1 0 none "" 0 w
  (outcome.toOption.getD (fresh ""), w)

theorem openOn_enter {w : Scripted} {config : Config}
    (opened : (openOn config 1 0 none "" 0 w).1.isOk = true) :
    openOn config 1 0 none "" 0 w = (.ok (w.enter config).1, (w.enter config).2) := by
  rw [Scripted.enter]
  generalize openOn config 1 0 none "" 0 w = entered at opened ⊢
  obtain ⟨outcome, w'⟩ := entered
  cases outcome with
  | ok s => rfl
  | error cause => cases opened

/-- A server that grants a choice and a reset, and then the choice of the configured database. -/
def agreeable : Scripted :=
  .ofVisit .connectWithDatabase [[success], [success], [success]]

/-- After a reset that is granted in full the server has the configured database selected. -/
theorem database_tracked_restored :
    (runAll [.changeDatabase "archive", .reset] (agreeable.enter archivist).1
      (agreeable.enter archivist).2).2.1.database =
    serverDatabase (saidOn archivist none 0 agreeable)
      (runAll [.changeDatabase "archive", .reset] (agreeable.enter archivist).1
        (agreeable.enter archivist).2).1 := by
  have opened : (openOn archivist 1 0 none "" 0 agreeable).1.isOk = true := by decide +kernel
  obtain ⟨-, -, payload, greeting, heard, read, agrees⟩ := database_tracked (openOn_enter opened)
    [.changeDatabase "archive", .reset] (by decide +kernel)
  have first : (saidOn archivist none 0 agreeable).head? =
      some (.heard (greetingWith .connectWithDatabase).encode) := by decide +kernel
  cases Option.some.inj (first.symm.trans heard)
  have greeted : Greeting.decode (greetingWith .connectWithDatabase).encode =
      .ok (greetingWith .connectWithDatabase) := by decide +kernel
  cases Except.ok.inj (greeted.symm.trans read)
  exact (agrees (by decide +kernel) (by decide +kernel)).2 (by decide) "shop" rfl (by decide)
    (by decide +kernel)

/-- Whether a session that is opened on a network and used is connected in the end, what it says then
that is selected, and what the server has selected. -/
def Leaves (config : Config) (w : Scripted) (calls : List Call) (shown served : Option String) : Prop :=
  ∃ s w', openOn config 1 0 none "" 0 w = (.ok s, w') ∧
    (runAll calls s w').2.1.state = .connected ∧ (runAll calls s w').2.1.database = shown ∧
    serverDatabase (saidOn config none 0 w) (runAll calls s w').1 = served

/-- A server that grants a reset keeps the database that was chosen, if it refuses to select the
configured one or if there is none; and one that takes no database with the login has none selected.
The session says otherwise. -/
theorem database_parted :
    Leaves archivist (.ofVisit .connectWithDatabase [[success], [success],
        [ErrorReply.encode ⟨1049, "42000", "Unknown database 'shop'"⟩]])
      [.changeDatabase "archive", .reset] (some "shop") (some "archive") ∧
    Leaves { archivist with database := none } (.ofVisit .connectWithDatabase [[success], [success]])
      [.changeDatabase "archive", .reset] none (some "archive") ∧
    Leaves archivist (.ofVisit ⟨0⟩ []) [] (some "shop") none := by
  refine ⟨?refused, ?unconfigured, ?untold⟩
  case refused => exact ⟨_, _, openOn_enter (by decide +kernel), by decide +kernel⟩
  case unconfigured => exact ⟨_, _, openOn_enter (by decide +kernel), by decide +kernel⟩
  case untold => exact ⟨_, _, openOn_enter (by decide +kernel), by decide +kernel⟩

end Session

end SqlWire
