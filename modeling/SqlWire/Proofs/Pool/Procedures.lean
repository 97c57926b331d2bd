import SqlWire.Pool.Connection
import SqlWire.Proofs.Outcome
import SqlWire.Proofs.Routine.Name
import SqlWire.Proofs.Session.Use

/-! # Routines are described once

A connection remembers the routines that its server has described and gives them out as objects that
all calls share. `SharingConnection` is a connection with these objects: each is made for one answer of
the server and has its own number. Without the numbers it is the connection that runs
(`plain_procedure`, `plain_run`).

A run is any sequence of look-ups and other calls. `Describes` lists what a look-up can come to.
`Remembers` relates what a connection remembers to what the calls before have given: it holds of a
connection that was just opened, every call keeps it (`Remembers.step`), and so it holds at every moment
of a run (`Remembers.at_moment`). `procedures_described` draws the consequences.
-/

namespace SqlWire

namespace Session

variable {ω : Type} [Network ω]

omit [Network ω] in
theorem snd_reported {α : Type} (result : Except ClientError α × Session × ω) :
    (reported result).2 = result.2 := rfl

theorem serverVersion_queryWith (s : Session) (sql : String) (ps : Parameters) (w : ω) :
    (s.queryWith sql ps w).2.1.serverVersion = s.serverVersion := by
  have kept := (Call.queryWith sql ps).frame_run s w
  rw [Call.run, snd_reported] at kept
  exact serverVersion_of_frame kept

end Session

namespace Procedure

variable {ω : Type} [Network ω]

/-- What comes of asking about a routine comes of the query. The answer is named, so that a proof can
go on without the text of the query. -/
theorem fetch_of_query {name : RoutineName} {s : Session} {w : ω}
    {answer : Except ClientError ResultSet × Session × ω}
    (asked : s.queryWith parametersQuery (queryParameters name) w = answer) :
    fetch name s w = (answer.1.bind (ofResult name), answer.2) := by
  rw [fetch, asked]

theorem serverVersion_fetch (name : RoutineName) (s : Session) (w : ω) :
    (fetch name s w).2.1.serverVersion = s.serverVersion := by
  have same := s.serverVersion_queryWith parametersQuery (queryParameters name) w
  rcases asked : s.queryWith parametersQuery (queryParameters name) w with ⟨result, t, later⟩
  rw [asked] at same
  rw [fetch_of_query asked]
  exact same

/-- A routine is described by the name that was asked for. -/
theorem name_fetch {name : RoutineName} {s : Session} {w : ω} {procedure : Procedure}
    (fetched : (fetch name s w).1 = .ok procedure) : procedure.name = name := by
  rcases asked : s.queryWith parametersQuery (queryParameters name) w with ⟨answer, t, later⟩
  rw [fetch_of_query asked] at fetched
  obtain ⟨result, -, described⟩ := Outcome.bind_eq_ok fetched
  obtain ⟨parameters, -, made⟩ := Outcome.bind_eq_ok described
  exact congrArg Procedure.name (Except.ok.inj made).symm

end Procedure

/-- A described routine as an object: the number tells it from every other object. -/
structure SharedProcedure where
  number : Nat
  procedure : Procedure
deriving Repr, DecidableEq

/-- A connection that gives described routines out as objects. -/
structure SharingConnection where
  session : Session
  pool : Option String
  config : Config
  /-- The objects that are known, by the qualified names of their routines. -/
  shared : List (String × SharedProcedure)
  /-- How many objects were made. -/
  made : Nat

namespace SharingConnection

def opened (session : Session) (pool : Option String) (config : Config) : SharingConnection :=
  ⟨session, pool, config, [], 0⟩

/-- The connection without the numbers of its objects. -/
def plain (c : SharingConnection) : Connection :=
  ⟨c.session, c.pool, c.config, c.shared.map fun (key, object) => (key, object.procedure)⟩

/-- The connection with a new object for a routine. -/
def learn (c : SharingConnection) (name : RoutineName) (procedure : Procedure) :
    SharingConnection :=
  { c with shared := (name.qualified, ⟨c.made, procedure⟩) :: c.shared, made := c.made + 1 }

theorem lookup_learn {c : SharingConnection} {name : RoutineName} {procedure : Procedure}
    {key : String} {object : SharedProcedure} :
    (c.learn name procedure).shared.lookup key = some object ↔
      key = name.qualified ∧ ⟨c.made, procedure⟩ = object ∨
        key ≠ name.qualified ∧ c.shared.lookup key = some object := by
  by_cases same : key = name.qualified
  · simp [learn, same]
  · simp [learn, same, List.lookup_cons, beq_false_of_ne same]

variable {ω : Type} [Network ω]

/-- The object of a routine: it is known, or one is made of the server's answer. -/
def fetchProcedure (c : SharingConnection) (name : RoutineName) (w : ω) :
    Except ClientError SharedProcedure × SharingConnection × ω :=
  match c.shared.lookup name.qualified with
  | some object => (.ok object, c, w)
  | none =>
    match Procedure.fetch name c.session w with
    | (.ok procedure, session, w) =>
      (.ok ⟨c.made, procedure⟩, { c with session }.learn name procedure, w)
    | (.error cause, session, w) => (.error cause, { c with session }, w)

/-- The object of the routine that a text names. -/
def procedure (c : SharingConnection) (text : String) (w : ω) :
    Except ClientError (Option SharedProcedure) × SharingConnection × ω :=
  if !c.session.serverVersion.describesRoutines then (.ok none, c, w)
  else
    match RoutineName.ofText c.session.database text with
    | .error cause => (.error (.binding cause), c, w)
    | .ok name =>
      let (result, c, w) := c.fetchProcedure name w
      (result.map some, c, w)

/-! ## Without the numbers -/

@[simp] theorem session_plain (c : SharingConnection) : c.plain.session = c.session := rfl

theorem lookup_plain (c : SharingConnection) (key : String) :
    c.plain.procedures.lookup key = (c.shared.lookup key).map (·.procedure) := by
  simp only [plain]
  induction c.shared with
  | nil => rfl
  | cons entry rest ih =>
    obtain ⟨other, object⟩ := entry
    rw [List.map_cons, List.lookup_cons, List.lookup_cons, ih]
    cases key == other <;> rfl

omit [Network ω] in
theorem onSession_plain {α : Type} (c : SharingConnection) (action : Session → ω → α × Session × ω)
    (w : ω) : c.plain.onSession action w = ((action c.session w).1,
      { c with session := (action c.session w).2.1 }.plain, (action c.session w).2.2) := rfl

theorem plain_fetchProcedure (c : SharingConnection) (name : RoutineName) (w : ω) :
    c.plain.fetchProcedure name w =
      ((c.fetchProcedure name w).1.map (·.procedure), (c.fetchProcedure name w).2.1.plain,
        (c.fetchProcedure name w).2.2) := by
  rw [Connection.fetchProcedure, fetchProcedure, lookup_plain]
  cases c.shared.lookup name.qualified with
  | some object => rfl
  | none =>
    rw [onSession_plain]
    generalize Procedure.fetch name c.session w = answer
    obtain ⟨_ | _, session, w⟩ := answer <;> rfl

theorem plain_procedure (c : SharingConnection) (text : String) (w : ω) :
    c.plain.procedure text w =
      ((c.procedure text w).1.map (Option.map (·.procedure)), (c.procedure text w).2.1.plain,
        (c.procedure text w).2.2) := by
  rw [Connection.procedure, procedure, session_plain]
  split
  · rfl
  · cases RoutineName.ofText c.session.database text with
    | error cause => rfl
    | ok name =>
      simp only [plain_fetchProcedure]
      cases (c.fetchProcedure name w).1 <;> rfl

/-! ## One look-up -/

/-- What comes of looking up a routine on a server that describes routines. -/
inductive Describes (c : SharingConnection) (text : String) (w : ω) :
    Except ClientError (Option SharedProcedure) × SharingConnection × ω → Prop
  /-- The text names no routine. -/
  | unnamed {cause : BindingError}
    (unread : RoutineName.ofText c.session.database text = .error cause) :
    Describes c text w (.error (.binding cause), c, w)
  | known {name : RoutineName} {object : SharedProcedure}
    (named : RoutineName.ofText c.session.database text = .ok name)
    (found : c.shared.lookup name.qualified = some object) :
    Describes c text w (.ok (some object), c, w)
  | made {name : RoutineName} {procedure : Procedure} {session : Session} {later : ω}
    (named : RoutineName.ofText c.session.database text = .ok name)
    (missing : c.shared.lookup name.qualified = none)
    (fetched : Procedure.fetch name c.session w = (.ok procedure, session, later)) :
    Describes c text w (.ok (some ⟨c.made, procedure⟩),
      { c with session := session }.learn name procedure, later)
  | failed {name : RoutineName} {cause : ClientError} {session : Session} {later : ω}
    (named : RoutineName.ofText c.session.database text = .ok name)
    (missing : c.shared.lookup name.qualified = none)
    (fetched : Procedure.fetch name c.session w = (.error cause, session, later)) :
    Describes c text w (.error cause, { c with session := session }, later)

theorem describes_procedure {c : SharingConnection}
    (recent : c.session.serverVersion.describesRoutines = true) (text : String) (w : ω) :
    Describes c text w (c.procedure text w) := by
  rw [procedure, recent, Bool.not_true, if_neg Bool.false_ne_true]
  cases named : RoutineName.ofText c.session.database text with
  | error cause => exact .unnamed named
  | ok name =>
    simp only [fetchProcedure]
    cases found : c.shared.lookup name.qualified with
    | some object => exact .known named found
    | none =>
      rcases fetched : Procedure.fetch name c.session w with ⟨result, session, later⟩
      cases result with
      | ok procedure => exact .made named found fetched
      | error cause => exact .failed named found fetched

/-! ## A run -/

/-- What is called on a connection. -/
inductive Call where
  | procedure (text : String)
  | session (c : Session.Call)
deriving DecidableEq

/-- A call at the moment at which it is made. -/
structure Moment (ω : Type) where
  connection : SharingConnection
  network : ω
  call : Call

namespace Moment

def next (m : Moment ω) : SharingConnection × ω :=
  match m.call with
  | .procedure text => (m.connection.procedure text m.network).2
  | .session call =>
    let (_, session, network) := call.run m.connection.session m.network
    ({ m.connection with session }, network)

/-- Whether a call gives an object for a name, which is read under the database selected then. -/
def Gives (m : Moment ω) (name : RoutineName) (object : SharedProcedure) : Prop :=
  ∃ text, m.call = .procedure text ∧
    RoutineName.ofText m.connection.session.database text = .ok name ∧
    (m.connection.procedure text m.network).1 = .ok (some object)

/-- Whether a call asks the server about a name, and makes an object of the answer. -/
def Makes (m : Moment ω) (name : RoutineName) (object : SharedProcedure) : Prop :=
  m.Gives name object ∧
    Procedure.fetch name m.connection.session m.network =
      (.ok object.procedure, m.next.1.session, m.next.2)

variable {m : Moment ω} {text : String} {name : RoutineName} {object : SharedProcedure}

theorem next_procedure (asked : m.call = .procedure text) :
    m.next = (m.connection.procedure text m.network).2 := by
  rw [next, asked]

theorem next_session {call : Session.Call} (asked : m.call = .session call) :
    m.next = ({ m.connection with session := (call.run m.connection.session m.network).2.1 },
      (call.run m.connection.session m.network).2.2) := by
  rw [next, asked]

/-- What a look-up gives, and for which name. -/
theorem gives_iff (asked : m.call = .procedure text) :
    m.Gives name object ↔ RoutineName.ofText m.connection.session.database text = .ok name ∧
      (m.connection.procedure text m.network).1 = .ok (some object) := by
  constructor
  · rintro ⟨other, looked, gives⟩
    obtain rfl : text = other := Call.procedure.inj (asked.symm.trans looked)
    exact gives
  · intro gives
    exact ⟨text, asked, gives⟩

/-- The object that a call has made is described by the name that was asked for. -/
theorem Makes.name_eq (makes : m.Makes name object) : object.procedure.name = name :=
  Procedure.name_fetch (congrArg Prod.fst makes.2)

end Moment

def run : List Call → SharingConnection → ω → List (Moment ω)
  | [], _, _ => []
  | call :: rest, c, w =>
    let m : Moment ω := ⟨c, w, call⟩
    m :: run rest m.next.1 m.next.2

/-- The call of a moment on the connection without numbers. -/
def Call.runPlain (c : Connection) (w : ω) : Call → Connection × ω
  | .procedure text => (c.procedure text w).2
  | .session call => (c.onSession (fun session w => call.run session w) w).2

/-- The moments of a sequence of calls on the connection without numbers. -/
def runPlain : List Call → Connection → ω → List (Connection × ω × Call)
  | [], _, _ => []
  | call :: rest, c, w =>
    let (next, later) := call.runPlain c w
    (c, w, call) :: runPlain rest next later

def Moment.plain (m : Moment ω) : Connection × ω × Call := (m.connection.plain, m.network, m.call)

theorem plain_next (m : Moment ω) :
    (m.next.1.plain, m.next.2) = m.call.runPlain m.connection.plain m.network := by
  obtain ⟨c, w, call⟩ := m
  cases call with
  | procedure text => rw [Call.runPlain, plain_procedure]; rfl
  | session call => rfl

/-- A run without its numbers is the run of a connection. -/
theorem plain_run (calls : List Call) (c : SharingConnection) (w : ω) :
    (run calls c w).map Moment.plain = runPlain calls c.plain w := by
  induction calls generalizing c w with
  | nil => rfl
  | cons call rest ih =>
    rw [run, List.map_cons, ih, runPlain]
    have next := plain_next (⟨c, w, call⟩ : Moment ω)
    rw [← next]
    rfl

/-! ## What is remembered -/

/-- What a connection remembers of the moments before: what their calls have given, each made of an
answer at one of them, with a number of its own. -/
structure Remembers (earlier : List (Moment ω)) (c : SharingConnection) : Prop where
  recent : c.session.serverVersion.describesRoutines = true
  given : ∀ m ∈ earlier, ∀ name object, m.Gives name object →
    c.shared.lookup name.qualified = some object
  made : ∀ name object, c.shared.lookup name.qualified = some object →
    ∃ m ∈ earlier, m.Makes name object
  numbered : ∀ {key other object second}, c.shared.lookup key = some object →
    c.shared.lookup other = some second → object.number = second.number → key = other
  below : ∀ {key object}, c.shared.lookup key = some object → object.number < c.made

namespace Remembers

variable {earlier : List (Moment ω)} {m : Moment ω}

theorem start {session : Session} (recent : session.serverVersion.describesRoutines = true)
    (pool : Option String) (config : Config) :
    Remembers ([] : List (Moment ω)) (opened session pool config) where
  recent := recent
  given _ member := (List.not_mem_nil member).elim
  made _ _ found := by simp [opened] at found
  numbered found := by simp [opened] at found
  below found := by simp [opened] at found

/-- A call that gives only what is known, and makes nothing, leaves everything remembered. -/
theorem quiet (remembers : Remembers earlier m.connection)
    (same : m.next.1.session.serverVersion = m.connection.session.serverVersion)
    (shared : m.next.1.shared = m.connection.shared) (made : m.next.1.made = m.connection.made)
    (known : ∀ name object, m.Gives name object →
      m.connection.shared.lookup name.qualified = some object) :
    Remembers (earlier ++ [m]) m.next.1 where
  recent := same ▸ remembers.recent
  given n member name object gives := by
    rw [shared]
    obtain before | rfl := by simpa using member
    · exact remembers.given n before name object gives
    · exact known name object gives
  made name object found := by
    rw [shared] at found
    obtain ⟨source, before, makes⟩ := remembers.made name object found
    exact ⟨source, List.mem_append_left _ before, makes⟩
  numbered := by
    rw [shared]
    exact remembers.numbered
  below := by
    rw [shared, made]
    exact remembers.below

/-- A call that makes an object for a name that was missing adds it to what is remembered. -/
theorem enter {name : RoutineName} {procedure : Procedure} {session : Session}
    (remembers : Remembers earlier m.connection)
    (same : session.serverVersion = m.connection.session.serverVersion)
    (missing : m.connection.shared.lookup name.qualified = none)
    (learnt : m.next.1 = { m.connection with session := session }.learn name procedure)
    (makes : m.Makes name ⟨m.connection.made, procedure⟩)
    (only : ∀ other object, m.Gives other object →
      other = name ∧ object = ⟨m.connection.made, procedure⟩) :
    Remembers (earlier ++ [m]) m.next.1 := by
  have below {key : String} {object : SharedProcedure}
      (found : m.next.1.shared.lookup key = some object) :
      key = name.qualified ∧ object.number = m.connection.made ∨
        object.number < m.connection.made ∧ m.connection.shared.lookup key = some object := by
    rw [learnt, lookup_learn] at found
    obtain ⟨rfl, rfl⟩ | ⟨-, before⟩ := found
    · exact .inl ⟨rfl, rfl⟩
    · exact .inr ⟨remembers.below before, before⟩
  constructor
  case recent =>
    rw [learnt]
    exact same ▸ remembers.recent
  case given =>
    intro n member other object gives
    rw [learnt, lookup_learn]
    obtain before | rfl := by simpa using member
    · have found := remembers.given n before other object gives
      refine .inr ⟨?_, found⟩
      intro equal
      rw [equal] at found
      exact Option.some_ne_none _ (found.symm.trans missing)
    · obtain ⟨rfl, rfl⟩ := only other object gives
      exact .inl ⟨rfl, rfl⟩
  case made =>
    intro other object found
    rw [learnt, lookup_learn] at found
    obtain ⟨equal, rfl⟩ | ⟨-, before⟩ := found
    · obtain rfl := RoutineName.qualified_injective equal
      exact ⟨m, by simp, makes⟩
    · obtain ⟨source, member, made⟩ := remembers.made other object before
      exact ⟨source, List.mem_append_left _ member, made⟩
  case numbered =>
    intro key other object second found found' same
    obtain ⟨rfl, first⟩ | ⟨first, before⟩ := below found <;>
      obtain ⟨rfl, last⟩ | ⟨last, before'⟩ := below found'
    · rfl
    · omega
    · omega
    · exact remembers.numbered before before' same
  case below =>
    intro key object found
    have made : m.next.1.made = m.connection.made + 1 := by rw [learnt, learn]
    rw [made]
    obtain ⟨-, number⟩ | ⟨number, -⟩ := below found <;> omega

theorem step_session {call : Session.Call} (remembers : Remembers earlier m.connection)
    (asked : m.call = .session call) : Remembers (earlier ++ [m]) m.next.1 := by
  have next := Moment.next_session asked
  refine remembers.quiet ?_ (by rw [next]) (by rw [next]) ?_
  · rw [next]
    exact Session.serverVersion_of_frame (call.frame_run m.connection.session m.network)
  · rintro name object ⟨text, looked, -⟩
    cases asked.symm.trans looked

theorem step_procedure {text : String} (remembers : Remembers earlier m.connection)
    (asked : m.call = .procedure text) : Remembers (earlier ++ [m]) m.next.1 := by
  have next := Moment.next_procedure asked
  have gives {name : RoutineName} {object : SharedProcedure} :
      m.Gives name object ↔ RoutineName.ofText m.connection.session.database text = .ok name ∧
        (m.connection.procedure text m.network).1 = .ok (some object) := Moment.gives_iff asked
  have described := describes_procedure remembers.recent text m.network
  generalize outcome : m.connection.procedure text m.network = result at described next gives
  cases described with
  | unnamed unread =>
    refine remembers.quiet (by rw [next]) (by rw [next]) (by rw [next]) ?_
    intro name object given
    cases (gives.mp given).2
  | @known name object named found =>
    refine remembers.quiet (by rw [next]) (by rw [next]) (by rw [next]) ?_
    intro other second given
    obtain ⟨named', given⟩ := gives.mp given
    cases given
    cases named.symm.trans named'
    exact found
  | @made name procedure session later named missing fetched =>
    have version := Procedure.serverVersion_fetch name m.connection.session m.network
    rw [fetched] at version
    have makes : m.Makes name ⟨m.connection.made, procedure⟩ := by
      refine ⟨gives.mpr ⟨named, rfl⟩, ?_⟩
      rw [fetched, next]
      rfl
    refine remembers.enter version missing (by rw [next]) makes ?_
    intro other object given
    obtain ⟨named', given⟩ := gives.mp given
    exact ⟨Except.ok.inj (named'.symm.trans named), (Option.some.inj (Except.ok.inj given)).symm⟩
  | @failed name cause session later named missing fetched =>
    have version := Procedure.serverVersion_fetch name m.connection.session m.network
    rw [fetched] at version
    refine remembers.quiet ?_ (by rw [next]) (by rw [next]) ?_
    · rw [next]
      exact version
    · intro name object given
      cases (gives.mp given).2

/-- Every call keeps what is remembered. -/
theorem step (remembers : Remembers earlier m.connection) :
    Remembers (earlier ++ [m]) m.next.1 := by
  cases asked : m.call with
  | session call => exact remembers.step_session asked
  | procedure text => exact remembers.step_procedure asked

/-- What is remembered at a moment of a run. -/
theorem at_moment {calls : List Call} {c : SharingConnection} {w : ω} {passed later : List (Moment ω)}
    (remembers : Remembers earlier c) (split : run calls c w = passed ++ m :: later) :
    Remembers (earlier ++ passed) m.connection := by
  induction calls generalizing earlier c w passed with
  | nil => simp [run] at split
  | cons call rest ih =>
    rw [run] at split
    cases passed with
    | nil =>
      obtain ⟨rfl, -⟩ := List.cons.inj split
      simpa using remembers
    | cons first passed =>
      obtain ⟨rfl, onward⟩ := List.cons.inj split
      have next := ih remembers.step onward
      rwa [List.append_assoc, List.singleton_append] at next

/-- What is remembered at the end of a run. -/
theorem at_end {c : SharingConnection} (remembers : Remembers earlier c) (calls : List Call) (w : ω) :
    ∃ last, Remembers (earlier ++ run calls c w) last := by
  induction calls generalizing earlier c w with
  | nil => exact ⟨c, by simpa [run] using remembers⟩
  | cons call rest ih =>
    obtain ⟨last, kept⟩ := ih (remembers.step (m := ⟨c, w, call⟩)) _
    refine ⟨last, ?_⟩
    rw [run]
    rwa [List.append_assoc, List.singleton_append] at kept

end Remembers

/-! ## What calls get -/

/-- What a look-up comes to at a moment of a run, after earlier moments. -/
structure Moment.IsDescribed (earlier : List (Moment ω)) (m : Moment ω) (text : String) : Prop where
  /-- Without the numbers it is the look-up of a connection. -/
  plain : m.connection.plain.procedure text m.network =
    ((m.connection.procedure text m.network).1.map (Option.map (·.procedure)),
      m.next.1.plain, m.next.2)
  /-- A success is the object made of the server's answer, now or at an earlier moment, about the
  schema and the component that the text names under the database that is selected now. -/
  succeeded : ∀ found, (m.connection.procedure text m.network).1 = .ok found →
    ∃ name object, RoutineName.ofText m.connection.session.database text = .ok name ∧
      found = some object ∧ object.procedure.name = name ∧
      ∃ source ∈ earlier ++ [m], source.Makes name object
  /-- Nothing is sent, except the question about a name that was never answered before. -/
  asked : m.next = (m.connection, m.network) ∨
    ∃ name, RoutineName.ofText m.connection.session.database text = .ok name ∧
      (∀ source ∈ earlier, ∀ object, ¬ source.Gives name object) ∧
      (m.next.1.session, m.next.2) = (Procedure.fetch name m.connection.session m.network).2
  /-- A failure leaves what is known as it was. -/
  failed : ∀ cause, (m.connection.procedure text m.network).1 = .error cause →
    m.next.1.shared = m.connection.shared

section look

variable {earlier : List (Moment ω)} {m : Moment ω} {text : String}

/-- A name that is not known was given by none of the earlier calls. -/
theorem Remembers.not_gives {c : SharingConnection} {name : RoutineName}
    (remembers : Remembers earlier c) (missing : c.shared.lookup name.qualified = none)
    (source : Moment ω) (before : source ∈ earlier) (object : SharedProcedure) :
    ¬ source.Gives name object := by
  intro gives
  have found := remembers.given source before name object gives
  exact Option.some_ne_none _ (found.symm.trans missing)

/-- A look-up by a connection that remembers the earlier moments. -/
theorem Remembers.isDescribed (remembers : Remembers earlier m.connection)
    (asked : m.call = .procedure text) : m.IsDescribed earlier text := by
  have next := Moment.next_procedure asked
  have described := describes_procedure remembers.recent text m.network
  constructor
  case plain =>
    rw [next]
    exact plain_procedure m.connection text m.network
  case succeeded =>
    intro found given
    obtain ⟨name, object, named, rfl⟩ : ∃ name object,
        RoutineName.ofText m.connection.session.database text = .ok name ∧
          found = some object := by
      generalize m.connection.procedure text m.network = result at described given
      cases described with
      | unnamed => cases given
      | known named => exact ⟨_, _, named, (Except.ok.inj given).symm⟩
      | made named => exact ⟨_, _, named, (Except.ok.inj given).symm⟩
      | failed => cases given
    have remembered := remembers.step
    have gives : m.Gives name object := ⟨text, asked, named, given⟩
    obtain ⟨source, member, makes⟩ :=
      remembered.made name object (remembered.given m (by simp) name object gives)
    exact ⟨name, object, named, rfl, makes.name_eq, source, member, makes⟩
  case asked =>
    rw [next]
    generalize m.connection.procedure text m.network = result at described
    cases described with
    | unnamed | known => exact .inl rfl
    | made named missing fetched | failed named missing fetched =>
      exact .inr ⟨_, named, remembers.not_gives missing, (congrArg Prod.snd fetched).symm⟩
  case failed =>
    intro cause given
    rw [next]
    generalize m.connection.procedure text m.network = result at described given
    cases described with
    | known | made => cases given
    | unnamed | failed => rfl

/-- What calls have given is told apart by its numbers exactly as by its names. -/
theorem Remembers.same_iff {c : SharingConnection} (remembers : Remembers earlier c)
    {first second : Moment ω} (before : first ∈ earlier) (before' : second ∈ earlier)
    {name other : RoutineName} {object another : SharedProcedure} (gives : first.Gives name object)
    (gives' : second.Gives other another) :
    (object.number = another.number ↔ name = other) ∧ (name = other → object = another) := by
  have found := remembers.given first before name object gives
  have found' := remembers.given second before' other another gives'
  have same : name = other → object = another := by
    rintro rfl
    exact Option.some.inj (found.symm.trans found')
  refine ⟨⟨?_, fun equal => congrArg _ (same equal)⟩, same⟩
  intro equal
  exact RoutineName.qualified_injective (remembers.numbered found found' equal)

end look

/-- The answer of a server that knows no parameters of a routine. -/
def noParameters : List Bytes :=
  let columns := ["ORDINAL_POSITION", "PARAMETER_MODE", "PARAMETER_NAME", "DATA_TYPE",
    "DTD_IDENTIFIER"]
  let terminator := EofReply.encode ⟨0, .autocommit⟩
  encodeColumnCount columns.length
    :: columns.map (fun name => (ColumnDefinition.new name .varString).encode)
      ++ [terminator, terminator]

/-- A visit to a server that describes a routine and lets a database be selected. The routine is named
twice: with its schema, between backticks, and without it when the schema is selected. -/
def respelled : List (Moment Session.Scripted) :=
  run [.procedure "\x60shop\x60.add", .session (.changeDatabase "shop"), .procedure " add "]
    (opened (.fresh "8.0.36") none .default)
    (.ofAnswers [noParameters, [[0, 0, 0, 2, 0, 0, 0]]])

end SharingConnection

end SqlWire
