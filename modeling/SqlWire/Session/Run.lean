import SqlWire.Session.Network

/-! # Running commands

Each command of a session, from its first turn to its end, on a network. The time that a command
may take starts when it is sent; between commands no time is limited.
-/

namespace SqlWire

namespace Session

variable {ω : Type} [Network ω]

def withBudget (s : Session) (budget : Option Duration) : Session :=
  { s with link := s.link.withBudget budget }

/-- Follows the turns of a session to their end, and says what comes of the request. -/
def follow : Nat → Session × Turn → ω → Except ClientError (List ResultSet) × Session × ω
  | _, (s, .finished outcome), w => (outcome, s.withBudget none, w)
  | 0, (s, .command _ pending), w | 0, (s, .reply _ pending), w | 0, (s, .wait pending), w =>
    (.error (.ofChannel .timeout),
      (s.failed pending (.ofChannel .timeout)).withBudget none, w)
  | turns + 1, (s, .command payload pending), w =>
    match (s.link.withBudget s.config.commandTimeout.nonZero?).command payload w with
    | (.ok (), link, w) => follow turns ({ s with link }, .wait pending) w
    | (.error cause, link, w) => follow turns ({ s with link }.resume pending (.error cause)) w
  | turns + 1, (s, .reply payload pending), w =>
    match s.link.send payload w with
    | (.ok (), link, w) => follow turns ({ s with link }, .wait pending) w
    | (.error cause, link, w) => follow turns ({ s with link }.resume pending (.error cause)) w
  | turns + 1, (s, .wait pending), w =>
    match s.link.receive w with
    | (result, link, w) => follow turns ({ s with link }.resume pending result) w

def ask (s : Session) (request : Request) (w : ω) :
    Except ClientError (List ResultSet) × Session × ω :=
  follow patience (s.begin request) w

/-- Runs a request of which only the success matters. -/
def askUnit (s : Session) (request : Request) (w : ω) : Except ClientError Unit × Session × ω :=
  let (outcome, s, w) := s.ask request w
  (outcome.map fun _ => (), s, w)

/-- Whether the server answers a ping. -/
def ping (s : Session) (w : ω) : Bool × Session × ω :=
  let (outcome, s, w) := s.ask .ping w
  (outcome.isOk, s, w)

/-- Gives the server's side of the session back the state of a new one. -/
def reset (s : Session) (w : ω) : Except ClientError Unit × Session × ω := s.askUnit .reset w

def changeDatabase (s : Session) (database : String) (w : ω) :
    Except ClientError Unit × Session × ω := s.askUnit (.selectDatabase database) w

/-- Runs a statement whose payload may have failed to be made. -/
def runPayload {α : Type} (s : Session) (payload : Except ClientError Bytes)
    (take : List ResultSet → Except ClientError α) (w : ω) : Except ClientError α × Session × ω :=
  match payload with
  | .error cause => (.error cause, s, w)
  | .ok payload =>
    let (outcome, s, w) := s.ask (.statement payload) w
    (outcome.bind take, s, w)

/-- The payload of a statement with its placeholders filled. -/
def bind (s : Session) (sql : String) (ps : Parameters) : Except ClientError Bytes :=
  Binding.payload s.bindingOptions ps sql

/-- Runs a statement and gives every result. -/
def queryMultiple (s : Session) (sql : String) (w : ω) :
    Except ClientError (List ResultSet) × Session × ω :=
  s.runPayload (.ok (Command.encodeQuery sql)) .ok w

/-- Runs a statement and gives its table. -/
def query (s : Session) (sql : String) (w : ω) : Except ClientError ResultSet × Session × ω :=
  s.runPayload (.ok (Command.encodeQuery sql)) ResultSet.firstTable w

/-- Runs a statement and counts the rows that it has affected. -/
def execute (s : Session) (sql : String) (w : ω) : Except ClientError UInt64 × Session × ω :=
  s.runPayload (.ok (Command.encodeQuery sql)) (.ok ∘ ResultSet.totalAffected) w

/-- Fills the placeholders of a statement, runs it and gives its table. -/
def queryWith (s : Session) (sql : String) (ps : Parameters) (w : ω) :
    Except ClientError ResultSet × Session × ω :=
  s.runPayload (s.bind sql ps) ResultSet.firstTable w

/-- Fills the placeholders of a statement, runs it and counts the rows that it has affected. -/
def executeWith (s : Session) (sql : String) (ps : Parameters) (w : ω) :
    Except ClientError UInt64 × Session × ω :=
  s.runPayload (s.bind sql ps) (.ok ∘ ResultSet.totalAffected) w

/-- Sends a command by hand; the answer is for the caller to read. -/
def send (s : Session) (payload : Bytes) (w : ω) : Except ClientError Unit × Session × ω :=
  match s.startByHand with
  | (.error cause, s) => (.error cause, s, w)
  | (.ok (), s) =>
    let (result, link, w) := s.link.command payload w
    let (result, s) := { s with link }.afterCall result
    (result, s, w)

/-- Reads a payload of an answer by hand. -/
def receive (s : Session) (w : ω) : Except ClientError Bytes × Session × ω :=
  let (result, link, w) := s.link.receive w
  let (result, s) := { s with link }.afterCall result
  (result, s, w)

def farewellTime : Duration := .ofSeconds 1

/-- Closes a session for good. A server that still takes part is told so; that it cannot be told is
no failure. -/
def dispose (s : Session) (w : ω) : Except ClientError Unit × Session × ω :=
  let link := s.link.withBudget (some farewellTime)
  let (link, w) :=
    if s.state.isUsable then (link.command Command.quit.encode w).2 else (link, w)
  let (result, link, w) := link.close w
  (result.mapError .ofChannel, { s.closed with link := link.withBudget none }, w)

end Session

end SqlWire
