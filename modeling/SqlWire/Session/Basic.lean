import SqlWire.Framing.Channel
import SqlWire.Message.ServerVersion
import SqlWire.Result.Reading
import SqlWire.Session.Opening
import SqlWire.Session.State

/-! # Sessions

A session is a connection on which a server has let a client in. Commands follow one another: each
is sent by a session that is connected, and only the end of its answer makes the session connected
again. Whatever leaves the place in the answer unknown breaks the session, and so does a command
that is started while another one waits.

What a session does is said in turns. `Session.begin` gives the first turn of a request, and
`Session.resume` gives the next one for the payload or the failure that a turn has led to. Nothing
here sends or receives.
-/

namespace SqlWire

/-- A line of a network, and the channel on it. -/
structure Link where
  line : Nat
  channel : Channel
deriving Repr, DecidableEq

/-- A connection on which a server has let a client in. -/
structure Session where
  /-- The number of the session; 64 bits are taken to be enough for all sessions there will be. -/
  id : Nat
  config : Config
  /-- The host that the connection leads to. -/
  host : String
  serverVersion : ServerVersion
  connectionId : UInt32
  capabilities : Capabilities
  /-- The status that the server told last. -/
  status : Status
  /-- The challenge that was answered last. -/
  challenge : Challenge
  /-- The generation of the pool that the session was opened for, a counter like `lease`. -/
  generation : Nat
  createdAt : Duration
  /-- When the session last came back to its pool. -/
  returnedAt : Duration
  /-- The database that was selected in place of the configured one. -/
  databaseOverride : Option String
  state : SessionState
  /-- The number of times that the handles to cancel commands were made void, a counter of 64 bits that
  is taken not to wrap. -/
  lease : Nat
  link : Link
deriving Repr, DecidableEq

/-- What a session is asked to do. -/
inductive Request where
  | ping
  | selectDatabase (database : String)
  | reset
  /-- A payload that the server answers with results. -/
  | statement (payload : Bytes)
deriving Repr, DecidableEq

/-- What a session waits for. -/
inductive Pending where
  /-- The reply to a ping. -/
  | pong
  /-- The reply to the choice of a database. -/
  | selected (database : String)
  /-- The reply to a reset. -/
  | cleared
  /-- The reply to the choice of the configured database after a reset. -/
  | restored
  /-- The verdict on the response to a challenge. -/
  | verdict (challenge : Challenge)
  /-- The next payload of an answer. -/
  | answer (reader : AnswerReader)
deriving DecidableEq

/-- What a session does next. -/
inductive Turn where
  /-- Sends the payload of a new command. -/
  | command (payload : Bytes) (pending : Pending)
  /-- Sends a payload within a command. -/
  | reply (payload : Bytes) (pending : Pending)
  | wait (pending : Pending)
  | finished (outcome : Except ClientError (List ResultSet))

namespace Session

def ofWelcome (config : Config) (id generation : Nat) (host : String) (now : Duration)
    (welcome : Welcome) (link : Link) : Session where
  id := id
  config := config
  host := host
  serverVersion := .parse welcome.serverVersion
  connectionId := welcome.connectionId
  capabilities := welcome.capabilities
  status := welcome.status
  challenge := welcome.challenge
  generation := generation
  createdAt := now
  returnedAt := now
  databaseOverride := none
  state := .connected
  lease := 0
  link := link

/-- Whether a command can be started. -/
def isConnected (s : Session) : Bool := s.state == .connected

def database (s : Session) : Option String := s.databaseOverride.or s.config.database

/-- How statements are prepared: the server decides what a backslash is. -/
def bindingOptions (s : Session) : BindingOptions :=
  { s.config.bindingOptions with
    noBackslashEscapes := s.status.contains .noBackslashEscapes }

/-- A session that has lost its place in the conversation. -/
def broken (s : Session) : Session :=
  { s with state := if s.state == .closed then .closed else .failed }

/-- A session after the end of an answer. -/
def settled (s : Session) : Session :=
  { s with state := if s.state.isBusy then .connected else s.state }

/-- A session whose handles to cancel commands are void. -/
def withoutHandles (s : Session) : Session := { s with lease := s.lease + 1 }

/-- A session that comes back to its pool. -/
def returned (s : Session) (now : Duration) : Session := { s with returnedAt := now }

/-- A session that what it waits for has failed. A failed ping breaks it in any case. -/
def failed (s : Session) (pending : Pending) (cause : ClientError) : Session :=
  match pending with
  | .pong => s.broken
  | _ => if cause.isConnection then s.broken else s.settled

/-- Gives up what a session waits for. -/
def fail (s : Session) (pending : Pending) (cause : ClientError) : Session × Turn :=
  (s.failed pending cause, .finished (.error cause))

/-- Starts a command, which only a connected session can do. -/
def command (s : Session) (payload : Bytes) (pending : Pending) : Session × Turn :=
  match s.state with
  | .connected => ({ s with state := .querying }, .command payload pending)
  | _ => s.fail pending .connectionClosed

/-- The request to log in again, with the response to the last challenge. -/
def userChange (s : Session) : UserChange :=
  { UserChange.new s.config.credentials.username
      (s.challenge.response s.config.credentials.password) with
    database := s.config.database.getD ""
    plugin := s.challenge.plugin.name }

/-- The first turn of a request. -/
def begin (s : Session) : Request → Session × Turn
  | .ping => s.command Command.ping.encode .pong
  | .selectDatabase database =>
    s.command (Command.encodeSelectDatabase database) (.selected database)
  | .reset =>
    if s.serverVersion.supportsReset then s.command Command.resetConnection.encode .cleared
    else s.command s.userChange.encode (.verdict s.challenge)
  | .statement payload => s.command payload (.answer (.start s.status))

def singleReply (payload : Bytes) : Except ClientError OkReply :=
  match payload with
  | [] => .error .emptyPayload
  | header :: _ =>
    if header == Reply.okHeader then (OkReply.decode payload).mapError .protocol
    else if header == Reply.errorHeader then .error (.ofErrorPayload payload)
    else .error (.unexpected "command reply" header)

/-- A session whose command has succeeded. -/
def succeed (s : Session) (reply : OkReply) : Session := { s with status := reply.status }.settled

/-- What follows a reset: the server keeps the selected database, so the configured one is selected
again where another was. -/
def afterReset (s : Session) : Session × Turn :=
  match s.databaseOverride, s.config.database with
  | none, _ => (s, .finished (.ok []))
  | some _, none => ({ s with databaseOverride := none }, .finished (.ok []))
  | some _, some database =>
    { s with databaseOverride := none }.command (Command.encodeSelectDatabase database) .restored

/-- What follows a single reply. -/
def afterReply (s : Session) (pending : Pending) (payload : Bytes)
    (next : Session → Session × Turn) : Session × Turn :=
  match singleReply payload with
  | .error cause => s.fail pending cause
  | .ok reply => next (s.succeed reply)

def finish (s : Session) : Session × Turn := (s, .finished (.ok []))

/-- The turn after a payload that a session has waited for. -/
def take (s : Session) (payload : Bytes) : Pending → Session × Turn
  | .pong => s.afterReply .pong payload finish
  | .selected database =>
    s.afterReply (.selected database) payload fun s =>
      { s with databaseOverride := some database }.finish
  | .cleared => s.afterReply .cleared payload afterReset
  | .restored => s.afterReply .restored payload finish
  | .verdict challenge =>
    match challenge.verdict payload with
    | .error cause => s.fail (.verdict challenge) cause
    | .ok (.accepted reply) =>
      { s.succeed reply with challenge := challenge, databaseOverride := none }.finish
    | .ok (.again challenge) =>
      (s, .reply (challenge.response s.config.credentials.password) (.verdict challenge))
    | .ok .pending => (s, .wait (.verdict challenge))
  | .answer reader =>
    let (reader, step) := reader.step payload
    let s := { s with status := reader.status }
    match step with
    | .more => (s, .wait (.answer reader))
    | .decline => (s, .reply [] (.answer reader))
    | .complete => (s.settled, .finished (.ok reader.results))
    | .failed cause => s.fail (.answer reader) cause

/-- The turn after a payload, or after the failure to send or to receive one. -/
def resume (s : Session) (pending : Pending) : Except ChannelError Bytes → Session × Turn
  | .ok payload => s.take payload pending
  | .error cause => s.fail pending (.ofChannel cause)

def startByHand (s : Session) : Except ClientError Unit × Session :=
  match s.state with
  | .connected => (.ok (), { s with state := .querying })
  | .querying | .cancelling => (.error .connectionClosed, s.broken)
  | _ => (.error .connectionClosed, s)

/-- A session after a call that sends or receives by hand. -/
def afterCall {α : Type} (s : Session) (result : Except ChannelError α) :
    Except ClientError α × Session :=
  match result with
  | .ok a => (.ok a, s)
  | .error cause => (.error (.ofChannel cause), if cause.isFatal then s.broken else s)

def closed (s : Session) : Session := { s with state := .closed }

end Session

end SqlWire
