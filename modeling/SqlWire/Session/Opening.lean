import SqlWire.Client.Config
import SqlWire.Message.Login
import SqlWire.Session.Challenge

/-! # Opening a session

The server speaks first. The client answers its greeting with a login, which asks for nothing that
the greeting does not offer, and then answers challenges until the server lets it in or turns it
away.
-/

namespace SqlWire

/-- What is known of a server that has let a client in. -/
structure Welcome where
  serverVersion : String
  connectionId : UInt32
  /-- What the login asked for. -/
  capabilities : Capabilities
  status : Status
  /-- The challenge that was answered last. -/
  challenge : Challenge
deriving Repr, DecidableEq

/-- How far the opening of a session has come. -/
inductive Opening where
  /-- The greeting has to come. -/
  | start
  /-- A login has answered the greeting, and a response the last challenge. -/
  | answered (greeting : Greeting) (capabilities : Capabilities) (challenge : Challenge)
deriving Repr, DecidableEq

namespace Opening

/-- What follows a payload. -/
inductive Step where
  | send (payload : Bytes) (next : Opening)
  | wait (next : Opening)
  | opened (welcome : Welcome)
deriving Repr, DecidableEq

/-- The capabilities without which nothing works, in the order in which they are missed. -/
def requiredCapabilities : List (Capabilities × String) :=
  [(.protocol41, "PROTOCOL_41"), (.secureConnection, "SECURE_CONNECTION")]

/-- The login that answers a greeting. A database is asked for where the greeting offers it. -/
def loginFor (config : Config) (greeting : Greeting) (challenge : Challenge) : Login :=
  let login : Login :=
    { Login.new (Capabilities.client.inter greeting.capabilities) config.credentials.username
        (challenge.response config.credentials.password) with
      plugin := challenge.plugin.name }
  match config.database with
  | some database =>
    if greeting.capabilities.contains .connectWithDatabase then login.withDatabase database
    else login
  | none => login

/-- The answer to the first payload of a server. -/
def greet (config : Config) (payload : Bytes) : Except ClientError Step := do
  if Reply.isError payload then throw (.ofErrorPayload payload)
  let greeting ← (Greeting.decode payload).mapError .protocol
  for (capability, name) in requiredCapabilities do
    if !greeting.capabilities.contains capability then
      throw (.protocol (.missingCapability name))
  let challenge ← Challenge.ofName greeting.plugin greeting.nonce
  let login := loginFor config greeting challenge
  return .send login.encode (.answered greeting login.capabilities challenge)

/-- What follows a payload. -/
def step (config : Config) (payload : Bytes) : Opening → Except ClientError Step
  | start => greet config payload
  | answered greeting capabilities challenge => do
    match ← challenge.verdict payload with
    | .accepted reply =>
      return .opened ⟨greeting.serverVersion, greeting.connectionId, capabilities, reply.status,
        challenge⟩
    | .again challenge =>
      return .send (challenge.response config.credentials.password)
        (.answered greeting capabilities challenge)
    | .pending => return .wait (.answered greeting capabilities challenge)

end Opening

end SqlWire
