import SqlWire.Client.Error
import SqlWire.Message.Reply

/-! # Challenges

A server names a plugin and gives a nonce, and the client answers with a response that the password
decides. Only plugins that may be answered on an open connection make a challenge, so a challenge
always has a response. A session keeps the last challenge that it has answered: the server asks for
no other when the session authenticates again.
-/

namespace SqlWire

/-- A plugin that hides the password, and a nonce. -/
structure Challenge where
  plugin : AuthPlugin
  nonce : Bytes
  /-- The response is safe on an open connection. -/
  isOpen : plugin.requiresSecureTransport = false
deriving Repr, DecidableEq

namespace Challenge

/-- The challenge of a server that names a plugin. -/
def ofName (name : String) (nonce : Bytes) : Except ClientError Challenge :=
  match AuthPlugin.ofName name with
  | .error (.unsupportedPlugin name) => .error (.protocol (.unsupportedPlugin name))
  | .error cause => .error (.auth cause)
  | .ok plugin =>
    if h : plugin.requiresSecureTransport = false then .ok ⟨plugin, nonce, h⟩
    else .error (.auth (.secureTransportRequired plugin.name))

def response (password : String) : Challenge → Bytes
  | ⟨.nativePassword, nonce, _⟩ => Scramble.native (Utf8.encode password) nonce
  | ⟨.cachingSha2Password, nonce, _⟩ => Scramble.cachingSha2 (Utf8.encode password) nonce

/-- What a payload means to a client that has answered a challenge. -/
inductive Verdict where
  /-- The server lets the client in. -/
  | accepted (reply : OkReply)
  /-- The server asks for another response. -/
  | again (challenge : Challenge)
  /-- The server goes on without the client. -/
  | pending
deriving Repr, DecidableEq

/-- What the data of the current plugin mean. -/
def dataVerdict (c : Challenge) (data : Bytes) : Except ClientError Verdict :=
  match data with
  | b :: _ =>
    if b == AuthMore.fastSuccess then .ok .pending
    else if b == AuthMore.fullAuthentication then
      .error (.auth (.secureTransportRequired c.plugin.name))
    else .error (.unexpected "auth more data" b)
  | [] => .error (.unexpected "auth more data" 0)

def verdict (c : Challenge) (payload : Bytes) : Except ClientError Verdict :=
  match payload with
  | [] => .error .emptyPayload
  | header :: _ =>
    if header == Reply.okHeader then
      .accepted <$> (OkReply.decode payload).mapError .protocol
    else if header == Reply.errorHeader then .error (.ofErrorPayload payload)
    else if header == Reply.eofHeader then do
      let request ← (AuthSwitch.decode payload).mapError .protocol
      return .again (← ofName request.plugin request.nonce)
    else if header == Reply.authMoreHeader then do
      let more ← (AuthMore.decode payload).mapError .protocol
      c.dataVerdict more.data
    else .error (.unexpected "authentication" header)

end Challenge

end SqlWire
