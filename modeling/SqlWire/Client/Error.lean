import SqlWire.Auth.Plugin
import SqlWire.Framing.Error
import SqlWire.Message.Reply
import SqlWire.Value.Basic

/-! # Errors of a client

Everything that a command on a session can fail with. Two classes matter to callers: an error is
transient if the same command may succeed later, and it belongs to the connection if the session
cannot know how much of a reply it has read.
-/

namespace SqlWire

/-- Why parameters do not fit what they are given for. -/
inductive BindingError where
  /-- A named placeholder has no parameter. -/
  | undefinedName (name : String)
  /-- There are more question marks than parameters. -/
  | tooFewParameters (count : Nat)
  /-- A routine returns a value for which there is no parameter. -/
  | missingReturn (routine : String)
  /-- A routine has a parameter that is not given. -/
  | missingParameter (name : String)
  /-- A text is no routine name. -/
  | malformedRoutine (name : String)
  /-- A routine name says no schema, and none is selected. -/
  | unknownSchema (name : String)
  /-- A handler of placeholders gives a reason of its own. -/
  | refused (reason : String)
deriving Repr, DecidableEq

def BindingError.message : BindingError → String
  | undefinedName name => "Parameter '" ++ name ++ "' must be defined."
  | tooFewParameters count => s!"Statement has more than {count} positional parameter(s)."
  | missingReturn routine =>
    s!"Attempt to call stored function {routine} without specifying a return parameter"
  | missingParameter name => "Parameter '" ++ name ++ "' not found in the collection."
  | malformedRoutine name => "Could not parse routine name '" ++ name ++ "'."
  | unknownSchema name => "Could not determine schema for '" ++ name ++ "'."
  | refused reason => reason

/-- Why settings cannot be used. -/
inductive ConfigError where
  /-- A segment of a connection string has no equals sign. -/
  | invalidPair (segment : String)
  | invalidPort (text : String)
  | invalidFlag (key text : String)
  | invalidNumber (key text : String)
  | invalidLoadBalance (text : String)
  | noHosts
  | noSessions
  | fewerThanMinimum
  /-- A caller gives a reason of its own. -/
  | refused (reason : String)
deriving Repr, DecidableEq

def ConfigError.message : ConfigError → String
  | invalidPair segment => s!"invalid key-value: {segment}"
  | invalidPort text => s!"invalid port: {text}"
  | invalidFlag key text => s!"invalid boolean for {key}: {text}"
  | invalidNumber key text => s!"invalid value for {key}: {text}"
  | invalidLoadBalance text => s!"invalid load balance: {text}"
  | noHosts => "at least one server host is required"
  | noSessions => "maximum pool size must be greater than zero"
  | fewerThanMinimum =>
    "maximum pool size must be greater than or equal to minimum pool size"
  | refused reason => reason

inductive ClientError where
  | protocol (cause : ProtocolError)
  /-- No connection could be opened. -/
  | connection (text : String) (source : Option IoError)
  /-- The connection is gone, or not in a state to be used. -/
  | connectionClosed
  | timeout (text : String)
  /-- The server answered with an error. -/
  | server (code : UInt16) (state text : String)
  | binding (cause : BindingError)
  /-- A payload was not sent. -/
  | channel (cause : ChannelError)
  | auth (cause : AuthError)
  | value (cause : ValueError)
  | config (cause : ConfigError)
  | io (cause : IoError)
  | cancelled
  /-- A moment lies behind the last one that the clock can show. Callers are not told so but stopped. -/
  | clockOverflow
deriving Repr, DecidableEq

namespace ClientError

/-- The client's view of a channel error. -/
def ofChannel : ChannelError → ClientError
  | .timeout => timeout "I/O operation timed out"
  | .closed => connectionClosed
  | .protocol cause => protocol cause
  | .io cause => io cause
  | cause => channel cause

/-- The error that a server answered with. -/
def ofReply (reply : ErrorReply) : ClientError := server reply.code reply.state reply.text

/-- The error in a payload that says that a command failed. -/
def ofErrorPayload (payload : Bytes) : ClientError :=
  match ErrorReply.decode payload with
  | .ok reply => ofReply reply
  | .error cause => protocol cause

def emptyPayload : ClientError := protocol (.unexpectedEnd 1 0)

/-- A payload with a first byte that does not fit a place in the conversation. -/
def unexpected (place : String) (header : UInt8) : ClientError :=
  protocol (.unexpectedHeader place header)

def label : ClientError → String
  | protocol cause => "Protocol." ++ cause.label
  | connection .. => "Connection"
  | connectionClosed => "ConnectionClosed"
  | timeout _ => "Timeout"
  | server .. => "Server"
  | binding _ => "Binding"
  | channel cause => "Codec." ++ cause.label
  | auth cause => "Auth." ++ cause.label
  | value cause => "Type." ++ cause.label
  | config _ => "Config"
  | io _ => "Io"
  | cancelled => "Cancelled"
  | clockOverflow => "panic"

def message : ClientError → String
  | protocol cause => s!"protocol error: {cause.message}"
  | connection text _ => s!"connection failed: {text}"
  | connectionClosed => "connection closed"
  | timeout text => text
  | server code state text => s!"server error {code.toNat} ({state}): {text}"
  | binding cause => cause.message
  | channel cause => s!"codec error: {cause.message}"
  | auth cause => s!"authentication failed: {cause.message}"
  | value cause => s!"type error: {cause.message}"
  | config cause => s!"configuration error: {cause.message}"
  | io cause => s!"IO error: {cause.message}"
  | cancelled => "operation cancelled"
  | clockOverflow => "overflow when adding duration to instant"

/-- The wording of the error behind an error. -/
def source? : ClientError → Option String
  | protocol cause => some cause.message
  | connection _ source => source.map IoError.message
  | auth cause => some cause.message
  | value cause => some cause.message
  | io cause => some cause.message
  | _ => none

/-- The server's codes for too many connections, a lock timeout, a deadlock and an interrupted
query. -/
def transientCodes : List UInt16 := [1040, 1205, 1213, 1317]

/-- Whether the same command may succeed later. -/
def isTransient : ClientError → Bool
  | timeout _ => true
  | connection .. => true
  | connectionClosed => true
  | io _ => true
  | server code .. => transientCodes.contains code
  | _ => false

/-- Whether bytes were not what the protocol says. -/
def isProtocol : ClientError → Bool
  | protocol _ => true
  | _ => false

/-- Whether an error leaves the place in the conversation unknown. -/
def isConnection : ClientError → Bool
  | connection .. => true
  | connectionClosed => true
  | io _ => true
  | channel _ => true
  | protocol _ => true
  | timeout _ => true
  | _ => false

def isTimeout : ClientError → Bool
  | timeout _ => true
  | _ => false

def code? : ClientError → Option UInt16
  | server code .. => some code
  | _ => none

def state? : ClientError → Option String
  | server _ state _ => some state
  | _ => none

/-- Whether the server answered with a code. -/
def hasCode (code : UInt16) (e : ClientError) : Bool := e.code? == some code

end ClientError

instance : ErrorText ClientError := ⟨ClientError.label, ClientError.message⟩

instance : ErrorText BindingError :=
  ⟨fun e => (ClientError.binding e).label, fun e => (ClientError.binding e).message⟩

instance : ErrorText ConfigError :=
  ⟨fun e => (ClientError.config e).label, fun e => (ClientError.config e).message⟩

end SqlWire
