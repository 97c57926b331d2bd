import SqlWire.Clock.Duration
import SqlWire.Message.Command
import SqlWire.Number.IntegerType
import SqlWire.Session.Challenge
import SqlWire.Standin.Response
import SqlWire.Text.Ascii
import SqlWire.Text.Blank
import SqlWire.Text.Split

/-! # A stand-in for a server

The stand-in lets in the one user that it knows, keeps to the protocol and answers statements from a
list. Two statements it understands by itself: `SELECT SLEEP(n)` lets time pass, and `KILL QUERY n`
interrupts another connection that does. What it does not understand, it drops.

A handler is the stand-in's side of one connection. It says what is sent for each payload that has
come in; nothing here sends, receives or waits.
-/

namespace SqlWire

namespace Standin

/-- What a stand-in is told beforehand. -/
structure ServerConfig where
  version : String
  /-- The one user that is let in. -/
  credentials : Credentials
  /-- Whether the greeting names a plugin that is then given up for another one. -/
  switchesPlugin : Bool
  status : Status
  /-- How long a client waits for the greeting. -/
  greetingDelay : Duration
  /-- The answers to statements; of two for one statement the later counts. -/
  responses : List (String × Response)
  /-- The answers to statements that start in some way; of two that fit the earlier counts. -/
  startingWith : List (String × Response)
  /-- The answer to every other statement. -/
  default : Response

namespace ServerConfig

def new : ServerConfig where
  version := "8.0.36-mock"
  credentials := ⟨"root", "password"⟩
  switchesPlugin := false
  status := .autocommit
  greetingDelay := .zero
  responses := []
  startingWith := []
  default := .ok 0 0

def responseTo (c : ServerConfig) (sql : String) : Response :=
  match c.responses.reverse.lookup sql with
  | some response => response
  | none =>
    match c.startingWith.find? fun (start, _) => start.toList.isPrefixOf sql.toList with
    | some (_, response) => response
    | none => c.default

def capabilities : Capabilities :=
  [.longPassword, .foundRows, .longFlag, .connectWithDatabase, .protocol41, .transactions,
    .secureConnection, .multiStatements, .multiResults, .pluginAuth,
    .lengthEncodedAuth].foldl Capabilities.union ⟨0⟩

def greetingPlugin (c : ServerConfig) : AuthPlugin :=
  if c.switchesPlugin then .cachingSha2Password else .nativePassword

def greeting (c : ServerConfig) (connectionId : UInt32) (nonce : Bytes) : Greeting where
  version := protocolVersion
  serverVersion := c.version
  connectionId := connectionId
  nonce := nonce
  capabilities := capabilities
  collation := defaultCollation
  status := c.status
  plugin := c.greetingPlugin.name

/-- Whether a user name and a response to a nonce are those of the user that is let in. -/
def verify (c : ServerConfig) (username : String) (response nonce : Bytes) : Bool :=
  username == c.credentials.username
    && Scramble.verifyNative response (Utf8.encode c.credentials.password) nonce

end ServerConfig

/-- A command as a stand-in notes it. -/
inductive NotedCommand where
  | query (sql : String)
  | selectDatabase (database : String)
  | ping
  | resetConnection
  | changeUser (username : String)
  | quit
deriving Repr, DecidableEq

/-- How far a client has come. -/
inductive Stage where
  /-- The greeting has been sent. -/
  | greeted
  /-- A user has logged in and has been asked for another response. -/
  | switched (username : String)
  /-- The client has been let in. -/
  | serving
  /-- The stand-in has dropped the connection. -/
  | gone
  /-- The connection was lost when a pause was to start, which the stand-in takes to go on. -/
  | lost
deriving Repr, DecidableEq

/-- Whether nothing more is done for a client. -/
def Stage.isOver : Stage → Bool
  | gone | lost => true
  | _ => false

/-- The stand-in's side of a connection. -/
structure Handler where
  connectionId : UInt32
  /-- The nonce that responses have to answer. -/
  nonce : Bytes
  stage : Stage
deriving Repr, DecidableEq

/-- What is done about a payload. -/
structure Reaction where
  handler : Handler
  replies : List Bytes
  noted : Option NotedCommand
  /-- How long the replies are held back. -/
  pause : Option Duration
  /-- The connection whose pause is interrupted. -/
  interrupts : Option UInt32
deriving Repr, DecidableEq

/-- The rest of a text after a start in any case of ASCII letters. -/
def restAfter? (start text : List Char) : Option (List Char) :=
  if Ascii.lowered (text.take start.length) == Ascii.lowered start then
    some (text.drop start.length)
  else none

/-- The connection that a statement is to interrupt. -/
def killTarget? (sql : List Char) : Option UInt32 := do
  let rest ← restAfter? "KILL QUERY ".toList sql
  let number := ((trim rest).reverse.dropWhile (· == ';')).reverse
  (IntegerType.uint32.ofText? (String.ofList number)).map fun n => UInt32.ofNat n.toNat

/-- The number of seconds for which a statement lets time pass. -/
def sleepSeconds? (sql : List Char) : Option Double := do
  let rest ← restAfter? "SELECT SLEEP(".toList sql
  let (argument, _) ← splitFirst? ')' rest
  Double.ofText? (String.ofList (trim argument))

/-- A number of seconds as a span of time, which is empty for a negative number and for no number. There
is no span of 2 ^ 64 seconds or more. -/
def spanOfSeconds? (x : Double) : Option Duration :=
  let bits := x.bits.toNat
  if BinaryFormat.double.isNaN bits || BinaryFormat.double.isNegative bits then some .zero
  else if x.isFinite then
    let (m, q) := BinaryFormat.double.magnitude bits
    let nanos := BinaryFormat.divHalfEven (m * 1000000000 * 2 ^ q.toNat) (2 ^ (-q).toNat)
    if nanos < 2 ^ 64 * 1000000000 then some ⟨nanos⟩ else none
  else none

/-- The words that a text starts with, as often as they are there, taken away. -/
def withoutStarts (start : List Char) (text : List Char) : List Char :=
  if _more : start.isPrefixOf text ∧ start ≠ [] then withoutStarts start (text.drop start.length)
  else text
termination_by text.length
decreasing_by
  have shorter := (List.isPrefixOf_iff_prefix.mp _more.1).length_le
  have := List.length_pos_iff.mpr _more.2
  simp only [List.length_drop]
  omega

namespace Handler

def firstPayload (c : ServerConfig) (h : Handler) : Bytes :=
  (c.greeting h.connectionId h.nonce).encode

def send (h : Handler) (replies : List Bytes) : Reaction := ⟨h, replies, none, none, none⟩

def drop (h : Handler) (replies : List Bytes) : Reaction := { h with stage := .gone }.send replies

def accessDenied (username : String) : Bytes :=
  ErrorReply.encode ⟨1045, "28000",
    "Access denied for user '" ++ username ++ "'@'localhost' (using password: YES)"⟩

def interrupted : Bytes := ErrorReply.encode ⟨1317, "70100", "Query execution was interrupted"⟩

/-- Lets a user in whose response is right, and turns others away. -/
def letIn (c : ServerConfig) (h : Handler) (username : String) (response : Bytes) : Reaction :=
  if c.verify username response h.nonce then
    { h with stage := .serving }.send [Response.okPayload 0 0 c.status]
  else h.drop [accessDenied username]

def takeLogin (c : ServerConfig) (h : Handler) (freshNonce payload : Bytes) : Reaction :=
  match Login.decode payload with
  | .error _ => h.drop []
  | .ok login =>
    if c.switchesPlugin then
      { h with nonce := freshNonce, stage := .switched login.username }.send
        [AuthSwitch.encode ⟨AuthPlugin.nativePassword.name, freshNonce⟩]
    else letIn c h login.username login.response

/-- Interrupts the pause of a connection, which is one of those that pause now. -/
def kill (c : ServerConfig) (h : Handler) (pausing : List UInt32) (target : UInt32) : Reaction :=
  if pausing.contains target then
    { h.send [Response.okPayload 0 0 c.status] with interrupts := some target }
  else
    h.send [ErrorReply.encode ⟨1094, "HY000", s!"Unknown thread id: {target.toNat}"⟩]

/-- The table that comes after a pause. -/
def sleepTable (c : ServerConfig) (sql : List Char) : List Bytes :=
  let name := String.ofList (trim (withoutStarts "SELECT ".toList sql))
  Response.tablePayloads c.status [⟨name, .longLong, ⟨0⟩⟩] [[.int 0]] c.status

/-- Lets time pass before a table is sent. A connection is lost if it is to pause for longer than a span
of time can be. -/
def sleep (c : ServerConfig) (h : Handler) (sql : List Char) (seconds : Double) : Reaction :=
  match spanOfSeconds? seconds with
  | some time => { h.send (sleepTable c sql) with pause := some time }
  | none => { h with stage := .lost }.send []

/-- Answers a statement without blanks around it. -/
def answer (c : ServerConfig) (h : Handler) (pausing : List UInt32) (sql : List Char) : Reaction :=
  match killTarget? sql with
  | some target => kill c h pausing target
  | none =>
    match sleepSeconds? sql with
    | some seconds => sleep c h sql seconds
    | none =>
      let text := String.ofList sql
      match (c.responseTo text).payloads text c.status with
      | (replies, true) => h.send replies
      | (replies, false) => h.drop replies

def noting (command : NotedCommand) (r : Reaction) : Reaction := { r with noted := some command }

def takeCommand (c : ServerConfig) (h : Handler) (pausing : List UInt32) (payload : Bytes) :
    Reaction :=
  let done := h.send [Response.okPayload 0 0 c.status]
  match payload with
  | [] => h.drop []
  | tag :: body =>
    match Command.ofTag tag with
    | .error _ => h.drop []
    | .ok .quit => noting .quit (h.drop [])
    | .ok .ping => noting .ping done
    | .ok .resetConnection => noting .resetConnection done
    | .ok .selectDatabase => noting (.selectDatabase (Utf8.decodeLossy body)) done
    | .ok .changeUser =>
      match UserChange.decode payload with
      | .error _ => h.drop []
      | .ok request =>
        noting (.changeUser request.username)
          (if c.verify request.username request.response h.nonce then done
          else h.send [accessDenied request.username])
    | .ok .query =>
      let sql := Utf8.decodeLossy body
      noting (.query sql) (answer c h pausing (trim sql.toList))

/-- Takes a payload. A nonce is at hand, and so are the connections that pause now. -/
def take (c : ServerConfig) (h : Handler) (freshNonce : Bytes) (pausing : List UInt32)
    (payload : Bytes) : Reaction :=
  match h.stage with
  | .greeted => takeLogin c h freshNonce payload
  | .switched username => letIn c h username payload
  | .serving => takeCommand c h pausing payload
  | .gone | .lost => h.send []

end Handler

end Standin

end SqlWire
