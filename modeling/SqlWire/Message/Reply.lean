import SqlWire.Message.Greeting

/-! # Replies

A server answers with payloads that are told apart by their first byte: `0x00` says that a
command succeeded, `0xFF` that it failed, and a short payload that starts with `0xFE` ends a list
of columns or rows. While authenticating, `0xFE` asks for another plugin and `0x01` carries data
of the current one.
-/

namespace SqlWire

namespace Reply

def okHeader : UInt8 := 0x00
def authMoreHeader : UInt8 := 0x01
def localFileHeader : UInt8 := 0xFB
def eofHeader : UInt8 := 0xFE
def errorHeader : UInt8 := 0xFF

/-- Whether a payload ends a list of columns or rows. -/
def isEof (payload : Bytes) : Bool :=
  payload.head? == some eofHeader && (payload.drop 8).isEmpty

/-- Whether a payload says that a command failed. -/
def isError (payload : Bytes) : Bool := payload.head? == some errorHeader

end Reply

structure OkReply where
  affectedRows : UInt64
  lastInsertId : UInt64
  status : Status
  warnings : UInt16
  info : String
deriving Repr, DecidableEq

namespace OkReply

/-- The reply ahead; its header may also be the one that ends a list. -/
def read : Read OkReply := do
  let header ← Read.byte
  if header != Reply.okHeader && header != Reply.eofHeader then
    throw (.unexpectedHeader "OK payload" header)
  let affectedRows ← Read.length
  let lastInsertId ← Read.length
  let status ← Read.uint16
  let warnings ← Read.uint16
  let info ← Read.rest
  return ⟨affectedRows, lastInsertId, Status.ofBits status, warnings, Utf8.decodeLossy info⟩

def decode (payload : Bytes) : Except ProtocolError OkReply := read.decode payload

def encode (r : OkReply) : Bytes :=
  Reply.okHeader :: Write.length r.affectedRows
    ++ Write.length r.lastInsertId
    ++ Write.uint16 r.status.bits
    ++ Write.uint16 r.warnings
    ++ Utf8.encode r.info

end OkReply

structure ErrorReply where
  code : UInt16
  /-- The class of the failure: five characters. -/
  state : String
  text : String
deriving Repr, DecidableEq

namespace ErrorReply

/-- The class of a failure that names none. -/
def defaultState : String := "HY000"

/-- The byte that announces a class of failure. -/
def stateMark : UInt8 := 0x23

def read : Read ErrorReply := do
  Read.expect Reply.errorHeader "error payload signature"
  let code ← Read.uint16
  let state ←
    if (← Read.peek) == some stateMark then do
      Read.skip 1
      pure (Utf8.decodeLossy (← Read.bytes 5))
    else pure defaultState
  let text ← Read.rest
  return ⟨code, state, Utf8.decodeLossy text⟩

def decode (payload : Bytes) : Except ProtocolError ErrorReply := read.decode payload

/-- Exactly five bytes: cut, or filled up with the digit zero. -/
def stateField (state : String) : Bytes :=
  let kept := (Utf8.encode state).take 5
  kept ++ List.replicate (5 - kept.length) 0x30

def encode (r : ErrorReply) : Bytes :=
  Reply.errorHeader :: Write.uint16 r.code
    ++ stateMark :: stateField r.state
    ++ Utf8.encode r.text

end ErrorReply

/-- The end of a list of columns or rows. -/
structure EofReply where
  warnings : UInt16
  status : Status
deriving Repr, DecidableEq

namespace EofReply

/-- The reply ahead, in a payload short enough to be no row. -/
def read : Read EofReply := do
  Read.expect Reply.eofHeader "EOF payload signature"
  let left ← Read.remaining
  if 8 ≤ left then throw (.trailingBytes left)
  let warnings ← Read.uint16
  let status ← Read.uint16
  return ⟨warnings, Status.ofBits status⟩

def decode (payload : Bytes) : Except ProtocolError EofReply := read.decode payload

def encode (r : EofReply) : Bytes :=
  Reply.eofHeader :: Write.uint16 r.warnings ++ Write.uint16 r.status.bits

end EofReply

/-- A server asks for another authentication plugin and gives its nonce. -/
structure AuthSwitch where
  plugin : String
  nonce : Bytes
deriving Repr, DecidableEq

namespace AuthSwitch

def read : Read AuthSwitch := do
  Read.expect Reply.eofHeader "auth switch signature"
  let plugin ← Read.terminatedText
  return ⟨plugin, Greeting.dropFinalZero (← Read.rest)⟩

def decode (payload : Bytes) : Except ProtocolError AuthSwitch := read.decode payload

def encode (r : AuthSwitch) : Bytes :=
  Reply.eofHeader :: Write.terminated (Utf8.encode r.plugin) ++ Write.terminated r.nonce

end AuthSwitch

/-- Data for the current authentication plugin. -/
structure AuthMore where
  data : Bytes
deriving Repr, DecidableEq

namespace AuthMore

/-- The server knew the password from its cache. -/
def fastSuccess : UInt8 := 0x03

/-- The server wants the password itself. -/
def fullAuthentication : UInt8 := 0x04

def read : Read AuthMore := do
  Read.expect Reply.authMoreHeader "auth more data signature"
  return ⟨← Read.rest⟩

def decode (payload : Bytes) : Except ProtocolError AuthMore := read.decode payload

def encode (r : AuthMore) : Bytes := Reply.authMoreHeader :: r.data

end AuthMore

end SqlWire
