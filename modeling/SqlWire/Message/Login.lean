import SqlWire.Message.Greeting

/-! # The client's side of authentication

`Login` answers a greeting; `UserChange` starts authentication anew on an open connection. The
capabilities of a login decide how its authentication response is written and which fields follow.
-/

namespace SqlWire

/-- The greatest payload a client announces. -/
def maxPayload : UInt32 := 0xFFFFF0

/-- A client's answer to a greeting. -/
structure Login where
  capabilities : Capabilities
  maxPayload : UInt32
  collation : UInt8
  username : String
  response : Bytes
  database : Option String
  plugin : String
deriving Repr, DecidableEq

namespace Login

/-- A login without a database and without a plugin name. -/
def new (capabilities : Capabilities) (username : String) (response : Bytes) : Login :=
  ⟨capabilities, SqlWire.maxPayload, defaultCollation, username, response, none, ""⟩

def withDatabase (l : Login) (database : String) : Login :=
  { l with database := some database,
           capabilities := l.capabilities.union .connectWithDatabase }

/-- The authentication response, in the form that the capabilities ask for. -/
def readResponse (capabilities : Capabilities) : Read Bytes := do
  if capabilities.contains .lengthEncodedAuth then Read.lengthBytes
  else if capabilities.contains .secureConnection then Read.bytes (← Read.byte).toNat
  else Read.terminatedBytes

def read : Read Login := do
  let capabilities := Capabilities.ofBits (← Read.uint32)
  if !capabilities.contains .protocol41 then throw (.missingCapability "PROTOCOL_41")
  let limit ← Read.uint32
  let collation ← Read.byte
  Read.skip 23
  let username ← Read.terminatedText
  let response ← readResponse capabilities
  let database ←
    if capabilities.contains .connectWithDatabase then some <$> Read.terminatedText
    else pure none
  let plugin ←
    if capabilities.contains .pluginAuth && !(← Read.isEmpty) then Read.terminatedText
    else pure ""
  return ⟨capabilities, limit, collation, username, response, database, plugin⟩

def decode (payload : Bytes) : Except ProtocolError Login := read.decode payload

/-- A byte string of at most 255 bytes behind a length of one byte; more bytes are dropped. -/
def shortBytes (bs : Bytes) : Bytes :=
  let kept := bs.take 255
  UInt8.ofNat kept.length :: kept

def responseField (capabilities : Capabilities) (response : Bytes) : Bytes :=
  if capabilities.contains .lengthEncodedAuth then Write.lengthBytes response
  else if capabilities.contains .secureConnection then shortBytes response
  else Write.terminated response

def encode (l : Login) : Bytes :=
  Write.uint32 l.capabilities.bits
    ++ Write.uint32 l.maxPayload
    ++ [l.collation]
    ++ Write.zeros 23
    ++ Write.terminated (Utf8.encode l.username)
    ++ responseField l.capabilities l.response
    ++ (if l.capabilities.contains .connectWithDatabase then
          Write.terminated (Utf8.encode (l.database.getD "")) else [])
    ++ (if l.capabilities.contains .pluginAuth then
          Write.terminated (Utf8.encode l.plugin) else [])

end Login

/-- A request to authenticate as another user, or again as the same one. -/
structure UserChange where
  username : String
  response : Bytes
  database : String
  collation : UInt8
  plugin : String
deriving Repr, DecidableEq

namespace UserChange

/-- The first byte of the payload. -/
def tag : UInt8 := 0x11

/-- A change of user without a database and without a plugin name. -/
def new (username : String) (response : Bytes) : UserChange :=
  ⟨username, response, "", defaultCollation, ""⟩

def read : Read UserChange := do
  Read.expect tag "change user command"
  let username ← Read.terminatedText
  let response ← Read.bytes (← Read.byte).toNat
  let database ← Read.terminatedText
  let collation ←
    if 2 ≤ (← Read.remaining) then do pure (← Read.uint16).toUInt8 else pure defaultCollation
  let plugin ← if ← Read.isEmpty then pure "" else Read.terminatedText
  return ⟨username, response, database, collation, plugin⟩

def decode (payload : Bytes) : Except ProtocolError UserChange := read.decode payload

def encode (u : UserChange) : Bytes :=
  tag :: Write.terminated (Utf8.encode u.username)
    ++ Login.shortBytes u.response
    ++ Write.terminated (Utf8.encode u.database)
    ++ Write.uint16 u.collation.toUInt16
    ++ Write.terminated (Utf8.encode u.plugin)

end UserChange

end SqlWire
