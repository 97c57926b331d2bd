import SqlWire.Wire.Flags
import SqlWire.Wire.Reader
import SqlWire.Wire.Writer

/-! # The server's greeting

The first payload on a connection. The nonce is cut in two on the wire: eight bytes in a fixed
place, the rest with a zero byte behind it and padded to thirteen bytes.
-/

namespace SqlWire

/-- The only protocol version in use. -/
def protocolVersion : UInt8 := 10

/-- The collation a client asks for: `utf8mb4_general_ci`. -/
def defaultCollation : UInt8 := 45

/-- What a server says when a client has connected. -/
structure Greeting where
  version : UInt8
  serverVersion : String
  connectionId : UInt32
  nonce : Bytes
  capabilities : Capabilities
  collation : UInt8
  status : Status
  /-- The authentication plugin, empty unless the capabilities include plugins. -/
  plugin : String
deriving Repr, DecidableEq

namespace Greeting

/-- The bytes of the nonce that stand in the fixed place. -/
def fixedNonce : Nat := 8

/-- The least number of bytes of the other part of the nonce, with its zero byte. -/
def minRestNonce : Nat := 13

/-- A byte string without one zero byte at its end. -/
def dropFinalZero (bytes : Bytes) : Bytes :=
  if bytes.getLast? == some 0 then bytes.dropLast else bytes

/-- The fields that end an old, short greeting are all absent together. -/
def readTail : Read (UInt8 × Status × UInt16 × Nat) := do
  if ← Read.isEmpty then return (0, ⟨0⟩, 0, 0)
  let collation ← Read.byte
  let status ← Read.uint16
  let high ← Read.uint16
  let nonceLength ← Read.byte
  Read.skip 10
  return (collation, Status.ofBits status, high, nonceLength.toNat)

/-- The plugin name, with or without its zero byte. -/
def readPlugin : Read String := do
  match (← get).rest.contains 0 with
  | true => Read.terminatedText
  | false => Read.text "auth plugin name" (← Read.rest)

def read : Read Greeting := do
  let version ← Read.byte
  if version != protocolVersion then throw (.unsupportedVersion version)
  let serverVersion ← Read.terminatedText
  let connectionId ← Read.uint32
  let front ← Read.bytes fixedNonce
  Read.skip 1
  let low ← Read.uint16
  let (collation, status, high, nonceLength) ← readTail
  let capabilities := Capabilities.ofBits (low.toUInt32 ||| (high.toUInt32 <<< 16))
  let back ←
    if capabilities.contains .secureConnection then do
      let wanted := max minRestNonce (nonceLength - fixedNonce)
      let part ← Read.bytes (min wanted (← Read.remaining))
      pure (dropFinalZero part)
    else pure []
  let plugin ← if capabilities.contains .pluginAuth then readPlugin else pure ""
  return { version, serverVersion, connectionId, nonce := front ++ back, capabilities,
           collation, status, plugin }

def decode (payload : Bytes) : Except ProtocolError Greeting := read.decode payload

/-- The rest of the nonce, its zero byte and the padding. -/
def restNonceField (nonce : Bytes) : Bytes :=
  let back := nonce.drop fixedNonce
  back ++ Write.zeros (max 1 (minRestNonce - back.length))

def encode (g : Greeting) : Bytes :=
  let front := g.nonce.take fixedNonce
  g.version :: Write.terminated (Utf8.encode g.serverVersion)
    ++ Write.uint32 g.connectionId
    ++ front ++ Write.zeros (fixedNonce - front.length)
    ++ Write.zeros 1
    ++ Write.uint16 g.capabilities.bits.toUInt16
    ++ [g.collation]
    ++ Write.uint16 g.status.bits
    ++ Write.uint16 (g.capabilities.bits >>> 16).toUInt16
    ++ [UInt8.ofNat (min (g.nonce.length + 1) 255)]
    ++ Write.zeros 10
    ++ (if g.capabilities.contains .secureConnection then restNonceField g.nonce else [])
    ++ (if g.capabilities.contains .pluginAuth then
          Write.terminated (Utf8.encode g.plugin) else [])

end Greeting

end SqlWire
