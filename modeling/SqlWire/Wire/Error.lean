import SqlWire.Text.Hex

/-! # Protocol errors

The ways in which bytes can fail to be the payload that a peer expected, each with its wording.
-/

namespace SqlWire

/-- A type of errors, each of which has a cause with a name and a wording. -/
class ErrorText (ε : Type) where
  /-- The name of an error's cause. -/
  label : ε → String
  /-- The wording of an error. -/
  message : ε → String

/-- What is wrong with a payload or with the order of packets. -/
inductive ProtocolError where
  /-- A field reaches past the end of the payload. -/
  | unexpectedEnd (needed remaining : Nat)
  /-- Fewer bytes than a packet header has. -/
  | incompleteHeader (needed remaining : Nat)
  /-- A fixed byte has another value. -/
  | unexpectedByte (field : String) (expected found : UInt8)
  /-- A length-encoded integer starts with a byte that no length has. -/
  | invalidLengthPrefix (lead : UInt8)
  /-- An integer of no bytes, or of more than eight. -/
  | invalidIntegerWidth (width : Nat)
  /-- No zero byte ends the string. -/
  | missingTerminator
  /-- A text field is not UTF-8. -/
  | invalidUtf8 (field : String)
  /-- The greeting is of another protocol version. -/
  | unsupportedVersion (version : UInt8)
  /-- The server names a plugin that is not known. -/
  | unsupportedPlugin (name : String)
  /-- A capability that the client cannot do without is not offered. -/
  | missingCapability (name : String)
  /-- The first byte of a payload does not fit the conversation. -/
  | unexpectedHeader (place : String) (header : UInt8)
  /-- A packet carries another sequence number than the next one. -/
  | outOfOrder (expected found : UInt8)
  /-- A payload is longer than allowed. -/
  | payloadTooLarge (size limit : Nat)
  /-- A column has a type byte that is not assigned. -/
  | unknownColumnType (code : UInt8)
  /-- A result set announces more columns than a table can have. -/
  | tooManyColumns (count limit : Nat)
  /-- Bytes are left over after a complete payload. -/
  | trailingBytes (count : Nat)
deriving Repr, DecidableEq

def ProtocolError.label : ProtocolError → String
  | unexpectedEnd .. => "UnexpectedEof"
  | incompleteHeader .. => "IncompletePacket"
  | unexpectedByte .. => "UnexpectedByte"
  | invalidLengthPrefix .. => "InvalidLengthPrefix"
  | invalidIntegerWidth .. => "InvalidIntegerWidth"
  | missingTerminator => "MissingNullTerminator"
  | invalidUtf8 .. => "InvalidUtf8"
  | unsupportedVersion .. => "UnsupportedProtocolVersion"
  | unsupportedPlugin .. => "UnsupportedAuthPlugin"
  | missingCapability .. => "MissingCapability"
  | unexpectedHeader .. => "UnexpectedHeader"
  | outOfOrder .. => "OutOfOrder"
  | payloadTooLarge .. => "PayloadTooLarge"
  | unknownColumnType .. => "UnknownColumnType"
  | tooManyColumns .. => "TooManyColumns"
  | trailingBytes .. => "TrailingBytes"

def ProtocolError.message : ProtocolError → String
  | unexpectedEnd needed remaining =>
    s!"unexpected end of payload: needed {needed} bytes, {remaining} remaining"
  | incompleteHeader needed remaining =>
    s!"incomplete packet header: expected {needed} bytes, got {remaining}"
  | unexpectedByte field expected found =>
    s!"expected {field} byte 0x" ++ Hex.upper expected ++ ", got 0x" ++ Hex.upper found
  | invalidLengthPrefix lead => "invalid length-encoded integer prefix 0x" ++ Hex.upper lead
  | invalidIntegerWidth width => s!"invalid fixed integer width {width}"
  | missingTerminator => "missing null terminator"
  | invalidUtf8 field => s!"invalid UTF-8 in {field}"
  | unsupportedVersion version => s!"unsupported handshake protocol version {version.toNat}"
  | unsupportedPlugin name => "unsupported authentication plugin '" ++ name ++ "'"
  | missingCapability name => s!"server does not support required capability: {name}"
  | unexpectedHeader place header => s!"unexpected {place} header byte 0x" ++ Hex.upper header
  | outOfOrder expected found =>
    s!"packet out of order: expected sequence {expected.toNat}, got {found.toNat}"
  | payloadTooLarge size limit => s!"payload of {size} bytes exceeds maximum {limit}"
  | unknownColumnType code => "unknown column type 0x" ++ Hex.upper code
  | tooManyColumns count limit =>
    s!"result set header announces {count} columns, maximum is {limit}"
  | trailingBytes count => s!"{count} trailing bytes after payload"

instance : ErrorText ProtocolError := ⟨ProtocolError.label, ProtocolError.message⟩

end SqlWire
