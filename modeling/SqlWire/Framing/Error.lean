import SqlWire.Wire.Error

/-! # Errors of a byte channel

What can go wrong between two peers before a payload is complete.
-/

namespace SqlWire

/-- A failure of the transport, with its own words. -/
structure IoError where
  message : String
deriving Repr, DecidableEq

inductive ChannelError where
  | io (cause : IoError)
  | protocol (cause : ProtocolError)
  /-- The peer has ended its side. -/
  | closed
  /-- A packet would be longer than its header can say. -/
  | packetTooLarge (size limit : Nat)
  /-- The time budget is used up. -/
  | timeout
deriving Repr, DecidableEq

namespace ChannelError

def label : ChannelError → String
  | io _ => "Io"
  | protocol cause => "Protocol." ++ cause.label
  | closed => "ConnectionClosed"
  | packetTooLarge .. => "PacketTooLarge"
  | timeout => "Timeout"

def message : ChannelError → String
  | io cause => s!"I/O error: {cause.message}"
  | protocol cause => s!"protocol error: {cause.message}"
  | closed => "connection closed"
  | packetTooLarge size limit => s!"packet too large: {size} bytes (max {limit})"
  | timeout => "I/O timeout expired"

/-- Whether the channel cannot be used after an error: only a packet that was never sent leaves it
as it was. -/
def isFatal : ChannelError → Bool
  | packetTooLarge .. => false
  | _ => true

end ChannelError

instance : ErrorText ChannelError := ⟨ChannelError.label, ChannelError.message⟩

end SqlWire
