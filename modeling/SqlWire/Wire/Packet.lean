import SqlWire.Wire.Reader

/-! # Packet headers

A packet is a four-byte header and a body: three bytes of body length and one sequence number. A
body of the greatest length is continued by the next packet.
-/

namespace SqlWire

def headerSize : Nat := 4

def maxBody : Nat := 0xFFFFFF

structure PacketHeader where
  length : UInt32
  sequence : UInt8
deriving Repr, DecidableEq

namespace PacketHeader

/-- The body length as a count. -/
def bodyLength (h : PacketHeader) : Nat := h.length.toNat

/-- Whether the next packet continues this one. -/
def isContinued (h : PacketHeader) : Bool := h.bodyLength == maxBody

/-- The four bytes of a header; a length beyond three bytes loses its high byte. -/
def encode (h : PacketHeader) : Bytes :=
  LittleEndian.bytes 3 h.length.toNat ++ [h.sequence]

/-- The header that bytes start with, and the bytes after it. -/
def decode : Bytes → Except ProtocolError (PacketHeader × Bytes)
  | a :: b :: c :: s :: rest => .ok (⟨UInt32.ofNat (LittleEndian.value [a, b, c]), s⟩, rest)
  | short => .error (.incompleteHeader headerSize short.length)

end PacketHeader

end SqlWire
