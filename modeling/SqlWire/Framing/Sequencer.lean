import SqlWire.Framing.Error
import SqlWire.Wire.Packet

/-! # Packets in sequence

Each packet carries a sequence number, one more than the last in either direction, and 0 follows
255. A sequencer cuts packets off the front of the bytes that have come in, and writes packets
behind the bytes that are to go out. A packet out of order is dropped and does not count; bytes
that are no whole packet yet stay as they are.
-/

namespace SqlWire

structure Packet where
  sequence : UInt8
  body : Bytes
deriving Repr, DecidableEq

namespace Packet

def size (p : Packet) : Nat := headerSize + p.body.length

/-- Whether the next packet continues the body. -/
def isContinued (p : Packet) : Bool := p.body.length == maxBody

def encode (p : Packet) : Bytes :=
  PacketHeader.encode ⟨UInt32.ofNat p.body.length, p.sequence⟩ ++ p.body

/-- The packet at the front of bytes, and the bytes behind it. -/
def split? : Bytes → Option (Packet × Bytes)
  | a :: b :: c :: sequence :: rest =>
    let length := LittleEndian.value [a, b, c]
    let (body, rest) := rest.splitAt length
    if body.length < length then none else some (⟨sequence, body⟩, rest)
  | _ => none

theorem length_of_split? {bytes rest : Bytes} {p : Packet} (h : split? bytes = some (p, rest)) :
    rest.length < bytes.length := by
  unfold split? at h
  split at h
  · simp only [List.splitAt_eq] at h
    split at h
    · simp at h
    · simp only [Option.some.injEq, Prod.mk.injEq] at h
      rw [← h.2]
      simp only [List.length_drop, List.length_cons]
      omega
  · simp at h

end Packet

/-- The sequence number that is due, and whether another one is an error. -/
structure Sequencer where
  next : UInt8
  strict : Bool
deriving Repr, DecidableEq

namespace Sequencer

def start : Sequencer := ⟨0, true⟩

def reset (s : Sequencer) : Sequencer := { s with next := 0 }

/-- What is made of the bytes that have come in. -/
inductive Decoding where
  /-- No whole packet is there. -/
  | incomplete
  /-- A packet, and the bytes behind it. -/
  | packet (p : Packet) (rest : Bytes)
  /-- A packet out of order was there; the bytes behind it are left. -/
  | outOfOrder (expected found : UInt8) (rest : Bytes)
deriving Repr, DecidableEq

/-- Cuts a packet off the front of bytes. -/
def decode (s : Sequencer) (bytes : Bytes) : Decoding × Sequencer :=
  match Packet.split? bytes with
  | none => (.incomplete, s)
  | some (p, rest) =>
    if s.strict && p.sequence != s.next then (.outOfOrder s.next p.sequence rest, s)
    else (.packet p rest, { s with next := p.sequence + 1 })

/-- The bytes of the next packet with a body. -/
def encode (s : Sequencer) (body : Bytes) : Except ChannelError (Bytes × Sequencer) :=
  if maxBody < body.length then .error (.packetTooLarge body.length maxBody)
  else .ok (Packet.encode ⟨s.next, body⟩, { s with next := s.next + 1 })

/-- The bytes of the next packets, one with each body. -/
def encodeAll (s : Sequencer) : List Bytes → Except ChannelError (Bytes × Sequencer)
  | [] => .ok ([], s)
  | [body] => s.encode body
  | body :: rest => do
    let (bytes, s) ← s.encode body
    let (others, s) ← encodeAll s rest
    return (bytes ++ others, s)

theorem length_of_decode_packet {s s' : Sequencer} {bytes rest : Bytes} {p : Packet}
    (h : s.decode bytes = (.packet p rest, s')) : rest.length < bytes.length := by
  unfold decode at h
  split at h
  · simp at h
  · next found =>
    split at h
    · simp at h
    · simp only [Prod.mk.injEq, Decoding.packet.injEq] at h
      rw [← h.1.2]
      exact Packet.length_of_split? found

end Sequencer

end SqlWire
