import SqlWire.Wire.Packet

/-! # Payloads from packet bodies

A payload longer than a packet's body goes out in several packets: all but the last are of the
greatest length, and the last is shorter, empty if need be. The assembler puts such bodies together
again.
-/

namespace SqlWire

/-- The bodies of a payload that is not complete yet. -/
structure Assembler where
  /-- The bytes so far. -/
  buffer : Bytes
  /-- The number of bodies so far. -/
  count : Nat
deriving Repr, DecidableEq

namespace Assembler

def empty : Assembler := ⟨[], 0⟩

def isPartial (a : Assembler) : Bool := 0 < a.count

/-- Takes in a body; gives the payload if the body is its last. -/
def push (a : Assembler) (body : Bytes) : Option Bytes × Assembler :=
  if body.length == maxBody then (none, ⟨a.buffer ++ body, a.count + 1⟩)
  else (some (a.buffer ++ body), empty)

end Assembler

/-- The bodies in which a payload goes out. -/
def splitPayload (payload : Bytes) : List Bytes :=
  if _last : payload.length < maxBody then [payload]
  else
    let parts := payload.splitAt maxBody
    parts.1 :: splitPayload parts.2
termination_by payload.length
decreasing_by
  simp only [List.splitAt_eq, List.length_drop, maxBody] at *
  omega

end SqlWire
