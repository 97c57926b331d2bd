import SqlWire.Text.Utf8
import SqlWire.Wire.Error

/-! # Reading payload fields

A payload is read front to back by a cursor. A read that fails can still have moved the cursor,
past a length for instance, and the reads after it go on from there; so the position is kept in
both outcomes.

A length-encoded integer is one byte up to `0xFA`, or a lead byte `0xFC`, `0xFD`, `0xFE` and a
little-endian integer of two, three or eight bytes. `0xFB` stands for NULL where a row allows it.
-/

namespace SqlWire

/-- A position in a payload: the bytes behind it are counted, the bytes ahead are kept. -/
structure Cursor where
  offset : Nat
  rest : Bytes
deriving Repr, DecidableEq

def Cursor.start (payload : Bytes) : Cursor := ⟨0, payload⟩

def Cursor.remaining (c : Cursor) : Nat := c.rest.length

/-- A reading of one or more fields, which moves the cursor whether it succeeds or not. -/
abbrev Read (α : Type) := ExceptT ProtocolError (StateM Cursor) α

namespace Read

/-- The outcome of reading a payload from its start. -/
def decode {α : Type} (read : Read α) (payload : Bytes) : Except ProtocolError α :=
  (read.run.run (Cursor.start payload)).1

/-- Applies a pure check to what was read. -/
def ofExcept {α : Type} (result : Except ProtocolError α) : Read α :=
  match result with
  | .ok a => pure a
  | .error e => throw e

def remaining : Read Nat := do return (← get).remaining

def isEmpty : Read Bool := do return (← get).rest.isEmpty

/-- The next byte, without moving. -/
def peek : Read (Option UInt8) := do return (← get).rest.head?

/-- Moves past `count` bytes and returns them. -/
def bytes (count : Nat) : Read Bytes := do
  let c ← get
  let (front, back) := c.rest.splitAt count
  if front.length < count then throw (.unexpectedEnd count front.length)
  set (Cursor.mk (c.offset + count) back)
  return front

def skip (count : Nat) : Read Unit := do
  let _ ← bytes count

def byte : Read UInt8 := do
  let c ← get
  match c.rest with
  | [] => throw (.unexpectedEnd 1 0)
  | b :: rest =>
    set (Cursor.mk (c.offset + 1) rest)
    return b

/-- One byte that has to be `expected`; another one is passed over all the same. -/
def expect (expected : UInt8) (field : String) : Read Unit := do
  let found ← byte
  if found != expected then throw (.unexpectedByte field expected found)

/-- An unsigned integer of one to eight bytes. -/
def fixed (width : Nat) : Read UInt64 := do
  if width == 0 || width > 8 then throw (.invalidIntegerWidth width)
  return UInt64.ofNat (LittleEndian.value (← bytes width))

def uint16 : Read UInt16 := do return (← fixed 2).toUInt16

def uint24 : Read UInt32 := do return (← fixed 3).toUInt32

def uint32 : Read UInt32 := do return (← fixed 4).toUInt32

def uint64 : Read UInt64 := fixed 8

/-- A length-encoded integer, or none for the NULL byte. -/
def lengthOrNull : Read (Option UInt64) := do
  let lead ← byte
  if lead ≤ 0xFA then return some lead.toUInt64
  else if lead == 0xFB then return none
  else if lead == 0xFC then return some (← fixed 2)
  else if lead == 0xFD then return some (← fixed 3)
  else if lead == 0xFE then return some (← fixed 8)
  else throw (.invalidLengthPrefix lead)

/-- A length-encoded integer. -/
def length : Read UInt64 := do
  match ← lengthOrNull with
  | some n => return n
  | none => throw (.invalidLengthPrefix 0xFB)

def lengthBytes : Read Bytes := do
  bytes (← length).toNat

/-- A byte string behind its length, or none for the NULL byte. -/
def lengthBytesOrNull : Read (Option Bytes) := do
  match ← lengthOrNull with
  | some n => return some (← bytes n.toNat)
  | none => return none

/-- The text of bytes that were read as `field`. -/
def text (field : String) (bs : Bytes) : Read String :=
  match Utf8.decode? bs with
  | some s => pure s
  | none => throw (.invalidUtf8 field)

def lengthText : Read String := do
  text "length-encoded string" (← lengthBytes)

/-- A byte string before a zero byte, which is passed over. -/
def terminatedBytes : Read Bytes := do
  let c ← get
  match c.rest.span (· != 0) with
  | (_, []) => throw .missingTerminator
  | (front, _ :: back) =>
    set (Cursor.mk (c.offset + front.length + 1) back)
    return front

def terminatedText : Read String := do
  text "null-terminated string" (← terminatedBytes)

def rest : Read Bytes := do
  let c ← get
  set (Cursor.mk (c.offset + c.rest.length) [])
  return c.rest

end Read

end SqlWire
