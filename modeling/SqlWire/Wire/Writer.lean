import SqlWire.Bytes

/-! # Writing payload fields

Each field is written as a byte string and a payload is their concatenation. The layouts are
those of the reader; `lengthSize` is the number of bytes of a length-encoded integer.
-/

namespace SqlWire

namespace Write

/-- An integer of `width` bytes, at most eight; higher bytes are dropped. -/
def fixed (width : Nat) (value : UInt64) : Bytes :=
  LittleEndian.bytes (min width 8) value.toNat

def uint16 (value : UInt16) : Bytes := LittleEndian.bytes 2 value.toNat

def uint32 (value : UInt32) : Bytes := LittleEndian.bytes 4 value.toNat

def lengthSize (value : UInt64) : Nat :=
  if value < 0xFB then 1
  else if value ≤ 0xFFFF then 3
  else if value ≤ 0xFFFFFF then 4
  else 9

/-- A length-encoded integer in the shortest form that holds it. -/
def length (value : UInt64) : Bytes :=
  if value < 0xFB then [value.toUInt8]
  else if value ≤ 0xFFFF then 0xFC :: fixed 2 value
  else if value ≤ 0xFFFFFF then 0xFD :: fixed 3 value
  else 0xFE :: fixed 8 value

def zeros (count : Nat) : Bytes := List.replicate count 0

def null : Bytes := [0xFB]

def lengthBytes (value : Bytes) : Bytes :=
  length (UInt64.ofNat value.length) ++ value

def terminated (value : Bytes) : Bytes := value ++ [0]

@[simp] theorem length_fixed (width : Nat) (value : UInt64) :
    (fixed width value).length = min width 8 := by
  simp [fixed]

/-- A length-encoded integer has as many bytes as `lengthSize` says. -/
@[simp] theorem length_length (value : UInt64) : (length value).length = lengthSize value := by
  unfold length lengthSize
  split
  · rfl
  · split
    · simp
    · split <;> simp

end Write

end SqlWire
