import SqlWire.Proofs.Wire.Fields

/-! # Payloads of any layout

A payload is a list of fields, and a reader that knows the kinds of the fields reads them back. A
field carries what its kind asks of it, so that every list of fields is a payload. A slot is a field
with an operation that reads its kind. What is said of one slot (`Slot.takes`) is carried over all of
them by induction, for a reader that stands where the writer stood (`readAll_writeAll`).
-/

namespace SqlWire

inductive Field where
  | byte (value : UInt8)
  | fixed (width : Nat) (least : 0 < width) (most : width ≤ 8) (value : UInt64)
  | length (value : UInt64)
  | null
  | lengthBytes (value : Bytes) (storable : value.length < 2 ^ 64)
  | terminated (value : Bytes) (whole : 0 ∉ value)
  | raw (value : Bytes)

/-- What a reader gives for a field. -/
inductive FieldValue where
  | byte (value : UInt8)
  | number (value : UInt64)
  | bytes (value : Bytes)
  | null
deriving Repr, DecidableEq

/-- The operations of a reader that take a single field. -/
inductive FieldReader where
  | byte
  | fixed (width : Nat)
  | length
  | lengthOrNull
  | lengthBytes
  | lengthBytesOrNull
  | terminatedBytes
  | bytes (count : Nat)
deriving Repr, DecidableEq

namespace Field

def write : Field → Bytes
  | byte value => [value]
  | fixed width _ _ value => Write.fixed width value
  | length value => Write.length value
  | null => Write.null
  | lengthBytes value _ => Write.lengthBytes value
  | terminated value _ => Write.terminated value
  | raw value => value

/-- What is left of a field on the wire: an integer loses the bytes for which it has no room. -/
def value : Field → FieldValue
  | byte value => .byte value
  | fixed width _ _ value => .number (UInt64.ofNat (value.toNat % 256 ^ width))
  | length value => .number value
  | null => .null
  | lengthBytes value _ | terminated value _ | raw value => .bytes value

/-- The operations that read fields of a kind. Those that know NULL also read what is not NULL. -/
def readers : Field → List FieldReader
  | byte _ => [.byte]
  | fixed width _ _ _ => [.fixed width]
  | length _ => [.length, .lengthOrNull]
  | null => [.lengthOrNull, .lengthBytesOrNull]
  | lengthBytes _ _ => [.lengthBytes, .lengthBytesOrNull]
  | terminated _ _ => [.terminatedBytes]
  | raw value => [.bytes value.length]

/-- Writes fields behind what has been written: the length behind each of them, and all bytes. -/
def writeAll : List Field → Bytes → List Nat × Bytes
  | [], written => ([], written)
  | field :: later, written =>
    let (lengths, payload) := writeAll later (written ++ field.write)
    ((written ++ field.write).length :: lengths, payload)

/-- The bytes of fields follow one another. -/
theorem payload_writeAll (fields : List Field) (written : Bytes) :
    (writeAll fields written).2 = written ++ fields.flatMap write := by
  induction fields generalizing written with
  | nil => exact (List.append_nil written).symm
  | cons field later ih => rw [writeAll, ih, List.flatMap_cons, List.append_assoc]

end Field

namespace FieldReader

def read : FieldReader → Read FieldValue
  | byte => do return .byte (← Read.byte)
  | fixed width => do return .number (← Read.fixed width)
  | length => do return .number (← Read.length)
  | lengthOrNull => do return (← Read.lengthOrNull).elim .null .number
  | lengthBytes => do return .bytes (← Read.lengthBytes)
  | lengthBytesOrNull => do return (← Read.lengthBytesOrNull).elim .null .bytes
  | terminatedBytes => do return .bytes (← Read.terminatedBytes)
  | bytes count => do return .bytes (← Read.bytes count)

/-- Reads with one operation after the other: what each gives, where the cursor stands behind each,
and the last position. -/
def readAll : List FieldReader → Cursor → List (Except ProtocolError FieldValue) × List Nat × Cursor
  | [], c => ([], [], c)
  | reader :: later, c =>
    let (outcome, c) := reader.read.run.run c
    let (outcomes, offsets, last) := readAll later c
    (outcome :: outcomes, c.offset :: offsets, last)

end FieldReader

/-- A field, and an operation that reads its kind. -/
structure Slot where
  field : Field
  reader : FieldReader
  fits : reader ∈ field.readers

namespace Slot

open Read

/-- The operation of a slot takes its field, whatever follows. -/
theorem takes (slot : Slot) : slot.reader.read.Takes slot.field.write slot.field.value := by
  obtain ⟨field, reader, fits⟩ := slot
  cases field with
  | byte value =>
    obtain rfl := List.mem_singleton.mp fits
    exact (takes_byte value).map _
  | fixed width least most value =>
    obtain rfl := List.mem_singleton.mp fits
    have bytes : Write.fixed width value = LittleEndian.bytes width value.toNat := by
      rw [Write.fixed, Nat.min_eq_left most]
    change Takes _ (Write.fixed width value) _
    rw [bytes]
    exact (takes_fixed_mod width least most value.toNat).map _
  | length value =>
    obtain rfl | rfl : reader = .length ∨ reader = .lengthOrNull := by simpa [Field.readers] using fits
    · exact (takes_length value).map _
    · exact (takes_lengthOrNull value).map _
  | null =>
    obtain rfl | rfl : reader = .lengthOrNull ∨ reader = .lengthBytesOrNull := by
      simpa [Field.readers] using fits
    · exact takes_lengthOrNull_null.map _
    · exact takes_lengthBytesOrNull_null.map _
  | lengthBytes value storable =>
    obtain rfl | rfl : reader = .lengthBytes ∨ reader = .lengthBytesOrNull := by
      simpa [Field.readers] using fits
    · exact (takes_lengthBytes storable).map _
    · exact (takes_lengthBytesOrNull storable).map _
  | terminated value whole =>
    obtain rfl := List.mem_singleton.mp fits
    exact (takes_terminatedBytes whole).map _
  | raw value =>
    obtain rfl := List.mem_singleton.mp fits
    exact (takes_bytes value).map _

/-- A reader that stands where a writer stood takes what the writer wrote from there on, and stands
behind each field where the writer stood behind it. -/
theorem readAll_flatMap (layout : List Slot) (written rest : Bytes) :
    FieldReader.readAll (layout.map (·.reader))
        ⟨written.length, layout.flatMap (·.field.write) ++ rest⟩ =
      (layout.map fun slot => .ok slot.field.value,
        (Field.writeAll (layout.map (·.field)) written).1,
        ⟨(written ++ layout.flatMap (·.field.write)).length, rest⟩) := by
  induction layout generalizing written with
  | nil => simp [FieldReader.readAll, Field.writeAll]
  | cons slot later ih =>
    have here := slot.takes written.length (later.flatMap (·.field.write) ++ rest)
    have behind := ih (written ++ slot.field.write)
    rw [← List.length_append] at here
    simp only [List.map_cons, List.flatMap_cons, List.append_assoc, FieldReader.readAll, here,
      Field.writeAll] at behind ⊢
    rw [behind]

/-- Fields are read back as they were written, whatever their kinds and their order: each operation
gives the value of its field and leaves the cursor where the writer was behind it, and in the end
nothing is left. -/
theorem readAll_writeAll (layout : List Slot) :
    let (lengths, payload) := Field.writeAll (layout.map (·.field)) []
    FieldReader.readAll (layout.map (·.reader)) (.start payload) =
      (layout.map fun slot => .ok slot.field.value, lengths, ⟨payload.length, []⟩) := by
  have whole := readAll_flatMap layout [] []
  have payload := Field.payload_writeAll (layout.map (·.field)) []
  rw [List.flatMap_map] at payload
  rw [List.append_nil] at whole
  dsimp only
  rw [payload]
  exact whole

/-- Fields of all kinds, by every operation: a length of 251 needs a lead byte, and an integer keeps the
bytes that its field has room for. -/
theorem readAll_writeAll_everyKind :
    let layout : List Slot := [⟨.byte 7, .byte, by decide⟩,
      ⟨.fixed 2 (by decide) (by decide) 0x12345, .fixed 2, by decide⟩,
      ⟨.length 250, .length, by decide⟩, ⟨.length 251, .lengthOrNull, by decide⟩,
      ⟨.null, .lengthOrNull, by decide⟩, ⟨.null, .lengthBytesOrNull, by decide⟩,
      ⟨.lengthBytes [1, 2] (by decide), .lengthBytes, by decide⟩,
      ⟨.lengthBytes [] (by decide), .lengthBytesOrNull, by decide⟩,
      ⟨.terminated [65] (by decide), .terminatedBytes, by decide⟩, ⟨.raw [0, 9], .bytes 2, by decide⟩]
    FieldReader.readAll (layout.map (·.reader)) (.start [7, 0x45, 0x23, 0xFA, 0xFC, 0xFB, 0x00, 0xFB,
        0xFB, 2, 1, 2, 0, 65, 0, 0, 9]) =
      ([.ok (.byte 7), .ok (.number 0x2345), .ok (.number 250), .ok (.number 251), .ok .null,
        .ok .null, .ok (.bytes [1, 2]), .ok (.bytes []), .ok (.bytes [65]), .ok (.bytes [0, 9])],
        [1, 3, 4, 7, 8, 9, 12, 13, 15, 17], ⟨17, []⟩) := by
  intro layout
  have written : Field.writeAll (layout.map (·.field)) [] = ([1, 3, 4, 7, 8, 9, 12, 13, 15, 17],
      [7, 0x45, 0x23, 0xFA, 0xFC, 0xFB, 0x00, 0xFB, 0xFB, 2, 1, 2, 0, 65, 0, 0, 9]) := by decide
  have read := readAll_writeAll layout
  rw [written] at read
  exact read

end Slot

end SqlWire
