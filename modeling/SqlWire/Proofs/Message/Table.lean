import SqlWire.Message.Column
import SqlWire.Message.Reply
import SqlWire.Message.Row
import SqlWire.Proofs.Wire.Fields

/-! # Tables read back

The number of columns, the definitions and the rows of a table are read as they were written. No
number of columns begins like another reply, and no row like a terminator or an error: a cell whose
length begins with `0xFE` is longer than any terminator.
-/

namespace SqlWire

open Read

/-- Byte strings that can be written behind their length. -/
def Storable (field : Bytes) : Prop := field.length < 2 ^ 64

/-! ## The number of columns -/

theorem toNat_columnCount {count : Nat} (few : count < 2 ^ 64) :
    (UInt64.ofNat count).toNat = count := by
  rw [UInt64.toNat_ofNat', Nat.mod_eq_of_lt few]

theorem lt_of_le_maxColumns {count : Nat} (few : count ≤ maxColumns) : count < 2 ^ 64 :=
  Nat.lt_of_le_of_lt few (by decide)

theorem decodeColumnCount_encode {count : Nat} (few : count ≤ maxColumns) :
    decodeColumnCount (encodeColumnCount count) = .ok count := by
  apply decode_of_ends
  rw [encodeColumnCount, ← List.append_nil (Write.length _)]
  refine (takes_length _).ends_bind ?_
  rw [toNat_columnCount (lt_of_le_maxColumns few), if_neg (Nat.not_lt.mpr few)]
  exact ends_pure _ _

/-- The number of columns of a table does not begin like another reply to a statement. -/
theorem encodeColumnCount_eq_cons {count : Nat} (columns : 0 < count) (few : count < 2 ^ 64) :
    ∃ header rest, encodeColumnCount count = header :: rest ∧ header ≠ Reply.okHeader ∧
      header ≠ Reply.errorHeader ∧ header ≠ Reply.localFileHeader := by
  obtain ⟨header, rest, whole, file, error, zero, -⟩ := Write.length_eq_cons (UInt64.ofNat count)
  refine ⟨header, rest, whole, ?_, error, file⟩
  intro ok
  have none := congrArg UInt64.toNat (zero ok)
  rw [toNat_columnCount few] at none
  exact Nat.ne_of_gt columns none

/-! ## Definitions -/

namespace ColumnDefinition

/-- A definition with the flags that have a name. -/
def named (d : ColumnDefinition) : ColumnDefinition := { d with flags := .ofBits d.flags.bits }

theorem takes_textField {text : String} (storable : Storable (Utf8.encode text)) :
    lengthText.Takes (textField text) text := takes_lengthText storable

theorem decode_encode {d : ColumnDefinition} (schema : Storable (Utf8.encode d.schema))
    (table : Storable (Utf8.encode d.table))
    (originalTable : Storable (Utf8.encode d.originalTable))
    (name : Storable (Utf8.encode d.name))
    (originalName : Storable (Utf8.encode d.originalName)) : decode d.encode = .ok d.named := by
  apply decode_of_ends
  rw [encode, read]
  simp only [List.append_assoc]
  have catalog : lengthBytes.Takes (textField "def") (Utf8.encode "def") :=
    takes_lengthBytes (by decide)
  refine catalog.ends_bind ?_
  refine (takes_textField schema).ends_bind ?_
  refine (takes_textField table).ends_bind ?_
  refine (takes_textField originalTable).ends_bind ?_
  refine (takes_textField name).ends_bind ?_
  refine (takes_textField originalName).ends_bind ?_
  refine (takes_length fixedLength).ends_bind ?_
  rw [if_neg (by decide)]
  refine (takes_uint16 d.collation).ends_bind ?_
  refine (takes_uint32 d.length).ends_bind ?_
  refine (takes_byte d.type.code).ends_bind ?_
  rw [ColumnType.ofCode_code, ofExcept_ok, pure_bind]
  refine (takes_uint16 d.flags.bits).ends_bind ?_
  exact (takes_byte d.decimals).ends_bind (ends_pure _ _)

end ColumnDefinition

/-! ## Rows -/

namespace RawRow

theorem takes_cellField {cell : Option Bytes} (storable : ∀ text ∈ cell, Storable text) :
    lengthBytesOrNull.Takes (cellField cell) cell := by
  cases cell with
  | none => exact takes_lengthBytesOrNull_null
  | some text => exact takes_lengthBytesOrNull (storable text rfl)

theorem takes_readCells {cells : RawRow} (storable : ∀ cell ∈ cells, ∀ text ∈ cell, Storable text) :
    (readCells cells.length).Takes (encode cells) cells := by
  induction cells with
  | nil => exact takes_pure []
  | cons cell rest ih =>
    obtain ⟨first, later⟩ := List.forall_mem_cons.mp storable
    rw [List.length_cons, readCells, encode, List.flatMap_cons]
    exact (takes_cellField first).bind ((ih later).map _)

theorem decode_encode {cells : RawRow} (storable : ∀ cell ∈ cells, ∀ text ∈ cell, Storable text) :
    decode cells.length (encode cells) = .ok cells := by
  apply decode_of_ends
  rw [read, ← List.append_nil (encode cells)]
  refine (takes_readCells storable).ends_bind (ends_remaining_bind ?_)
  exact ends_pure _ _

/-- A row with a cell does not begin like an error, and is no terminator. -/
theorem isEof_isError_encode {cells : RawRow} (nonempty : cells ≠ []) :
    Reply.isEof (encode cells) = false ∧ Reply.isError (encode cells) = false := by
  obtain ⟨cell, rest, rfl⟩ := List.exists_cons_of_ne_nil nonempty
  rw [encode, List.flatMap_cons]
  cases cell with
  | none => exact ⟨rfl, rfl⟩
  | some text =>
    obtain ⟨lead, more, whole, -, error, -, long⟩ :=
      Write.length_eq_cons (UInt64.ofNat text.length)
    simp only [cellField, Write.lengthBytes, whole, List.cons_append]
    constructor
    · by_cases terminator : lead = Reply.eofHeader
      · have eight : more.length = 8 := long terminator
        simp only [Reply.isEof, List.append_assoc, List.drop_succ_cons, Bool.and_eq_false_iff,
          List.isEmpty_eq_false_iff_exists_mem, ← List.length_pos_iff_exists_mem, List.length_drop,
          List.length_append, eight]
        right
        omega
      · simp [Reply.isEof, terminator]
    · simpa [Reply.isError, Reply.errorHeader] using error

end RawRow

end SqlWire
