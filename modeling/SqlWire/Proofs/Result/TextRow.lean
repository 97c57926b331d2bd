import SqlWire.Proofs.Message.Table
import SqlWire.Proofs.Wire.Consumption
import SqlWire.Result.Reading

/-! # Text rows

A payload is a row of so many cells if the reading of the cells takes all of it
(`RawRow.decode_eq_ok_iff`). So there is no other row at the start of a row (`RawRow.decode_append`), a row
can have a longer form than the one that is written but no shorter one (`RawRow.takesOnly_readCells`), and
a reader of a table takes a written row for a row and for nothing else (`AnswerReader.step_row`).
-/

namespace SqlWire

namespace RawRow

open Read

variable {count : Nat} {payload : Bytes} {cells : RawRow}

/-! ## What is read is a row -/

/-- A cell that was read can be written, in no more bytes. -/
theorem takesOnly_cell :
    lengthBytesOrNull.TakesOnly fun field cell =>
      (∀ text ∈ cell, Storable text) ∧ (cellField cell).length ≤ field.length := by
  refine takesOnly_lengthBytesOrNull.imp ?_
  rintro field cell ⟨filled, texts⟩
  cases cell with
  | none => exact ⟨nofun, filled⟩
  | some text =>
    obtain ⟨storable, size⟩ := texts text rfl
    refine ⟨?_, size⟩
    rintro other same
    obtain rfl := Option.some.inj same
    exact storable

/-- As many cells are read as are asked for, and they can be written in no more bytes. -/
theorem takesOnly_readCells (count : Nat) :
    (readCells count).TakesOnly fun field cells => cells.length = count ∧
      (∀ cell ∈ cells, ∀ text ∈ cell, Storable text) ∧ (encode cells).length ≤ field.length := by
  induction count with
  | zero =>
    refine (takesOnly_pure []).imp ?_
    rintro field cells ⟨rfl, rfl⟩
    exact ⟨rfl, nofun, Nat.le_refl 0⟩
  | succ count ih =>
    refine (takesOnly_cell.bind fun cell => ih.map (cell :: ·)).imp ?_
    rintro field cells ⟨front, cell, back, rfl, ⟨first, size⟩, rest, ⟨number, later, sizes⟩, rfl⟩
    refine ⟨by rw [List.length_cons, number], List.forall_mem_cons.mpr ⟨first, later⟩, ?_⟩
    rw [encode, List.flatMap_cons, List.length_append, List.length_append]
    exact Nat.add_le_add size sizes

/-! ## Whole payloads -/

/-- What stands behind the cells of a row is an error. -/
theorem decode_append (takes : (readCells count).Takes payload cells) (extra : Bytes) :
    decode count (payload ++ extra) =
      if extra = [] then .ok cells else .error (.trailingBytes extra.length) := by
  have first := takes 0 extra
  rw [decode, Read.decode, Cursor.start, read, run_bind_ok first]
  cases extra <;> rfl

/-- A payload is a row if the reading of its cells takes all of it. -/
theorem decode_eq_ok_iff : decode count payload = .ok cells ↔ (readCells count).Takes payload cells := by
  constructor
  · intro ok
    obtain ⟨end', both⟩ : ∃ c, (read count).run.run (Cursor.start payload) = (.ok cells, c) :=
      ⟨_, Prod.ext ok rfl⟩
    obtain ⟨found, c, first, rest⟩ := run_bind_eq_ok both
    obtain ⟨field, whole, -, takes⟩ := takesOnly_readCells count _ _ _ first
    have read := decode_append takes c.rest
    rw [← show payload = field ++ c.rest from whole, ok] at read
    split at read
    · next none =>
      rw [Except.ok.inj read, show payload = field ++ c.rest from whole, none, List.append_nil]
      exact takes
    · cases read
  · intro takes
    have read := decode_append takes []
    rwa [List.append_nil, if_pos rfl] at read

/-- No payload that is a row starts with another one of as many cells. -/
theorem eq_nil_of_decode_append {back : Bytes} {others : RawRow} (front : decode count payload = .ok cells)
    (whole : decode count (payload ++ back) = .ok others) : back = [] := by
  rw [decode_append (decode_eq_ok_iff.mp front)] at whole
  split at whole
  · assumption
  · cases whole

/-- A row that was read is read again from what is written for its cells, which is no longer. -/
theorem decode_encode_of_decode (ok : decode count payload = .ok cells) :
    (encode cells).length ≤ payload.length ∧ decode count (encode cells) = .ok cells := by
  have takes := decode_eq_ok_iff.mp ok
  obtain ⟨field, whole, ⟨number, storable, size⟩, -⟩ :=
    takesOnly_readCells count ⟨0, payload ++ []⟩ _ _ (takes 0 [])
  rw [List.append_nil] at whole
  subst number
  refine ⟨?_, decode_encode storable⟩
  rwa [show payload = field from whole.trans (List.append_nil field)]

end RawRow

namespace AnswerReader

/-- A reader of a table adds a row that has a cell for each column. -/
theorem step_row {r : AnswerReader} {columns : List ColumnDefinition} {known : List RawRow}
    (place : r.place = .rows columns known) {cells : RawRow} (nonempty : cells ≠ [])
    (filled : cells.length = columns.length)
    (storable : ∀ cell ∈ cells, ∀ text ∈ cell, Storable text) :
    r.step cells.encode = ({ r with place := .rows columns (cells :: known) }, .more) := by
  obtain ⟨terminator, error⟩ := RawRow.isEof_isError_encode nonempty
  have told := RawRow.decode_encode storable
  rw [filled] at told
  simp only [step, place, stepRows, terminator, error, told]
  rfl

end AnswerReader

namespace RawRow

/-- A row of any cells is read back. No proper part of it from its start is a row of as many cells, nor is
the row with anything behind it. If it has a cell it is neither a terminator nor an error, so a reader of a
table with as many columns goes on behind it. Any payload that is read as a row gives cells that are read
again from what is written for them, which is no longer than the payload. -/
theorem decode_encode_unambiguous (cells : RawRow) (storable : ∀ cell ∈ cells, ∀ text ∈ cell, Storable text) :
    decode cells.length (encode cells) = .ok cells ∧
      (∀ front back, front ++ back = encode cells → back ≠ [] →
        ∃ cause, decode cells.length front = .error cause) ∧
      (∀ extra, extra ≠ [] → decode cells.length (encode cells ++ extra) =
        .error (.trailingBytes extra.length)) ∧
      (cells ≠ [] → Reply.isEof (encode cells) = false ∧ Reply.isError (encode cells) = false ∧
        ∀ (r : AnswerReader) (columns : List ColumnDefinition) (known : List RawRow),
          r.place = .rows columns known → cells.length = columns.length →
            r.step (encode cells) = ({ r with place := .rows columns (cells :: known) }, .more)) ∧
      (∀ count payload found, decode count payload = .ok found →
        (encode found).length ≤ payload.length ∧ decode count (encode found) = .ok found) := by
  have whole := decode_encode storable
  refine ⟨whole, ?part, ?extra, ?loop, fun _ _ _ => decode_encode_of_decode⟩
  case part =>
    intro front back parts more
    cases read : decode cells.length front with
    | error cause => exact ⟨cause, rfl⟩
    | ok found =>
      rw [← parts] at whole
      exact (more (eq_nil_of_decode_append read whole)).elim
  case extra =>
    intro extra more
    rw [decode_append (takes_readCells storable), if_neg more]
  case loop =>
    intro nonempty
    obtain ⟨terminator, error⟩ := isEof_isError_encode nonempty
    exact ⟨terminator, error, fun _ _ _ place filled =>
      AnswerReader.step_row place nonempty filled storable⟩

theorem decode_encode_unambiguous_null :
    let cells : RawRow := [some [0x31], none, some []]
    (∀ cell ∈ cells, ∀ text ∈ cell, Storable text) ∧
      encode cells = [0x01, 0x31, 0xFB, 0x00] ∧
      decode 3 (encode cells) = .ok cells ∧
      decode 3 (encode cells ++ [0x00]) = .error (.trailingBytes 1) ∧
      ∃ cause, decode 3 [0x01, 0x31, 0xFB] = .error cause := by
  intro cells
  have storable : ∀ cell ∈ cells, ∀ text ∈ cell, Storable text := by
    simp only [cells, List.forall_mem_cons, Storable]
    refine ⟨?_, nofun, ?_, nofun⟩
    · rintro text ⟨⟩
      decide
    · rintro text ⟨⟩
      decide
  obtain ⟨whole, part, extra, -⟩ := decode_encode_unambiguous cells storable
  exact ⟨storable, by decide, whole, extra [0x00] (by decide), part [0x01, 0x31, 0xFB] [0x00] rfl (by decide)⟩

end RawRow

end SqlWire
