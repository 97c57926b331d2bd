import SqlWire.Proofs.Message.Reply
import SqlWire.Proofs.Message.Table
import SqlWire.Proofs.Outcome
import SqlWire.Proofs.Result.TextRow
import SqlWire.Result.Reading
import SqlWire.Standin.Response

/-! # Prepared answers, read

What a stand-in sends for a prepared answer is what a reader makes results of. A reader goes through
the payloads of one result, all but the last of which leave the answer open (`AnswerReader.Reads`),
and the last one adds the result (`Standin.Response.concludes_result`). Since each result says whether
another follows, so does a reader through all of them, and the answer is complete or has failed
exactly at its last payload (`Standin.Response.concludes_parts`).
-/

namespace SqlWire

open Standin

/-! ## What is expected -/

/-- Whether a client can make a table of columns and rows: there is a column, each row has one cell
for each, and each cell can be read under its column. Texts are such as fit a counter of 64 bits. -/
structure IsReadable (columns : List Column) (rows : List (List Scalar)) : Prop where
  nonempty : 0 < columns.length
  few : columns.length ≤ maxColumns
  filled : ∀ row ∈ rows, row.length = columns.length
  values : ∀ row ∈ rows, ∀ place ∈ row.zip columns,
    ∃ value, Value.ofCell place.2.definition place.1.cell = .ok value
  names : ∀ column ∈ columns, Storable (Utf8.encode column.name)
  texts : ∀ row ∈ rows, ∀ scalar ∈ row, ∀ text ∈ scalar.cell, Storable text

/-- Whether a row has the values of cells under columns. -/
def Row.IsRead (columns : List Column) (sent : List Scalar) (row : Row) : Prop :=
  row.columns = columns.map (fun column => column.definition.named) ∧
    List.Forall₂ (fun (place : Scalar × Column) value =>
      Value.ofCell place.2.definition place.1.cell = .ok value) (sent.zip columns) row.values

/-- Whether a result is the table of columns and rows. Of a column's flags those come through that
have a name. -/
structure ResultSet.IsTable (columns : List Column) (rows : List (List Scalar))
    (result : ResultSet) : Prop where
  definitions : result.columns = columns.map fun column => column.definition.named
  cells : List.Forall₂ (Row.IsRead columns) rows result.rows
  affectedRows : result.affectedRows = 0
  lastInsertId : result.lastInsertId = 0
  warnings : result.warnings = 0

namespace Standin.Response

/-- The column of a table of one cell. -/
def valueColumn (value : Scalar) : Column := ⟨"value", value.columnType, ⟨0⟩⟩

/-- Whether an answer is a result that a client can read. -/
def IsResult : Response → Prop
  | ok _ _ => True
  | scalar value => IsReadable [valueColumn value] [[value]]
  | table columns rows => IsReadable columns rows
  | _ => False

/-- Whether an answer gives a result. -/
def Gives : Response → ResultSet → Prop
  | ok affectedRows lastInsertId, result => result = ⟨[], [], affectedRows, lastInsertId, 0⟩
  | scalar value, result => result.IsTable [valueColumn value] [[value]]
  | table columns rows, result => result.IsTable columns rows
  | _, _ => False

end Standin.Response

/-! ## Readers -/

namespace AnswerReader

/-- A reader that some payloads lead from one place of an answer to another. -/
inductive Reads : AnswerReader → List Bytes → AnswerReader → Prop where
  | none (r : AnswerReader) : Reads r [] r
  | more {r next last : AnswerReader} {payload : Bytes} {payloads : List Bytes}
    (one : r.step payload = (next, .more)) (others : Reads next payloads last) :
    Reads r (payload :: payloads) last

theorem Reads.append {r next last : AnswerReader} {front back : List Bytes}
    (first : Reads r front next) (later : Reads next back last) : Reads r (front ++ back) last := by
  induction first with
  | none => exact later
  | more one _ ih => exact .more one (ih later)

theorem Reads.single {r next : AnswerReader} {payload : Bytes}
    (one : r.step payload = (next, .more)) : Reads r [payload] next :=
  .more one (.none next)

variable (results : List ResultSet) (status : Status)

theorem storable_empty : Storable (Utf8.encode "") := by
  rw [Storable]
  decide

theorem step_columnCount {count : Nat} (columns : 0 < count) (few : count ≤ maxColumns) :
    step ⟨results, status, .head⟩ (encodeColumnCount count) =
      (⟨results, status, .columns count []⟩, .more) := by
  obtain ⟨header, rest, whole, ok, error, file⟩ :=
    encodeColumnCount_eq_cons columns (lt_of_le_maxColumns few)
  have told := decodeColumnCount_encode few
  rw [whole] at told ⊢
  simp only [step, stepHead, beq_iff_eq, ok, error, file, if_false, told]

theorem reads_columns {columns : List Column}
    (names : ∀ column ∈ columns, Storable (Utf8.encode column.name))
    (known : List ColumnDefinition) :
    Reads ⟨results, status, .columns columns.length known⟩
      (columns.map fun column => column.definition.encode)
      ⟨results, status,
        .columns 0 ((columns.map fun column => column.definition.named).reverse ++ known)⟩ := by
  induction columns generalizing known with
  | nil => exact .none _
  | cons column rest ih =>
    obtain ⟨first, later⟩ := List.forall_mem_cons.mp names
    have told : ColumnDefinition.decode column.definition.encode = .ok column.definition.named :=
      ColumnDefinition.decode_encode storable_empty storable_empty storable_empty first
        storable_empty
    have others := ih later (column.definition.named :: known)
    simp only [List.map_cons, List.reverse_cons, List.append_assoc, List.singleton_append]
    refine .more ?_ others
    simp only [step, stepColumns, List.length_cons, told]

theorem reads_rows {columns : List ColumnDefinition} {rows : List RawRow}
    (nonempty : columns ≠ []) (filled : ∀ row ∈ rows, row.length = columns.length)
    (texts : ∀ row ∈ rows, ∀ cell ∈ row, ∀ text ∈ cell, Storable text) (known : List RawRow) :
    Reads ⟨results, status, .rows columns known⟩ (rows.map RawRow.encode)
      ⟨results, status, .rows columns (rows.reverse ++ known)⟩ := by
  induction rows generalizing known with
  | nil => exact .none _
  | cons row rest ih =>
    obtain ⟨full, otherFull⟩ := List.forall_mem_cons.mp filled
    obtain ⟨first, later⟩ := List.forall_mem_cons.mp texts
    have some : row ≠ [] := by
      rintro rfl
      exact nonempty (List.length_eq_zero_iff.mp full.symm)
    have others := ih otherFull later (row :: known)
    rw [List.map_cons, List.reverse_cons, List.append_assoc, List.singleton_append]
    exact .more (step_row rfl some full first) others

/-- A flag without a name has no say in what a cell means. -/
theorem ofCell_named (d : ColumnDefinition) (cell : Option Bytes) :
    Value.ofCell d.named cell = Value.ofCell d cell := by
  have same : d.named.isUnsigned = d.isUnsigned := by
    simp only [ColumnDefinition.isUnsigned, ColumnDefinition.named, ColumnFlags.contains,
      ColumnFlags.ofBits, UInt16.and_assoc]
    rfl
  cases cell with
  | none => rfl
  | some text =>
    simp only [Value.ofCell, Value.ofCellBytes, same]
    rfl

/-- A row whose cells can be read is read. -/
theorem ofCells_eq_ok {columns : List Column} {sent : List Scalar}
    (values : ∀ place ∈ sent.zip columns,
      ∃ value, Value.ofCell place.2.definition place.1.cell = .ok value) :
    ∃ row, Row.ofCells (columns.map fun column => column.definition.named)
      (sent.map Scalar.cell) = .ok row ∧ Row.IsRead columns sent row := by
  have each : ∀ place ∈ sent.zip columns, ∃ value,
      Value.ofCell place.2.definition.named place.1.cell = .ok value ∧
        Value.ofCell place.2.definition place.1.cell = .ok value := by
    intro place member
    obtain ⟨value, read⟩ := values place member
    exact ⟨value, by rw [ofCell_named, read], read⟩
  obtain ⟨read, done, fit⟩ := Outcome.mapM_eq_ok each
  refine ⟨⟨_, read⟩, ?_, rfl, fit⟩
  rw [Row.ofCells, List.zip_map, List.mapM_map]
  exact congrArg (fun values : Except ValueError (List Value) =>
    values >>= fun values => pure (Row.mk _ values)) done

/-- The terminator of the rows makes the table a result. -/
theorem step_terminator {columns : List Column} {rows : List (List Scalar)}
    (readable : IsReadable columns rows) (told : Status) :
    ∃ result, ResultSet.IsTable columns rows result ∧
      step ⟨results, status, .rows (columns.map fun column => column.definition.named)
          (rows.map fun row => row.map Scalar.cell).reverse⟩ (Response.eofPayload told) =
        finish ⟨results, .ofBits told.bits, .head⟩ result := by
  obtain ⟨read, done, fit⟩ := Outcome.mapM_eq_ok fun row member => ofCells_eq_ok (readable.values row member)
  refine ⟨⟨_, read, 0, 0, 0⟩, ⟨rfl, fit, rfl, rfl, rfl⟩, ?_⟩
  have terminator : Reply.isEof (Response.eofPayload told) = true := EofReply.isEof_encode _
  have reply : EofReply.decode (Response.eofPayload told) = .ok ⟨0, .ofBits told.bits⟩ :=
    EofReply.decode_encode _
  simp only [step, stepRows, terminator, reply, if_true, tableResult, List.reverse_reverse,
    List.mapM_map, Function.comp_def]
  rw [done]
  rfl

/-- A reader that payloads lead to the end of a result or of the answer: all but the last one leave
the answer open. -/
def Concludes (r : AnswerReader) (payloads : List Bytes) (conclusion : AnswerReader × Step) : Prop :=
  ∃ before last next, payloads = before ++ [last] ∧ Reads r before next ∧
    next.step last = conclusion

theorem Concludes.single {r : AnswerReader} {payload : Bytes} {conclusion : AnswerReader × Step}
    (one : r.step payload = conclusion) : Concludes r [payload] conclusion :=
  ⟨[], payload, r, rfl, .none r, one⟩

theorem Concludes.reads {r next : AnswerReader} {payloads : List Bytes}
    (unfinished : Concludes r payloads (next, .more)) : Reads r payloads next := by
  obtain ⟨before, last, place, rfl, first, one⟩ := unfinished
  exact first.append (.single one)

theorem Concludes.prepend {r next : AnswerReader} {front back : List Bytes}
    {conclusion : AnswerReader × Step} (first : Reads r front next)
    (later : Concludes next back conclusion) : Concludes r (front ++ back) conclusion := by
  obtain ⟨before, last, place, rfl, rest, one⟩ := later
  exact ⟨front ++ before, last, place, (List.append_assoc ..).symm, first.append rest, one⟩

/-- A reader goes through a table from the number of its columns to its last terminator. -/
theorem concludes_table {columns : List Column} {rows : List (List Scalar)}
    (readable : IsReadable columns rows) (server told : Status) :
    ∃ result, ResultSet.IsTable columns rows result ∧
      Concludes ⟨results, status, .head⟩ (Response.tablePayloads server columns rows told)
        (finish ⟨results, .ofBits told.bits, .head⟩ result) := by
  obtain ⟨result, table, done⟩ := step_terminator results status readable told
  refine ⟨result, table, _, Response.eofPayload told, _, rfl, ?_, done⟩
  have count := step_columnCount results status readable.nonempty readable.few
  have definitions := reads_columns results status readable.names []
  rw [List.append_nil] at definitions
  have terminator : step ⟨results, status, .columns 0
      (columns.map fun column => column.definition.named).reverse⟩ (Response.eofPayload server) =
      (⟨results, status, .rows (columns.map fun column => column.definition.named) []⟩, .more) := by
    have short : Reply.isEof (Response.eofPayload server) = true := EofReply.isEof_encode _
    simp only [step, stepColumns, short, if_true, List.reverse_reverse]
  have some : (columns.map fun column => column.definition.named) ≠ [] := by
    simpa using List.length_pos_iff.mp readable.nonempty
  have filled : ∀ row ∈ rows.map fun row => row.map Scalar.cell,
      row.length = (columns.map fun column => column.definition.named).length := by
    simpa using readable.filled
  have texts : ∀ row ∈ rows.map fun row => row.map Scalar.cell, ∀ cell ∈ row, ∀ text ∈ cell,
      Storable text := by
    simpa using readable.texts
  have cells := reads_rows results status some filled texts []
  rw [List.append_nil, List.map_map] at cells
  exact (Reads.more count definitions).append (.more terminator cells)

end AnswerReader

namespace Status

theorem contains_moreResults_ofBits (s : Status) :
    (ofBits s.bits).contains moreResults = s.contains moreResults := by
  simp only [contains, ofBits, UInt16.and_assoc]
  rfl

theorem contains_union_self (s t : Status) : (s.union t).contains t = true := by
  simp only [contains, union, beq_iff_eq]
  apply UInt16.eq_of_toBitVec_eq
  ext i
  simpa using Or.inr

end Status

namespace Standin.Response

open AnswerReader Status

/-- A reader goes through the payloads of a result from the first to the last. -/
theorem concludes_result {response : Response} (result : response.IsResult) (sql : String)
    (server told : Status) (results : List ResultSet) (status : Status) :
    ∃ payloads set, response.singlePayloads? sql server told = some payloads ∧
      response.Gives set ∧
      Concludes ⟨results, status, .head⟩ payloads (finish ⟨results, .ofBits told.bits, .head⟩ set) := by
  cases response with
  | ok affectedRows lastInsertId =>
    refine ⟨_, ⟨[], [], affectedRows, lastInsertId, 0⟩, rfl, rfl, .single ?_⟩
    have reply : OkReply.decode (okPayload affectedRows lastInsertId told) =
        .ok ⟨affectedRows, lastInsertId, .ofBits told.bits, 0, ""⟩ := OkReply.decode_encode _
    obtain ⟨rest, whole⟩ : ∃ rest, okPayload affectedRows lastInsertId told =
        Reply.okHeader :: rest := ⟨_, rfl⟩
    rw [whole] at reply ⊢
    simp only [step, stepHead, beq_self_eq_true, if_true, reply]
    rfl
  | scalar value =>
    obtain ⟨set, table, concludes⟩ := concludes_table results status result server told
    exact ⟨_, set, rfl, table, concludes⟩
  | table columns rows =>
    obtain ⟨set, table, concludes⟩ := concludes_table results status result server told
    exact ⟨_, set, rfl, table, concludes⟩
  | _ => exact result.elim

/-- The answers of a list with the error at its end, if there is one. -/
def withFailure (results : List Response) (failure : Option ErrorReply) : List Response :=
  results ++ (failure.map error).toList

/-- How an answer ends that has an error at its end, or none. -/
def conclusion : Option ErrorReply → Step
  | none => .complete
  | some reply => .failed (.ofReply reply)

/-- The status at the end of an answer: that of its last result, if there is one. -/
def lastStatus (server : Status) (failure : Option ErrorReply) (start : Status) :
    List Response → Status
  | [] => start
  | _ :: _ => .ofBits (statusBefore (failure.map error).toList.length server).bits

/-- A reader goes through the payloads of all results, and of the error at their end if there is
one, from the first to the last. -/
theorem concludes_parts {results : List Response} {failure : Option ErrorReply}
    (nonempty : withFailure results failure ≠ []) (readable : ∀ r ∈ results, r.IsResult)
    (stated : ∀ reply ∈ failure, (Utf8.encode reply.state).length = 5) (sql : String)
    {server : Status} (last : server.contains .moreResults = false)
    (known : List ResultSet) (status : Status) :
    ∃ sets, List.Forall₂ Gives results sets ∧
      (partPayloads sql server (withFailure results failure)).2 = true ∧
      Concludes ⟨known, status, .head⟩ (partPayloads sql server (withFailure results failure)).1
        (⟨known ++ sets, lastStatus server failure status results, .head⟩, conclusion failure) := by
  induction results generalizing known status with
  | nil =>
    cases failure with
    | none => exact (nonempty rfl).elim
    | some reply =>
      refine ⟨[], .nil, rfl, ?_⟩
      rw [List.append_nil]
      refine .single ?_
      have told := ErrorReply.decode_encode (stated reply rfl)
      obtain ⟨rest, whole⟩ : ∃ rest, reply.encode = Reply.errorHeader :: rest := ⟨_, rfl⟩
      have failed : step ⟨known, status, .head⟩ reply.encode =
          (⟨known, status, .head⟩, .failed (.ofReply reply)) := by
        rw [whole] at told ⊢
        simp only [step, stepHead, ClientError.ofErrorPayload, told]
        rfl
      exact failed
  | cons response rest ih =>
    obtain ⟨first, later⟩ := List.forall_mem_cons.mp readable
    obtain ⟨payloads, set, sent, gives, concludes⟩ := concludes_result first sql server
      (statusBefore (withFailure rest failure).length server) known status
    have cut : partPayloads sql server (withFailure (response :: rest) failure) =
        (payloads ++ (partPayloads sql server (withFailure rest failure)).1,
          (partPayloads sql server (withFailure rest failure)).2) := by
      rw [withFailure, List.cons_append, ← withFailure, partPayloads, sent]
    rw [cut]
    by_cases empty : withFailure rest failure = []
    · obtain ⟨rfl, rfl⟩ : rest = [] ∧ failure = none := by
        cases failure <;> simp_all [withFailure]
      have complete : (ofBits server.bits).contains .moreResults = false := by
        rw [contains_moreResults_ofBits, last]
      refine ⟨[set], .cons gives .nil, rfl, ?_⟩
      rw [empty, partPayloads, List.append_nil]
      have ended : finish ⟨known, ofBits server.bits, .head⟩ set =
          (⟨known ++ [set], ofBits server.bits, .head⟩, .complete) := by
        simp only [finish, complete]
        rfl
      exact ended ▸ concludes
    · have more : (ofBits (statusBefore (withFailure rest failure).length server).bits).contains
          .moreResults = true := by
        have following : ((withFailure rest failure).length == 0) = false := by
          simpa using empty
        rw [contains_moreResults_ofBits, statusBefore, following]
        exact contains_union_self server .moreResults
      have unfinished : finish ⟨known, ofBits (statusBefore (withFailure rest failure).length server).bits,
            .head⟩ set =
          (⟨known ++ [set], ofBits (statusBefore (withFailure rest failure).length server).bits,
            .head⟩, .more) := by
        simp only [finish, more, if_true]
      rw [unfinished] at concludes
      obtain ⟨sets, others, sent', concludes'⟩ := ih empty later (known ++ [set])
        (ofBits (statusBefore (withFailure rest failure).length server).bits)
      refine ⟨set :: sets, .cons gives others, sent', ?_⟩
      have whole := concludes'.prepend concludes.reads
      have told : lastStatus server failure
          (ofBits (statusBefore (withFailure rest failure).length server).bits) rest =
          lastStatus server failure status (response :: rest) := by
        cases rest <;> rfl
      rwa [told, List.append_assoc, List.singleton_append] at whole

end Standin.Response

end SqlWire
