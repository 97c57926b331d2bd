import Mathlib.Data.List.Induction
import SqlWire.Proofs.Message.WholeReply
import SqlWire.Proofs.Result.Reading

/-! # Replies that a stand-in sends

For one statement a stand-in sends all its prepared answers, also those behind an error. An error ends a
reply, so that what is sent is one reply more than there are errors before the last answer
(`Prepared.exists_replies`). A client that reads one reply for each statement is left with the others
(`Converses.exists_unread`): it stays in step with the stand-in exactly if no statement has an error
before its last answer (`inStep_iff`).
-/

namespace SqlWire

namespace Standin

/-- Whether a table can be sent: it has a column, and each row has one cell for each. The number of
columns and the lengths of texts are such as fit a counter of 64 bits. -/
structure IsSendable (columns : List Column) (rows : List (List Scalar)) : Prop where
  nonempty : 0 < columns.length
  few : columns.length < 2 ^ 64
  filled : ∀ row ∈ rows, row.length = columns.length
  names : ∀ column ∈ columns, Storable (Utf8.encode column.name)
  texts : ∀ row ∈ rows, ∀ scalar ∈ row, ∀ text ∈ scalar.cell, Storable text

namespace Response

/-- Whether an answer says that a statement has failed. -/
def isError : Response → Bool
  | error _ => true
  | _ => false

/-- Whether an answer is one that can stand among several: it succeeds, fails, or is a table that can
be sent. -/
def IsPart : Response → Prop
  | ok _ _ => True
  | error _ => True
  | scalar value => IsSendable [valueColumn value] [[value]]
  | table columns rows => IsSendable columns rows
  | _ => False

/-- The status at the end of an answer that is sent with some status. -/
def ending (response : Response) (told : Status) : Option Status :=
  if response.isError then none else some (.ofBits told.bits)

theorem isResult_table {columns : List Column} {rows : List (List Scalar)}
    (sendable : IsSendable columns rows) (server told : Status) :
    Reply.IsResult (tablePayloads server columns rows told) (some (.ofBits told.bits)) := by
  have shape : tablePayloads server columns rows told = encodeColumnCount columns.length ::
      (columns.map (fun column => column.definition.encode) ++
        eofPayload server :: (rows.map (fun row => RawRow.encode (row.map Scalar.cell)) ++
          [eofPayload told])) := by
    simp [tablePayloads]
  have head : Reply.IsColumnCount (encodeColumnCount columns.length) columns.length := by
    obtain ⟨header, rest, whole, ok, error, file⟩ :=
      encodeColumnCount_eq_cons sendable.nonempty sendable.few
    have counts : Read.length.decode (encodeColumnCount columns.length) =
        .ok (UInt64.ofNat columns.length) :=
      Read.decode_of_ends (Read.takes_length _).ends
    exact ⟨sendable.nonempty, by simpa [whole] using ok, by simpa [whole] using error,
      by simpa [whole] using file, _, counts, toNat_columnCount sendable.few⟩
  have definitions : ∀ payload ∈ columns.map fun column => column.definition.encode,
      ∃ definition, ColumnDefinition.decode payload = .ok definition := by
    intro payload member
    obtain ⟨column, listed, rfl⟩ := List.mem_map.mp member
    exact ⟨_, ColumnDefinition.decode_encode AnswerReader.storable_empty AnswerReader.storable_empty
      AnswerReader.storable_empty (sendable.names column listed) AnswerReader.storable_empty⟩
  have cells : ∀ payload ∈ rows.map fun row => RawRow.encode (row.map Scalar.cell),
      Reply.isRow payload = true ∧
        ∃ cells, RawRow.decode columns.length payload = .ok cells := by
    intro payload member
    obtain ⟨row, listed, rfl⟩ := List.mem_map.mp member
    have length : (row.map Scalar.cell).length = columns.length := by
      rw [List.length_map, sendable.filled row listed]
    have filled : row.map Scalar.cell ≠ [] := by
      rw [← List.length_pos_iff, length]
      exact sendable.nonempty
    obtain ⟨noEnd, noError⟩ := RawRow.isEof_isError_encode filled
    refine ⟨by simp [Reply.isRow, noEnd, noError], row.map Scalar.cell, ?_⟩
    rw [← length]
    exact RawRow.decode_encode (by simpa using sendable.texts row listed)
  have last : Reply.EndsRows (eofPayload told) (some (.ofBits told.bits)) :=
    .eof (EofReply.isEof_encode _) (EofReply.decode_encode _)
  rw [shape]
  exact .table head (List.length_map _) definitions (EofReply.isEof_encode _)
    (EofReply.decode_encode _) cells last

/-- An answer among several is sent as one result. -/
theorem IsPart.isResult {response : Response} (part : response.IsPart) (sql : String)
    (server told : Status) : ∃ payloads, response.singlePayloads? sql server told = some payloads ∧
      Reply.IsResult payloads (response.ending told) := by
  cases response with
  | ok affectedRows lastInsertId => exact ⟨_, rfl, .ok rfl (OkReply.decode_encode _)⟩
  | error reply => exact ⟨_, rfl, .error rfl reply.decode_encode_stateField⟩
  | scalar value => exact ⟨_, rfl, isResult_table part server told⟩
  | table columns rows => exact ⟨_, rfl, isResult_table part server told⟩
  | _ => exact part.elim

/-- The number of errors before the last answer. -/
def earlyErrors (parts : List Response) : Nat := parts.dropLast.countP isError

theorem earlyErrors_eq_zero_iff {parts : List Response} :
    earlyErrors parts = 0 ↔ ∀ part ∈ parts.dropLast, part.isError = false := by
  simp [earlyErrors, List.countP_eq_zero]

/-- Answers in turn are whole replies in turn: each error but the last answer begins another one. -/
theorem exists_replies {parts : List Response} (nonempty : parts ≠ [])
    (each : ∀ part ∈ parts, part.IsPart) (sql : String) {server : Status}
    (last : server.contains .moreResults = false) :
    ∃ replies : List (List Bytes), partPayloads sql server parts = (replies.flatten, true) ∧
      (∀ reply ∈ replies, Reply.IsWhole reply) ∧ replies.length = earlyErrors parts + 1 := by
  induction parts with
  | nil => exact (nonempty rfl).elim
  | cons part rest ih =>
    obtain ⟨first, later⟩ := List.forall_mem_cons.mp each
    obtain ⟨payloads, sent, result⟩ := first.isResult sql server (statusBefore rest.length server)
    cases rest with
    | nil =>
      have payloads_eq : partPayloads sql server [part] = ([payloads].flatten, true) := by
        rw [partPayloads, sent]
        rfl
      refine ⟨[payloads], payloads_eq, List.forall_mem_singleton.mpr (.last result ?_), rfl⟩
      intro status told
      obtain ⟨-, told⟩ := Option.ite_none_left_eq_some.mp told
      rw [← Option.some_inj.mp told, Status.contains_moreResults_ofBits]
      exact last
    | cons next rest =>
      obtain ⟨replies, others, whole, count⟩ := ih (List.cons_ne_nil _ _) later
      have payloads_eq : partPayloads sql server (part :: next :: rest) =
          (payloads ++ replies.flatten, true) := by
        rw [partPayloads, sent, others]
      cases failed : part.isError with
      | true =>
        refine ⟨payloads :: replies, payloads_eq, List.forall_mem_cons.mpr ⟨?_, whole⟩, ?_⟩
        · refine .last result ?_
          intro status told
          rw [ending, failed] at told
          cases told
        · rw [List.length_cons, count]
          simp [earlyErrors, failed]
      | false =>
        obtain ⟨reply, replies, rfl⟩ : ∃ reply others, replies = reply :: others := by
          apply List.exists_cons_of_length_pos
          omega
        obtain ⟨first_whole, others_whole⟩ := List.forall_mem_cons.mp whole
        refine ⟨(payloads ++ reply) :: replies, ?_, List.forall_mem_cons.mpr ⟨?_, others_whole⟩, ?_⟩
        · rw [payloads_eq, List.flatten_cons, List.flatten_cons, List.append_assoc]
        · rw [ending, failed] at result
          refine .more result ?_ first_whole
          rw [Status.contains_moreResults_ofBits]
          exact Status.contains_union_self server .moreResults
        · rw [List.length_cons] at count ⊢
          rw [count]
          simp [earlyErrors, failed]

end Response

/-- A statement with the answers that are prepared for it. -/
structure Prepared where
  sql : String
  parts : List Response
  nonempty : parts ≠ []
  sendable : ∀ part ∈ parts, part.IsPart

namespace Prepared

open Response

/-- What is sent for a statement, and whether all of it is. -/
def sent (server : Status) (prepared : Prepared) : List Bytes × Bool :=
  (multiple prepared.parts).payloads prepared.sql server

/-- Whether no answer but the last one is an error. -/
def FailsLast (prepared : Prepared) : Prop :=
  ∀ part ∈ prepared.parts.dropLast, part.isError = false

theorem exists_replies (prepared : Prepared) {server : Status}
    (last : server.contains .moreResults = false) :
    ∃ replies : List (List Bytes), prepared.sent server = (replies.flatten, true) ∧
      (∀ reply ∈ replies, Reply.IsWhole reply) ∧
      replies.length = earlyErrors prepared.parts + 1 :=
  Response.exists_replies prepared.nonempty prepared.sendable prepared.sql last

/-- What is sent is one reply exactly if no error stands before the last answer. -/
theorem isWhole_sent_iff (prepared : Prepared) {server : Status}
    (last : server.contains .moreResults = false) :
    Reply.IsWhole (prepared.sent server).1 ↔ prepared.FailsLast := by
  obtain ⟨replies, same, whole, count⟩ := prepared.exists_replies last
  rw [same, Reply.isWhole_flatten_iff whole, count, FailsLast, ← earlyErrors_eq_zero_iff]
  omega

end Prepared

/-- A client that asks for statements in turn and reads one reply after each: the replies that it has
read, and what has been sent and not been read. -/
inductive Converses (server : Status) : List Prepared → List (List Bytes) → List Bytes → Prop
  | start : Converses server [] [] []
  | ask {asked read unread reply left} (prepared : Prepared) : Converses server asked read unread →
      Reply.IsWhole reply → unread ++ (prepared.sent server).1 = reply ++ left →
      Converses server (asked ++ [prepared]) (read ++ [reply]) left

namespace Converses

open Response

variable {server : Status} {asked : List Prepared} {read : List (List Bytes)} {unread : List Bytes}

/-- The number of replies that are sent for statements beyond one for each. -/
def surplus (asked : List Prepared) : Nat :=
  (asked.flatMap fun prepared => prepared.parts.dropLast).countP isError

theorem surplus_append_singleton (asked : List Prepared) (prepared : Prepared) :
    surplus (asked ++ [prepared]) = surplus asked + earlyErrors prepared.parts := by
  rw [surplus, List.flatMap_append, List.countP_append, List.flatMap_singleton]
  rfl

theorem surplus_eq_zero_iff : surplus asked = 0 ↔ ∀ prepared ∈ asked, prepared.FailsLast := by
  simp only [surplus, List.countP_eq_zero, List.mem_flatMap, forall_exists_index, and_imp,
    Bool.not_eq_true, Prepared.FailsLast]
  exact ⟨fun none prepared member part => none part prepared member,
    fun none part prepared member => none prepared member part⟩

/-- A client can read a reply to its next statement, whatever it has not read yet. -/
theorem exists_reply (prepared : Prepared) (last : server.contains .moreResults = false)
    {waiting : List (List Bytes)} (whole : ∀ reply ∈ waiting, Reply.IsWhole reply) :
    ∃ (reply : List Bytes) (others : List (List Bytes)),
      waiting.flatten ++ (prepared.sent server).1 = reply ++ others.flatten ∧
        Reply.IsWhole reply ∧ (∀ other ∈ others, Reply.IsWhole other) ∧
        others.length = waiting.length + earlyErrors prepared.parts := by
  obtain ⟨replies, same, new, count⟩ := prepared.exists_replies last
  obtain ⟨reply, others, all⟩ : ∃ reply others, waiting ++ replies = reply :: others := by
    apply List.exists_cons_of_length_pos
    rw [List.length_append]
    omega
  have each : ∀ reply ∈ waiting ++ replies, Reply.IsWhole reply :=
    List.forall_mem_append.mpr ⟨whole, new⟩
  have lengths := congrArg List.length all
  rw [all] at each
  obtain ⟨first, later⟩ := List.forall_mem_cons.mp each
  refine ⟨reply, others, ?_, first, later, ?_⟩
  · rw [same, ← List.flatten_append, all, List.flatten_cons]
  · rw [List.length_append, List.length_cons] at lengths
    omega

/-- What a client has not read are the replies that are sent beyond one for each statement. -/
theorem exists_unread (last : server.contains .moreResults = false)
    (converses : Converses server asked read unread) :
    ∃ waiting : List (List Bytes), unread = waiting.flatten ∧
      (∀ reply ∈ waiting, Reply.IsWhole reply) ∧ waiting.length = surplus asked := by
  induction converses with
  | start => exact ⟨[], rfl, nofun, rfl⟩
  | ask prepared _ whole same ih =>
    obtain ⟨waiting, rfl, each, count⟩ := ih
    obtain ⟨reply, others, new, first, later, length⟩ := exists_reply prepared last each
    rw [new] at same
    obtain rfl := first.eq_of_append whole same
    refine ⟨others, (List.append_cancel_left same).symm, later, ?_⟩
    rw [length, count, surplus_append_singleton]

/-- A client can ask for any statements and read one reply after each. -/
theorem exists_converses (last : server.contains .moreResults = false) (asked : List Prepared) :
    ∃ read unread, Converses server asked read unread := by
  induction asked using List.reverseRecOn with
  | nil => exact ⟨[], [], .start⟩
  | append_singleton asked prepared ih =>
    obtain ⟨read, unread, converses⟩ := ih
    obtain ⟨waiting, rfl, each, -⟩ := converses.exists_unread last
    obtain ⟨reply, others, new, first, -⟩ := exists_reply prepared last each
    exact ⟨_, _, .ask prepared converses first new⟩

/-- Where each statement is answered by one reply, a client reads all that is sent for it. -/
theorem eq_sent (last : server.contains .moreResults = false)
    (converses : Converses server asked read unread)
    (each : ∀ prepared ∈ asked, prepared.FailsLast) :
    read = asked.map (fun prepared => (prepared.sent server).1) ∧ unread = [] := by
  induction converses with
  | start => exact ⟨rfl, rfl⟩
  | ask prepared _ whole same ih =>
    obtain ⟨earlier, here⟩ := List.forall_mem_append.mp each
    obtain ⟨rfl, rfl⟩ := ih earlier
    have one := (prepared.isWhole_sent_iff last).mpr (here prepared (List.mem_singleton_self _))
    rw [List.nil_append, ← List.append_nil (prepared.sent server).1] at same
    obtain rfl := one.eq_of_append whole same
    exact ⟨by rw [List.map_append, List.map_singleton], (List.append_cancel_left same).symm⟩

end Converses

/-- A stand-in sends all that is prepared for a statement, and it is one reply exactly if no error stands
before the last answer. A client that reads one reply for each statement stays in step with it, whatever
it asks, exactly if that is so for each statement. -/
theorem inStep_iff {server : Status} (last : server.contains .moreResults = false)
    (asked : List Prepared) :
    (∀ prepared ∈ asked, (prepared.sent server).2 = true ∧
      (Reply.IsWhole (prepared.sent server).1 ↔ prepared.FailsLast)) ∧
    (∃ read unread, Converses server asked read unread) ∧
    ∀ read unread, Converses server asked read unread →
      ((read = asked.map (fun prepared => (prepared.sent server).1) ∧ unread = []) ↔
        ∀ prepared ∈ asked, prepared.FailsLast) := by
  refine ⟨?_, Converses.exists_converses last asked, ?_⟩
  · intro prepared _
    obtain ⟨replies, same, -⟩ := prepared.exists_replies last
    exact ⟨by rw [same], prepared.isWhole_sent_iff last⟩
  · intro read unread converses
    refine ⟨?_, converses.eq_sent last⟩
    rintro ⟨-, rfl⟩
    obtain ⟨waiting, empty, each, count⟩ := converses.exists_unread last
    rw [Reply.eq_nil_of_flatten each empty.symm] at count
    exact Converses.surplus_eq_zero_iff.mp count.symm

/-- An update and a selection, each of which succeeds. -/
def Prepared.succeeding : Prepared where
  sql := "UPDATE a SET x = 1; SELECT 2"
  parts := [.ok 3 0, .scalar (.int 2)]
  nonempty := List.cons_ne_nil _ _
  sendable := by
    simp only [List.forall_mem_cons]
    refine ⟨trivial, ⟨by decide, by decide, by decide, ?_, ?_⟩, List.forall_mem_nil _⟩
    · rw [List.forall_mem_singleton, Storable]
      decide
    · simp only [List.forall_mem_singleton]
      intro text cell
      cases cell
      rw [Storable]
      decide +kernel

theorem inStep_succeeding : Status.autocommit.contains .moreResults = false ∧
    ∃ read, Converses .autocommit [.succeeding, .succeeding] read [] ∧
      read = [(Prepared.succeeding.sent .autocommit).1, (Prepared.succeeding.sent .autocommit).1] := by
  have last : Status.autocommit.contains .moreResults = false := by decide
  obtain ⟨-, ⟨read, unread, converses⟩, inStep⟩ := inStep_iff last [.succeeding, .succeeding]
  have fails : ∀ prepared ∈ [Prepared.succeeding, .succeeding], prepared.FailsLast := by
    intro prepared member
    obtain rfl : prepared = .succeeding := by simpa using member
    rw [Prepared.FailsLast]
    decide
  obtain ⟨same, rfl⟩ := (inStep read unread converses).mpr fails
  exact ⟨last, read, converses, same⟩

/-- Two statements in one text, of which the first fails and the second succeeds. -/
def Prepared.failingFirst : Prepared where
  sql := "a;b"
  parts := [.error ⟨1064, "HY000", "near a"⟩, .ok 1 0]
  nonempty := List.cons_ne_nil _ _
  sendable := by
    simp only [List.forall_mem_cons]
    exact ⟨trivial, trivial, List.forall_mem_nil _⟩

/-- Behind an error the answer to the second statement is sent all the same, and stays unread. -/
theorem outOfStep_failingFirst : Status.autocommit.contains .moreResults = false ∧
    ¬ Reply.IsWhole (Prepared.failingFirst.sent .autocommit).1 ∧
    Converses .autocommit [.failingFirst] [[ErrorReply.encode ⟨1064, "HY000", "near a"⟩]]
      [Response.okPayload 1 0 .autocommit] := by
  have last : Status.autocommit.contains .moreResults = false := by decide
  have failed := ErrorReply.decode_encode_stateField ⟨1064, "HY000", "near a"⟩
  refine ⟨last, ?_, .ask .failingFirst .start (.last (.error rfl failed) nofun) rfl⟩
  rw [Prepared.isWhole_sent_iff _ last, Prepared.FailsLast]
  decide

end Standin

end SqlWire
