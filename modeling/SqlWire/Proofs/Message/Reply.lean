import SqlWire.Message.Reply
import SqlWire.Proofs.Wire.Fields

/-! # Replies read back

A reply that a server writes is what a client reads, up to flags without a name. The first byte and
the length tell the kinds of replies apart.
-/

namespace SqlWire

open Read

namespace OkReply

/-- A reply with the flags that have a name. -/
def named (r : OkReply) : OkReply := { r with status := .ofBits r.status.bits }

theorem decode_encode (r : OkReply) : decode r.encode = .ok r.named := by
  apply decode_of_ends
  rw [encode, read]
  simp only [List.append_assoc, List.cons_append]
  refine (takes_byte Reply.okHeader).ends_bind ?_
  rw [if_neg (by decide)]
  refine (takes_length r.affectedRows).ends_bind ?_
  refine (takes_length r.lastInsertId).ends_bind ?_
  refine (takes_uint16 r.status.bits).ends_bind ?_
  refine (takes_uint16 r.warnings).ends_bind (ends_rest_bind ?_)
  rw [Utf8.decodeLossy_encode]
  exact ends_pure _ _

end OkReply

namespace EofReply

/-- A reply with the flags that have a name. -/
def named (r : EofReply) : EofReply := { r with status := .ofBits r.status.bits }

theorem decode_encode (r : EofReply) : decode r.encode = .ok r.named := by
  apply decode_of_ends
  rw [encode, read]
  simp only [List.cons_append]
  refine (takes_expect Reply.eofHeader _).ends_bind (ends_remaining_bind ?_)
  rw [if_neg (by simp [Write.uint16])]
  refine (takes_uint16 r.warnings).ends_bind ?_
  exact ((takes_uint16 r.status.bits).map _).ends

theorem isEof_encode (r : EofReply) : Reply.isEof r.encode = true := by
  simp [Reply.isEof, encode, Write.uint16, LittleEndian.bytes]

end EofReply

namespace ErrorReply

theorem length_stateField (state : String) : (stateField state).length = 5 := by
  simp only [stateField, List.length_append, List.length_take, List.length_replicate]
  omega

/-- A class of failure of five bytes is written as it is. -/
theorem stateField_eq {state : String} (length : (Utf8.encode state).length = 5) :
    stateField state = Utf8.encode state := by
  rw [stateField, List.take_of_length_le (by omega), length]
  exact List.append_nil _

/-- A class of failure is read back as it was cut or filled up. -/
theorem decode_encode_stateField (r : ErrorReply) :
    decode r.encode = .ok { r with state := Utf8.decodeLossy (stateField r.state) } := by
  apply decode_of_ends
  rw [encode, read]
  simp only [List.cons_append, List.append_assoc]
  refine (takes_expect Reply.errorHeader _).ends_bind ?_
  refine (takes_uint16 r.code).ends_bind (ends_peek_bind ?_)
  rw [List.head?_cons, beq_self_eq_true, if_pos rfl]
  refine (takes_skip [stateMark]).ends_bind ?_
  have state := takes_bytes (stateField r.state)
  rw [length_stateField] at state
  refine state.ends_bind ?_
  rw [pure_bind]
  refine ends_rest_bind ?_
  rw [Utf8.decodeLossy_encode]
  exact ends_pure _ _

theorem decode_encode {r : ErrorReply} (length : (Utf8.encode r.state).length = 5) :
    decode r.encode = .ok r := by
  rw [decode_encode_stateField, stateField_eq length, Utf8.decodeLossy_encode]

end ErrorReply

end SqlWire
