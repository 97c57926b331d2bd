import SqlWire.Framing.Assembler
import SqlWire.Framing.Sequencer

/-! # Packets on a stream

What goes over a stream is one packet behind the other, numbered from some number on and from 255 to
0. Of such a stream any first part has come in when a packet is looked for. `Packet.split?_of_prefix`
says what is found then: the first packet if all of it is there, and nothing otherwise.
-/

namespace SqlWire

namespace Packet

/-- The bytes of packets with some bodies, which are numbered from one number on. -/
def stream (next : UInt8) : List Bytes → Bytes
  | [] => []
  | body :: rest => encode ⟨next, body⟩ ++ stream (next + 1) rest

/-- The number after one packet and some others. -/
theorem number_succ (next : UInt8) (count : Nat) :
    next + 1 + UInt8.ofNat count = next + UInt8.ofNat (count + 1) := by
  rw [Nat.add_comm, UInt8.ofNat_add, ← UInt8.add_assoc]
  rfl

theorem stream_append (next : UInt8) (xs ys : List Bytes) :
    stream next (xs ++ ys) = stream next xs ++ stream (next + UInt8.ofNat xs.length) ys := by
  induction xs generalizing next with
  | nil => simp [stream]
  | cons body rest ih =>
    simp only [List.cons_append, stream, ih, List.append_assoc, List.length_cons, number_succ]

/-- A packet is its header of four bytes and its body. -/
theorem encode_eq {p : Packet} (fits : p.body.length ≤ maxBody) :
    ∃ a b c, p.encode = a :: b :: c :: p.sequence :: p.body ∧
      LittleEndian.value [a, b, c] = p.body.length := by
  have small : p.body.length < 256 ^ 3 := by
    simp only [maxBody] at fits
    omega
  have word : (UInt32.ofNat p.body.length).toNat = p.body.length := by
    rw [UInt32.toNat_ofNat']
    exact Nat.mod_eq_of_lt (by omega)
  have value := LittleEndian.value_bytes 3 p.body.length
  rw [Nat.mod_eq_of_lt small] at value
  refine ⟨_, _, _, ?_, value⟩
  simp only [encode, PacketHeader.encode, word, LittleEndian.bytes, List.cons_append, List.nil_append]

theorem length_encode {p : Packet} (fits : p.body.length ≤ maxBody) : p.encode.length = p.size := by
  obtain ⟨a, b, c, bytes, _⟩ := encode_eq fits
  rw [bytes]
  simp only [List.length_cons, size, headerSize]
  omega

theorem stream_cons_ne_nil (next : UInt8) (body : Bytes) (rest : List Bytes) :
    stream next (body :: rest) ≠ [] := by
  simp [stream, encode, PacketHeader.encode]

/-- A packet at the front of bytes is found. -/
theorem split?_encode {p : Packet} (fits : p.body.length ≤ maxBody) (rest : Bytes) :
    split? (p.encode ++ rest) = some (p, rest) := by
  obtain ⟨a, b, c, bytes, value⟩ := encode_eq fits
  rw [bytes]
  simp [split?, value]

/-- Bytes that a packet starts with, but not all of it, hold no packet. -/
theorem split?_of_short {p : Packet} (fits : p.body.length ≤ maxBody) {inbox future rest : Bytes}
    (carried : inbox ++ future = p.encode ++ rest) (short : inbox.length < p.size) :
    split? inbox = none := by
  obtain ⟨a, b, c, bytes, value⟩ := encode_eq fits
  rw [bytes] at carried
  match inbox with
  | [] | [_] | [_, _] | [_, _, _] => rfl
  | x :: y :: z :: sequence :: body =>
    simp only [List.cons_append, List.cons.injEq] at carried
    obtain ⟨rfl, rfl, rfl, -, -⟩ := carried
    have less : body.length < p.body.length := by
      simp only [List.length_cons, size, headerSize] at short
      omega
    simp only [split?, value, List.splitAt_eq, List.length_take]
    rw [if_pos (by omega)]

/-- In the first bytes of a stream the first packet is found if all of it is there. -/
theorem split?_of_prefix {p : Packet} (fits : p.body.length ≤ maxBody) {inbox future rest : Bytes}
    (carried : inbox ++ future = p.encode ++ rest) :
    (split? inbox = none ∧ future ≠ []) ∨
      ∃ others, split? inbox = some (p, others) ∧ others ++ future = rest := by
  have length := length_encode fits
  by_cases short : inbox.length < p.size
  · refine .inl ⟨split?_of_short fits carried short, ?_⟩
    rintro rfl
    have count := congrArg List.length carried
    simp only [List.length_append, List.length_nil] at count
    omega
  · obtain ⟨others, rfl, same⟩ : ∃ others, inbox = p.encode ++ others ∧ others ++ future = rest := by
      obtain ⟨missing, whole, same⟩ | ⟨others, whole, same⟩ := List.append_eq_append_iff.mp carried
      · have none : missing = [] := by
          rw [← List.length_eq_zero_iff]
          have count := congrArg List.length whole
          rw [List.length_append] at count
          omega
        exact ⟨[], by simp [whole, none], by simp [same, none]⟩
      · exact ⟨others, whole, same.symm⟩
    exact .inr ⟨others, split?_encode fits others, same⟩

end Packet

/-- A payload goes out in one body if it is shorter than the greatest, and otherwise in a greatest
one and those of the rest. -/
theorem splitPayload_cases (payload : Bytes) :
    (payload.length < maxBody ∧ splitPayload payload = [payload]) ∨
      ∃ front rest, payload = front ++ rest ∧ front.length = maxBody ∧
        splitPayload payload = front :: splitPayload rest := by
  by_cases short : payload.length < maxBody
  · refine .inl ⟨short, ?_⟩
    rw [splitPayload, dif_pos short]
  · refine .inr ⟨payload.take maxBody, payload.drop maxBody, (List.take_append_drop ..).symm, ?_, ?_⟩
    · rw [List.length_take]
      omega
    · have unfolded := splitPayload.eq_def payload
      rwa [dif_neg short, List.splitAt_eq] at unfolded

theorem splitPayload_ne_nil (payload : Bytes) : splitPayload payload ≠ [] := by
  obtain ⟨_, bodies⟩ | ⟨_, _, _, _, bodies⟩ := splitPayload_cases payload <;> simp [bodies]

/-- A payload is never without bytes on the wire. -/
theorem Packet.stream_splitPayload_ne_nil (next : UInt8) (payload : Bytes) (others : List Bytes) :
    stream next (splitPayload payload ++ others) ≠ [] := by
  obtain ⟨body, rest, bodies⟩ := List.exists_cons_of_ne_nil (splitPayload_ne_nil payload)
  rw [bodies]
  exact stream_cons_ne_nil _ _ _

/-- No body of a payload is longer than the greatest. -/
theorem length_le_of_mem_splitPayload {payload body : Bytes} (member : body ∈ splitPayload payload) :
    body.length ≤ maxBody := by
  fun_induction splitPayload payload with
  | case1 payload short =>
    obtain rfl := List.mem_singleton.mp member
    omega
  | case2 payload long parts ih =>
    rcases List.mem_cons.mp member with rfl | member
    · have front : parts.1 = payload.take maxBody := by simp [parts]
      rw [front]
      exact List.length_take_le ..
    · exact ih member

end SqlWire
