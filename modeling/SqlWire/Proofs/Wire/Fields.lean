import Mathlib.Data.List.TakeDrop
import SqlWire.Proofs.Text.Utf8
import SqlWire.Wire.Reader
import SqlWire.Wire.Writer

/-! # Reading fields back

A reading takes a field (`Read.Takes`) if it moves past exactly its bytes, whatever follows them, and
gives what the field means. Readings in sequence take the fields in sequence (`Read.Takes.bind`), so
a message of such fields is read back field by field. A reading that looks at the end of the payload
is treated as the last one (`Read.Ends`).
-/

namespace SqlWire

namespace Read

variable {α β : Type}

/-- Whether a reading moves past the bytes of a field and gives its meaning. -/
def Takes (read : Read α) (field : Bytes) (meaning : α) : Prop :=
  ∀ offset rest, read.run.run ⟨offset, field ++ rest⟩ =
    (.ok meaning, ⟨offset + field.length, rest⟩)

/-- Whether a reading of all that is left gives its meaning. -/
def Ends (read : Read α) (left : Bytes) (meaning : α) : Prop :=
  ∀ offset, (read.run.run ⟨offset, left⟩).1 = .ok meaning

theorem decode_of_ends {read : Read α} {payload : Bytes} {meaning : α}
    (ends : read.Ends payload meaning) : read.decode payload = .ok meaning :=
  ends 0

theorem takes_pure (a : α) : (pure a : Read α).Takes [] a := fun _ _ => rfl

theorem ends_pure (a : α) (left : Bytes) : (pure a : Read α).Ends left a := fun _ => rfl

theorem run_bind_ok {read : Read α} {next : α → Read β} {c c' : Cursor} {a : α}
    (first : read.run.run c = (.ok a, c')) :
    (read >>= next).run.run c = (next a).run.run c' := by
  change (ExceptT.bindCont next (read.run.run c).1).run (read.run.run c).2 = _
  rw [first]
  rfl

theorem run_bind_error {read : Read α} {next : α → Read β} {c c' : Cursor} {cause : ProtocolError}
    (first : read.run.run c = (.error cause, c')) :
    (read >>= next).run.run c = (.error cause, c') := by
  change (ExceptT.bindCont next (read.run.run c).1).run (read.run.run c).2 = _
  rw [first]
  rfl

theorem Takes.bind {read : Read α} {next : α → Read β} {front back : Bytes} {a : α} {b : β}
    (first : read.Takes front a) (later : (next a).Takes back b) :
    (read >>= next).Takes (front ++ back) b := by
  intro offset rest
  rw [List.append_assoc, run_bind_ok (first offset (back ++ rest)), later, List.length_append,
    Nat.add_assoc]

theorem Takes.ends_bind {read : Read α} {next : α → Read β} {front back : Bytes} {a : α} {b : β}
    (first : read.Takes front a) (later : (next a).Ends back b) :
    (read >>= next).Ends (front ++ back) b := by
  intro offset
  rw [run_bind_ok (first offset back), later]

theorem Takes.map {read : Read α} {field : Bytes} {a : α} (first : read.Takes field a) (f : α → β) :
    (read >>= fun x => pure (f x)).Takes field (f a) := by
  intro offset rest
  rw [run_bind_ok (first offset rest)]
  rfl

theorem Ends.map {read : Read α} {left : Bytes} {a : α} (ends : read.Ends left a) (f : α → β) :
    (read >>= fun x => pure (f x)).Ends left (f a) := by
  intro offset
  have whole : read.run.run ⟨offset, left⟩ = (.ok a, (read.run.run ⟨offset, left⟩).2) :=
    Prod.ext (ends offset) rfl
  rw [run_bind_ok whole]
  rfl

theorem Takes.ends {read : Read α} {field : Bytes} {a : α} (takes : read.Takes field a) :
    read.Ends field a := by
  intro offset
  have whole := takes offset []
  rw [List.append_nil] at whole
  rw [whole]

theorem run_get_bind (next : Cursor → Read α) (c : Cursor) :
    ((get : Read Cursor) >>= next).run.run c = (next c).run.run c := rfl

theorem ends_remaining_bind {next : Nat → Read α} {left : Bytes} {a : α}
    (later : (next left.length).Ends left a) : (remaining >>= next).Ends left a := later

theorem ends_isEmpty_bind {next : Bool → Read α} {left : Bytes} {a : α}
    (later : (next left.isEmpty).Ends left a) : (isEmpty >>= next).Ends left a := later

theorem ends_peek_bind {next : Option UInt8 → Read α} {left : Bytes} {a : α}
    (later : (next left.head?).Ends left a) : (peek >>= next).Ends left a := later

theorem ends_rest_bind {next : Bytes → Read α} {left : Bytes} {a : α}
    (later : (next left).Ends [] a) : (rest >>= next).Ends left a := fun _ => later _

theorem ofExcept_ok (a : α) : (ofExcept (.ok a) : Read α) = pure a := rfl

/-! ## Single fields -/

theorem takes_bytes (field : Bytes) : (bytes field.length).Takes field field := by
  intro offset rest
  rw [bytes, run_get_bind]
  simp only [List.splitAt_eq, List.take_left, List.drop_left, Nat.lt_irrefl, if_false]
  rfl

theorem takes_skip (field : Bytes) : (skip field.length).Takes field () := by
  exact (takes_bytes field).map fun _ => ()

theorem takes_byte (b : UInt8) : byte.Takes [b] b := fun _ _ => rfl

theorem takes_expect (b : UInt8) (field : String) : (expect b field).Takes [b] () := by
  intro offset rest
  rw [expect, run_bind_ok (takes_byte b offset rest)]
  simp only [bne_self_eq_false]
  rfl

/-- A payload whose first byte has to be some byte starts with it if it can be read. -/
theorem head?_of_expect {b : UInt8} {field : String} {next : Unit → Read α} {payload : Bytes} {a : α}
    (read : (expect b field >>= next).decode payload = .ok a) : payload.head? = some b := by
  match payload with
  | [] =>
    have failed : (expect b field).run.run (Cursor.start []) = (.error (.unexpectedEnd 1 0), ⟨0, []⟩) :=
      rfl
    rw [decode, run_bind_error failed] at read
    cases read
  | found :: rest =>
    by_cases same : found = b
    · rw [same, List.head?_cons]
    · have first : byte.run.run (Cursor.start (found :: rest)) = (.ok found, ⟨1, rest⟩) := rfl
      have failed : (expect b field).run.run (Cursor.start (found :: rest)) =
          (.error (.unexpectedByte field b found), ⟨1, rest⟩) := by
        rw [expect, run_bind_ok first]
        simp only [bne_iff_ne, ne_eq, same, not_false_eq_true, if_true]
        rfl
      rw [decode, run_bind_error failed] at read
      cases read

/-- An integer that does not fit into its field is read without its higher bytes. -/
theorem takes_fixed_mod (width : Nat) (least : 0 < width) (most : width ≤ 8) (n : Nat) :
    (fixed width).Takes (LittleEndian.bytes width n) (UInt64.ofNat (n % 256 ^ width)) := by
  have legal : (width == 0 || width > 8) = false := by simp; omega
  have field := takes_bytes (LittleEndian.bytes width n)
  rw [LittleEndian.length_bytes] at field
  have whole := field.map fun front => UInt64.ofNat (LittleEndian.value front)
  rw [LittleEndian.value_bytes] at whole
  rw [fixed]
  simp only [legal]
  exact whole

theorem takes_fixed (width : Nat) (least : 0 < width) (most : width ≤ 8) {n : Nat}
    (fits : n < 256 ^ width) :
    (fixed width).Takes (LittleEndian.bytes width n) (UInt64.ofNat n) := by
  have whole := takes_fixed_mod width least most n
  rwa [Nat.mod_eq_of_lt fits] at whole

theorem takes_uint16 (v : UInt16) : uint16.Takes (Write.uint16 v) v := by
  have field := takes_fixed 2 (by decide) (by decide) v.toNat_lt
  have same : (UInt64.ofNat v.toNat).toUInt16 = v := by simp
  have whole := field.map UInt64.toUInt16
  rw [same] at whole
  exact whole

theorem takes_uint32 (v : UInt32) : uint32.Takes (Write.uint32 v) v := by
  have field := takes_fixed 4 (by decide) (by decide) v.toNat_lt
  have same : (UInt64.ofNat v.toNat).toUInt32 = v := by simp
  have whole := field.map UInt64.toUInt32
  rw [same] at whole
  exact whole

/-- The integer behind the lead byte of a length. -/
theorem takes_fixed_some {width : Nat} (least : 0 < width) (most : width ≤ 8) {v : UInt64}
    (fits : v.toNat < 256 ^ width) :
    (fixed width >>= fun n => pure (some n)).Takes (Write.fixed width v) (some v) := by
  have field := (takes_fixed width least most fits).map some
  rw [UInt64.ofNat_toNat] at field
  rw [Write.fixed, Nat.min_eq_left most]
  exact field

theorem takes_lengthOrNull (v : UInt64) : lengthOrNull.Takes (Write.length v) (some v) := by
  rw [Write.length]
  split
  · next small =>
    have small : v.toNat < 0xFB := UInt64.lt_iff_toNat_lt.mp small
    have lead : v.toUInt8.toNat = v.toNat := by
      rw [UInt64.toNat_toUInt8]
      omega
    have least : v.toUInt8 ≤ 0xFA := by
      rw [UInt8.le_iff_toNat_le, lead]
      exact Nat.le_of_lt_succ small
    have same : v.toUInt8.toUInt64 = v := by
      rw [← UInt64.toNat_inj, UInt8.toNat_toUInt64, lead]
    rw [lengthOrNull, ← List.append_nil [v.toUInt8]]
    refine (takes_byte v.toUInt8).bind ?_
    rw [if_pos least, same]
    exact takes_pure (some v)
  · split
    · next two =>
      have fits : v.toNat < 256 ^ 2 := Nat.lt_succ_of_le (UInt64.le_iff_toNat_le.mp two)
      exact (takes_byte 0xFC).bind (takes_fixed_some (by decide) (by decide) fits)
    · split
      · next three =>
        have fits : v.toNat < 256 ^ 3 := Nat.lt_succ_of_le (UInt64.le_iff_toNat_le.mp three)
        exact (takes_byte 0xFD).bind (takes_fixed_some (by decide) (by decide) fits)
      · exact (takes_byte 0xFE).bind (takes_fixed_some (by decide) (by decide) v.toNat_lt)

theorem takes_lengthOrNull_null : lengthOrNull.Takes Write.null none := fun _ _ => rfl

theorem takes_length (v : UInt64) : length.Takes (Write.length v) v := by
  rw [← List.append_nil (Write.length v)]
  exact (takes_lengthOrNull v).bind (takes_pure v)

theorem toNat_length {field : Bytes} (storable : field.length < 2 ^ 64) :
    (UInt64.ofNat field.length).toNat = field.length := by
  rw [UInt64.toNat_ofNat']
  exact Nat.mod_eq_of_lt storable

theorem takes_lengthBytes {field : Bytes} (storable : field.length < 2 ^ 64) :
    lengthBytes.Takes (Write.lengthBytes field) field := by
  refine (takes_length _).bind ?_
  rw [toNat_length storable]
  exact takes_bytes field

theorem takes_lengthBytesOrNull {field : Bytes} (storable : field.length < 2 ^ 64) :
    lengthBytesOrNull.Takes (Write.lengthBytes field) (some field) := by
  refine (takes_lengthOrNull _).bind ?_
  simp only [toNat_length storable]
  exact (takes_bytes field).map some

theorem takes_lengthBytesOrNull_null : lengthBytesOrNull.Takes Write.null none := fun _ _ => rfl

theorem takes_text (context : String) (content : String) :
    (text context (Utf8.encode content)).Takes [] content := by
  rw [text, Utf8.decode?_encode]
  exact takes_pure content

theorem takes_lengthText {content : String} (storable : (Utf8.encode content).length < 2 ^ 64) :
    lengthText.Takes (Write.lengthBytes (Utf8.encode content)) content := by
  rw [← List.append_nil (Write.lengthBytes _)]
  exact (takes_lengthBytes storable).bind (takes_text _ content)

theorem takes_terminatedBytes {field : Bytes} (whole : 0 ∉ field) :
    terminatedBytes.Takes (Write.terminated field) field := by
  intro offset rest
  have cut : (field ++ 0 :: rest).span (· != 0) = (field, 0 :: rest) := by
    have kept : ∀ b ∈ field, (b != 0) = true := by
      intro b inside
      simp only [bne_iff_ne]
      rintro rfl
      exact whole inside
    rw [List.span_eq_takeWhile_dropWhile, List.takeWhile_append_of_pos kept,
      List.dropWhile_append_of_pos kept]
    simp
  rw [terminatedBytes, run_get_bind, Write.terminated]
  simp only [List.append_assoc, List.singleton_append, cut, List.length_append]
  rfl

theorem takes_terminatedText {content : String} (whole : 0 ∉ Utf8.encode content) :
    terminatedText.Takes (Write.terminated (Utf8.encode content)) content := by
  rw [← List.append_nil (Write.terminated _)]
  exact (takes_terminatedBytes whole).bind (takes_text _ content)

end Read

/-- How a length begins: not like NULL or an error, like zero only if it is zero, and like a
terminator only if eight bytes follow. -/
theorem Write.length_eq_cons (v : UInt64) :
    ∃ lead more, Write.length v = lead :: more ∧ lead ≠ 0xFB ∧ lead ≠ 0xFF ∧
      (lead = 0x00 → v = 0) ∧ (lead = 0xFE → more.length = 8) := by
  rw [Write.length]
  split
  · next small =>
    have small : v.toNat < 0xFB := UInt64.lt_iff_toNat_lt.mp small
    have lead : v.toUInt8.toNat = v.toNat := by
      rw [UInt64.toNat_toUInt8]
      omega
    have other {b : UInt8} (large : 0xFB ≤ b.toNat) : v.toUInt8 ≠ b := by
      intro same
      rw [← same, lead] at large
      omega
    refine ⟨_, [], rfl, other (by decide), other (by decide), ?_, fun same => (other (by decide) same).elim⟩
    intro zero
    rw [zero] at lead
    exact UInt64.toNat_inj.mp lead.symm
  · have lead : (0xFC : UInt8) ≠ 0x00 ∧ (0xFD : UInt8) ≠ 0x00 ∧ (0xFE : UInt8) ≠ 0x00 := by decide
    have short : (0xFC : UInt8) ≠ 0xFE ∧ (0xFD : UInt8) ≠ 0xFE := by decide
    split
    · exact ⟨_, _, rfl, by decide, by decide, (absurd · lead.1), (absurd · short.1)⟩
    · split
      · exact ⟨_, _, rfl, by decide, by decide, (absurd · lead.2.1), (absurd · short.2)⟩
      · exact ⟨_, _, rfl, by decide, by decide, (absurd · lead.2.2), fun _ => rfl⟩

end SqlWire
