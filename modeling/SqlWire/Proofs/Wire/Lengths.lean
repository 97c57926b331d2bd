import SqlWire.Proofs.Wire.Passing

/-! # Forms of a length

A length can stand in any form that has room for it (`Read.IsLength`). The first byte tells how many
bytes there are, so that no form begins another one (`IsLength.eq_of_append`) and a form that is cut off
is nothing (`IsLength.cut`). What is written is the one shortest form (`IsLength.eq_or_longer`).
-/

namespace SqlWire

namespace Read

variable {α : Type}

/-- The first byte of a length of more than one byte, and the number of bytes behind it. -/
def leads : List (UInt8 × Nat) := [(0xFC, 2), (0xFD, 3), (0xFE, 8)]

/-- Whether bytes are a length. -/
inductive IsLength : Bytes → UInt64 → Prop
  | byte {lead : UInt8} (small : lead ≤ 0xFA) : IsLength [lead] lead.toUInt64
  | wide {lead : UInt8} {field : Bytes} (form : (lead, field.length) ∈ leads) :
      IsLength (lead :: field) (UInt64.ofNat (LittleEndian.value field))

theorem lead_of_mem {lead : UInt8} {width : Nat} (form : (lead, width) ∈ leads) :
    0xFC ≤ lead ∧ lead ≠ 0xFF ∧ 0 < width ∧ width ≤ 8 := by
  simp only [leads, List.mem_cons, List.not_mem_nil, or_false, Prod.mk.injEq] at form
  obtain ⟨rfl, rfl⟩ | ⟨rfl, rfl⟩ | ⟨rfl, rfl⟩ := form <;> decide

namespace IsLength

variable {field front back : Bytes} {v w : UInt64}

/-- The first byte of a length is not that of NULL or of an error. -/
theorem exists_lead (form : IsLength field v) :
    ∃ lead more, field = lead :: more ∧ lead ≠ 0xFB ∧ lead ≠ 0xFF := by
  cases form with
  | @byte lead small =>
    refine ⟨lead, [], rfl, ?_, ?_⟩ <;> rintro rfl <;> exact absurd small (by decide)
  | @wide lead more wide =>
    obtain ⟨least, other, -⟩ := lead_of_mem wide
    refine ⟨lead, more, rfl, ?_, other⟩
    rintro rfl
    exact absurd least (by decide)

/-- No length begins another one. -/
theorem eq_of_append {other x y : Bytes} (form : IsLength field v) (form' : IsLength other w)
    (same : field ++ x = other ++ y) : field = other := by
  have apart {lead : UInt8} {width : Nat} (small : lead ≤ 0xFA) (wide : (lead, width) ∈ leads) :
      False := by
    have least := (lead_of_mem wide).1
    rw [UInt8.le_iff_toNat_le] at small least
    exact absurd (Nat.le_trans least small) (by decide)
  cases form with
  | byte small =>
    cases form' with
    | byte => rw [(List.cons.inj same).1]
    | wide wide =>
      rw [← (List.cons.inj same).1] at wide
      exact (apart small wide).elim
  | @wide lead more wide =>
    cases form' with
    | byte small =>
      rw [← (List.cons.inj same).1] at small
      exact (apart small wide).elim
    | @wide lead' more' wide' =>
      obtain ⟨rfl, behind⟩ := List.cons.inj same
      have long : more.length = more'.length := by
        simp only [leads, List.mem_cons, List.not_mem_nil, or_false, Prod.mk.injEq] at wide wide'
        obtain ⟨rfl, long⟩ | ⟨rfl, long⟩ | ⟨rfl, long⟩ := wide <;> simp_all
      rw [(List.append_inj behind long).1]

end IsLength

/-! ## What is written -/

theorem toNat_value {field : Bytes} (most : field.length ≤ 8) :
    (UInt64.ofNat (LittleEndian.value field)).toNat = LittleEndian.value field := by
  rw [UInt64.toNat_ofNat']
  have room : 256 ^ field.length ≤ 2 ^ 64 := Nat.pow_le_pow_right (by decide) most
  exact Nat.mod_eq_of_lt (Nat.lt_of_lt_of_le (LittleEndian.value_lt field) room)

/-- An integer is written as it was read. -/
theorem fixed_value {field : Bytes} (most : field.length ≤ 8) :
    Write.fixed field.length (UInt64.ofNat (LittleEndian.value field)) = field := by
  rw [Write.fixed, Nat.min_eq_left most, toNat_value most, LittleEndian.bytes_value]

/-- A number is written in any form that has room for it, unless a shorter one has. -/
theorem written_or_shorter {lead : UInt8} {width : Nat} (form : (lead, width) ∈ leads) {v : UInt64}
    (fits : v.toNat < 256 ^ width) :
    Write.length v = lead :: Write.fixed width v ∨ Write.lengthSize v < width + 1 := by
  simp only [leads, List.mem_cons, List.not_mem_nil, or_false, Prod.mk.injEq] at form
  unfold Write.length Write.lengthSize
  obtain ⟨rfl, rfl⟩ | ⟨rfl, rfl⟩ | ⟨rfl, rfl⟩ := form
  · have two : v ≤ 0xFFFF := UInt64.le_iff_toNat_le.mpr (Nat.le_of_lt_succ fits)
    rw [if_pos two, if_pos two]
    split <;> simp
  · have three : v ≤ 0xFFFFFF := UInt64.le_iff_toNat_le.mpr (Nat.le_of_lt_succ fits)
    rw [if_pos three, if_pos three]
    split
    · simp
    · split <;> simp
  · split
    · simp
    · split
      · simp
      · split <;> simp

/-- A length is the written one, or it is longer. -/
theorem IsLength.eq_or_longer {field : Bytes} {v : UInt64} (form : IsLength field v) :
    field = Write.length v ∨ Write.lengthSize v < field.length := by
  cases form with
  | @byte lead small =>
    left
    have below : lead.toUInt64 < 0xFB := by
      rw [UInt64.lt_iff_toNat_lt, UInt8.toNat_toUInt64]
      exact Nat.lt_succ_of_le (UInt8.le_iff_toNat_le.mp small)
    rw [Write.length, if_pos below, UInt8.toUInt8_toUInt64]
  | @wide lead more wide =>
    have most := (lead_of_mem wide).2.2.2
    have fits : (UInt64.ofNat (LittleEndian.value more)).toNat < 256 ^ more.length := by
      rw [toNat_value most]
      exact LittleEndian.value_lt more
    refine (written_or_shorter wide fits).imp ?_ id
    intro same
    rw [same, fixed_value most]

theorem IsLength.lengthSize_le {field : Bytes} {v : UInt64} (form : IsLength field v) :
    Write.lengthSize v ≤ field.length := by
  rcases form.eq_or_longer with rfl | longer
  · rw [Write.length_length]
  · exact longer.le

/-! ## What is read -/

/-- What is behind the cursor when a length cannot be read: not more than its first byte. -/
def Begun (field : Bytes) (cause : ProtocolError) : Prop :=
  field.length ≤ 1 ∧ cause.IsShort ∨
    ∃ lead, field = [lead] ∧ (lead = 0xFB ∨ lead = 0xFF) ∧ cause = .invalidLengthPrefix lead

theorem begun_of_unmoved {field : Bytes} {cause : ProtocolError} (unmoved : Unmoved field cause) :
    Begun field cause := by
  obtain ⟨rfl, short⟩ := unmoved
  exact .inl ⟨Nat.zero_le 1, short⟩

/-- A length is read in any form, and one byte for NULL. -/
theorem passes_lengthOrNull :
    lengthOrNull.Passes (fun field v? => v?.elim (field = [0xFB]) (IsLength field)) Begun := by
  have behind {lead : UInt8} {width : Nat} (form : (lead, width) ∈ leads) :
      (fixed width >>= fun v => pure (some v)).Passes
        (fun field v? => v?.elim ([lead] ++ field = [0xFB]) (IsLength ([lead] ++ field)))
        fun field cause => Begun ([lead] ++ field) cause := by
    obtain ⟨-, -, least, most⟩ := lead_of_mem form
    refine ((passes_fixed least most).map some ?_).imp (fun _ _ => id) ?_
    · rintro field v ⟨full, rfl⟩
      exact .wide (full ▸ form)
    · rintro _ cause ⟨rfl, short⟩
      exact .inl ⟨Nat.le_refl 1, short⟩
  refine passes_byte.bind (fun _ _ => begun_of_unmoved) ?_
  rintro _ lead rfl
  split
  · next small => exact passes_pure _ (.byte small)
  · split
    · next null => exact passes_pure _ (by simpa using null)
    · split
      · next two =>
        rw [beq_iff_eq.mp two]
        exact behind (by decide)
      · split
        · next three =>
          rw [beq_iff_eq.mp three]
          exact behind (by decide)
        · split
          · next eight =>
            rw [beq_iff_eq.mp eight]
            exact behind (by decide)
          · refine passes_throw _ (.inr ⟨lead, rfl, .inr ?_, rfl⟩)
            simp only [UInt8.le_iff_toNat_le, beq_iff_eq, ← UInt8.toNat_inj, UInt8.toNat_ofNat] at *
            have most := lead.toNat_lt
            omega

theorem passes_length : length.Passes IsLength Begun := by
  refine passes_lengthOrNull.bind (fun _ _ => id) ?_
  intro field v? read
  cases v? with
  | none =>
    obtain rfl : field = [0xFB] := read
    exact passes_throw _ (.inr ⟨0xFB, rfl, .inl rfl, rfl⟩)
  | some v => exact passes_pure v (by rwa [List.append_nil])

/-- A length is read in the form in which it stands. -/
theorem IsLength.takes {field : Bytes} {v : UInt64} (form : IsLength field v) :
    lengthOrNull.Takes field (some v) := by
  cases form with
  | @byte lead small =>
    rw [lengthOrNull, ← List.append_nil [lead]]
    refine (takes_byte lead).bind ?_
    rw [if_pos small]
    exact takes_pure _
  | @wide lead more wide =>
    obtain ⟨-, -, least, most⟩ := lead_of_mem wide
    have behind := (takes_fixed more.length least most (LittleEndian.value_lt more)).map some
    rw [LittleEndian.bytes_value] at behind
    simp only [leads, List.mem_cons, List.not_mem_nil, or_false, Prod.mk.injEq] at wide
    obtain ⟨rfl, long⟩ | ⟨rfl, long⟩ | ⟨rfl, long⟩ := wide <;> rw [long] at behind
    · exact (takes_byte 0xFC).bind behind
    · exact (takes_byte 0xFD).bind behind
    · exact (takes_byte 0xFE).bind behind

/-- A length that is cut off is found to be too short. -/
theorem IsLength.cut {front back : Bytes} {v : UInt64} (form : IsLength (front ++ back) v)
    (some : back ≠ []) (offset : Nat) : ∃ cause c, cause.IsShort ∧
      lengthOrNull.run.run ⟨offset, front⟩ = (.error cause, c) := by
  obtain ⟨lead, more, starts, notNull, notError⟩ := form.exists_lead
  obtain ⟨field, rest, parts, ⟨v?, ok, given⟩ | ⟨cause, failed, left⟩⟩ :=
    passes_lengthOrNull ⟨offset, front⟩
  · obtain rfl : front = field ++ rest := parts
    cases v? with
    | none =>
      obtain rfl : field = [0xFB] := given
      exact (notNull (List.cons.inj starts).1.symm).elim
    | some w =>
      have whole := form.eq_of_append given (x := []) (y := rest ++ back) (by simp)
      simp [some] at whole
  · refine ⟨cause, _, ?_, failed⟩
    obtain rfl : front = field ++ rest := parts
    obtain ⟨-, short⟩ | ⟨first, rfl, invalid, -⟩ := left
    · exact short
    · obtain rfl : first = lead := (List.cons.inj starts).1
      exact (invalid.elim notNull notError).elim

/-- Whether bytes are what a reading needs at least to give something: it takes them, whatever follows
them, all else for which it gives the same is longer, and it finds a part of them to be too short. -/
structure IsShortest (read : Read α) (field : Bytes) (a : α) : Prop where
  takes (offset : Nat) (behind : Bytes) :
    read.run.run ⟨offset, field ++ behind⟩ = (.ok a, ⟨offset + field.length, behind⟩)
  shortest (c c' : Cursor) : read.run.run c = (.ok a, c') →
    ∃ other, c.rest = other ++ c'.rest ∧ (other = field ∨ field.length < other.length)
  cut (front back : Bytes) : field = front ++ back → back ≠ [] →
    ∃ needed remaining, read.decode front = .error (.unexpectedEnd needed remaining)

theorem isLength_written (v : UInt64) : IsLength (Write.length v) v := by
  have taken := takes_length v 0 []
  obtain ⟨field, back, parts, ⟨w, ok, form⟩ | ⟨cause, failed, -⟩⟩ :=
    passes_length ⟨0, Write.length v ++ []⟩
  · have same := ok.symm.trans taken
    obtain rfl : w = v := Except.ok.inj (congrArg Prod.fst same)
    obtain rfl : back = [] := congrArg (·.2.rest) same
    rwa [List.append_cancel_right parts]
  · rw [failed] at taken
    cases congrArg Prod.fst taken

/-- A reading that gives a number for its forms only, and that fails where no length can be read, needs
what is written for the number. -/
theorem isShortest_written {read : Read α} {Given : Bytes → α → Prop}
    {Left : Bytes → ProtocolError → Prop} {v : UInt64} {a : α} (passes : read.Passes Given Left)
    (forms : ∀ field, Given field a → IsLength field v) (takes : read.Takes (Write.length v) a)
    (stops : ∀ c cause c', lengthOrNull.run.run c = (.error cause, c') →
      read.run.run c = (.error cause, c')) : read.IsShortest (Write.length v) a where
  takes := takes
  shortest := by
    intro c c' ok
    obtain ⟨field, back, parts, ⟨b, ok', given⟩ | ⟨cause, failed, -⟩⟩ := passes c
    · rw [ok] at ok'
      cases ok'
      rw [Write.length_length]
      exact ⟨field, parts, (forms field given).eq_or_longer⟩
    · rw [ok] at failed
      cases failed
  cut := by
    intro front back parts some
    have whole := isLength_written v
    rw [parts] at whole
    obtain ⟨_, c, ⟨needed, remaining, rfl⟩, failed⟩ := whole.cut some 0
    exact ⟨needed, remaining, congrArg Prod.fst (stops _ _ _ failed)⟩

/-- What is written for a length has the size that is told for it and does not begin like NULL or an
error. It is the one shortest of all bytes that are read as this length, by the reading that knows NULL
and by the other one, and neither reading takes a part of it for a length. -/
theorem length_shortest (v : UInt64) :
    (Write.length v).length = Write.lengthSize v ∧
      (∃ lead more, Write.length v = lead :: more ∧ lead ≠ 0xFB ∧ lead ≠ 0xFF) ∧
      length.IsShortest (Write.length v) v ∧ lengthOrNull.IsShortest (Write.length v) (some v) :=
  ⟨Write.length_length v, (isLength_written v).exists_lead,
    isShortest_written passes_length (fun _ form => form) (takes_length v)
      fun _ _ _ failed => run_bind_error failed,
    isShortest_written passes_lengthOrNull (fun _ form => form) (takes_lengthOrNull v)
      fun _ _ _ failed => failed⟩

/-- The number 250 is written in one byte; in the longer forms it is read as well. -/
example : Write.length 250 = [0xFA] ∧ length.decode [0xFD, 0xFA, 0x00, 0x00] = .ok 250 := by decide

end Read

end SqlWire
