import SqlWire.Proofs.Wire.Lengths

/-! # Fields that were read

`Read.Takes` says of a field that a reading gives its meaning. This is the other direction: whatever a
reading gives, it has moved past a field with that meaning (`Read.TakesOnly`), and it would give the same
for that field with anything else behind it. A reading of several fields takes only their sequences
(`Read.TakesOnly.bind`), so that what is known of the bytes of single fields adds up to what is known of a
message.
-/

namespace SqlWire

namespace Read

variable {α β : Type}

/-- What has been read in two steps has been read in each of them. -/
theorem run_bind_eq_ok {read : Read α} {next : α → Read β} {c c' : Cursor} {b : β}
    (both : (read >>= next).run.run c = (.ok b, c')) :
    ∃ a mid, read.run.run c = (.ok a, mid) ∧ (next a).run.run mid = (.ok b, c') := by
  cases first : read.run.run c with
  | mk outcome mid =>
    cases outcome with
    | error cause =>
      rw [run_bind_error first] at both
      cases both
    | ok a =>
      rw [run_bind_ok first] at both
      exact ⟨a, mid, rfl, both⟩

/-- Whether a reading gives a meaning only for fields that have it, and for those with anything behind
them. -/
def TakesOnly (read : Read α) (IsField : Bytes → α → Prop) : Prop :=
  ∀ c c' a, read.run.run c = (.ok a, c') →
    ∃ field, c.rest = field ++ c'.rest ∧ IsField field a ∧ read.Takes field a

theorem TakesOnly.imp {read : Read α} {P Q : Bytes → α → Prop} (only : read.TakesOnly P)
    (weaker : ∀ field a, P field a → Q field a) : read.TakesOnly Q := by
  intro c c' a ok
  obtain ⟨field, whole, holds, takes⟩ := only c c' a ok
  exact ⟨field, whole, weaker field a holds, takes⟩

theorem takesOnly_pure (a : α) : (pure a : Read α).TakesOnly fun field b => field = [] ∧ b = a := by
  rintro c c' b ok
  cases ok
  exact ⟨[], rfl, ⟨rfl, rfl⟩, takes_pure a⟩

/-- Two readings in sequence take only two fields in sequence. -/
theorem TakesOnly.bind {read : Read α} {next : α → Read β} {P : Bytes → α → Prop}
    {Q : α → Bytes → β → Prop} (first : read.TakesOnly P)
    (later : ∀ a, (next a).TakesOnly (Q a)) :
    (read >>= next).TakesOnly fun field b =>
      ∃ front a back, field = front ++ back ∧ P front a ∧ Q a back b := by
  intro c c' b both
  obtain ⟨a, mid, one, two⟩ := run_bind_eq_ok both
  obtain ⟨front, here, known, takesFront⟩ := first c mid a one
  obtain ⟨back, there, more, takesBack⟩ := later a mid c' b two
  refine ⟨front ++ back, ?_, ⟨front, a, back, rfl, known, more⟩, takesFront.bind takesBack⟩
  rw [here, there, List.append_assoc]

theorem TakesOnly.map {read : Read α} {P : Bytes → α → Prop} (only : read.TakesOnly P) (f : α → β) :
    (read >>= fun a => pure (f a)).TakesOnly fun field b => ∃ a, P field a ∧ b = f a := by
  refine (only.bind fun a => takesOnly_pure (f a)).imp ?_
  rintro field b ⟨front, a, back, rfl, known, rfl, rfl⟩
  exact ⟨a, by rwa [List.append_nil], rfl⟩

/-! ## Single fields -/

theorem takesOnly_bytes (count : Nat) :
    (bytes count).TakesOnly fun field found => field = found ∧ field.length = count := by
  rintro ⟨offset, rest⟩ c' found ok
  rw [bytes, run_get_bind] at ok
  simp only [List.splitAt_eq] at ok
  split at ok
  · cases congrArg Prod.fst ok
  · next enough =>
    cases ok
    have full : (rest.take count).length = count := by
      have most := List.length_take_le count rest
      omega
    have takes := takes_bytes (rest.take count)
    rw [full] at takes
    exact ⟨rest.take count, (List.take_append_drop count rest).symm, ⟨rfl, full⟩, takes⟩

/-- A length is read from any of its forms, and NULL from one byte. -/
theorem takesOnly_lengthOrNull :
    lengthOrNull.TakesOnly fun field v? => v?.elim (field = [0xFB]) (IsLength field) := by
  intro c c' v? ok
  obtain ⟨field, back, parts, ⟨w?, ok', form⟩ | ⟨cause, failed, -⟩⟩ := passes_lengthOrNull c
  · rw [ok] at ok'
    cases ok'
    refine ⟨field, parts, form, ?_⟩
    cases v? with
    | none =>
      obtain rfl : field = [0xFB] := form
      exact takes_lengthOrNull_null
    | some v => exact form.takes
  · rw [ok] at failed
    cases failed

/-- A byte string is behind a length that is no shorter than what is written for it. -/
theorem takesOnly_lengthBytesOrNull :
    lengthBytesOrNull.TakesOnly fun field text? => 0 < field.length ∧
      ∀ text ∈ text?, text.length < 2 ^ 64 ∧ (Write.lengthBytes text).length ≤ field.length := by
  refine (takesOnly_lengthOrNull.bind
    (Q := fun v? field text? => ∀ text ∈ text?, field = text ∧
      ∃ v, v? = some v ∧ text.length = v.toNat) ?_).imp ?_
  · intro v?
    cases v? with
    | none =>
      refine (takesOnly_pure none).imp ?_
      rintro field text? ⟨rfl, rfl⟩ text same
      cases same
    | some v =>
      refine ((takesOnly_bytes v.toNat).map some).imp ?_
      rintro field text? ⟨text, ⟨rfl, full⟩, rfl⟩ found same
      obtain rfl := Option.some.inj same
      exact ⟨rfl, v, rfl, full⟩
  · rintro field text? ⟨front, v?, back, rfl, form, texts⟩
    have filled : 0 < front.length := by
      cases v? with
      | none =>
        obtain rfl : front = [0xFB] := form
        exact Nat.one_pos
      | some v =>
        obtain ⟨lead, more, rfl, -⟩ := IsLength.exists_lead form
        exact Nat.succ_pos more.length
    refine ⟨by rw [List.length_append]; omega, ?_⟩
    intro text found
    obtain ⟨rfl, v, rfl, full⟩ := texts text found
    have same : UInt64.ofNat back.length = v := by rw [full, UInt64.ofNat_toNat]
    have size := IsLength.lengthSize_le form
    refine ⟨full ▸ v.toNat_lt, ?_⟩
    rw [Write.lengthBytes, List.length_append, List.length_append, Write.length_length, same]
    omega

end Read

end SqlWire
