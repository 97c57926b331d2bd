import Mathlib.Data.List.TakeWhile
import SqlWire.Proofs.Wire.Fields

/-! # What a reading passes over

A reading goes forward whether it succeeds or not, and the bytes that it has gone past say what became of
it (`Read.Passes`). For a reading of several fields they are those of the readings up to the one that
failed (`Read.Passes.bind`). A single field is passed over as a whole or not at all, except that a byte
which has to be some other one is behind the cursor when it is found to differ.
-/

namespace SqlWire

/-- Whether an error is that a payload ends before a field does. -/
def ProtocolError.IsShort (cause : ProtocolError) : Prop :=
  ∃ needed remaining, cause = .unexpectedEnd needed remaining

namespace Read

variable {α β : Type}

/-- Whether a reading passes over some bytes from wherever it starts, which are `Given` for what it
gives or `Left` behind the cursor with its error. -/
def Passes (read : Read α) (Given : Bytes → α → Prop) (Left : Bytes → ProtocolError → Prop) : Prop :=
  ∀ c, ∃ field back, c.rest = field ++ back ∧
    ((∃ a, read.run.run c = (.ok a, ⟨c.offset + field.length, back⟩) ∧ Given field a) ∨
      ∃ cause, read.run.run c = (.error cause, ⟨c.offset + field.length, back⟩) ∧ Left field cause)

/-- Whether a reading that fails for want of bytes has passed over none. -/
def Unmoved (field : Bytes) (cause : ProtocolError) : Prop := field = [] ∧ cause.IsShort

variable {read : Read α} {Given Given' : Bytes → α → Prop} {Left Left' : Bytes → ProtocolError → Prop}

theorem Passes.imp (passes : read.Passes Given Left) (given : ∀ field a, Given field a → Given' field a)
    (left : ∀ field cause, Left field cause → Left' field cause) : read.Passes Given' Left' := by
  intro c
  obtain ⟨field, back, parts, ⟨a, ok, holds⟩ | ⟨cause, failed, holds⟩⟩ := passes c
  · exact ⟨field, back, parts, .inl ⟨a, ok, given field a holds⟩⟩
  · exact ⟨field, back, parts, .inr ⟨cause, failed, left field cause holds⟩⟩

theorem passes_pure (a : α) (holds : Given [] a) : (pure a : Read α).Passes Given Left :=
  fun c => ⟨[], c.rest, rfl, .inl ⟨a, rfl, holds⟩⟩

theorem passes_throw (cause : ProtocolError) (holds : Left [] cause) :
    (throw cause : Read α).Passes Given Left :=
  fun c => ⟨[], c.rest, rfl, .inr ⟨cause, rfl, holds⟩⟩

/-- Of two readings in sequence the second one starts behind what the first one has given. -/
theorem Passes.bind {next : α → Read β} {Both : Bytes → β → Prop} (first : read.Passes Given Left)
    (stops : ∀ field cause, Left field cause → Left' field cause)
    (later : ∀ front a, Given front a → (next a).Passes (fun back b => Both (front ++ back) b)
      fun back cause => Left' (front ++ back) cause) : (read >>= next).Passes Both Left' := by
  intro c
  obtain ⟨front, rest, parts, ⟨a, ok, given⟩ | ⟨cause, failed, left⟩⟩ := first c
  · obtain ⟨field, back, behind, outcome⟩ := later front a given ⟨c.offset + front.length, rest⟩
    rw [← run_bind_ok ok, Nat.add_assoc, ← List.length_append] at outcome
    exact ⟨front ++ field, back, by rw [parts, List.append_assoc, ← behind], outcome⟩
  · exact ⟨front, rest, parts, .inr ⟨cause, run_bind_error failed, stops front cause left⟩⟩

theorem Passes.map {Both : Bytes → β → Prop} (passes : read.Passes Given Left) (f : α → β)
    (given : ∀ field a, Given field a → Both field (f a)) :
    (read >>= fun a => pure (f a)).Passes Both Left := by
  refine passes.bind (fun _ _ => id) fun front a holds => passes_pure _ ?_
  rw [List.append_nil]
  exact given front a holds

/-! ## Single fields -/

theorem passes_byte : byte.Passes (fun field b => field = [b]) Unmoved := by
  rintro ⟨offset, rest⟩
  cases rest with
  | nil => exact ⟨[], [], rfl, .inr ⟨_, rfl, rfl, 1, 0, rfl⟩⟩
  | cons b rest => exact ⟨[b], rest, rfl, .inl ⟨b, rfl, rfl⟩⟩

theorem run_bytes (count : Nat) (c : Cursor) :
    (bytes count).run.run c =
      if c.rest.length < count then (.error (.unexpectedEnd count c.rest.length), c)
      else (.ok (c.rest.take count), ⟨c.offset + count, c.rest.drop count⟩) := by
  rw [bytes, run_get_bind]
  simp only [List.splitAt_eq, List.length_take]
  split
  · next few =>
    rw [if_pos (by omega), Nat.min_eq_right (by omega)]
    rfl
  · next enough =>
    rw [if_neg (by omega)]
    rfl

theorem passes_bytes (count : Nat) :
    (bytes count).Passes (fun field found => field = found ∧ found.length = count) Unmoved := by
  intro c
  have run := run_bytes count c
  split at run
  · exact ⟨[], c.rest, rfl, .inr ⟨_, run, rfl, _, _, rfl⟩⟩
  · next enough =>
    have full : (c.rest.take count).length = count := by rw [List.length_take]; omega
    refine ⟨c.rest.take count, c.rest.drop count, (List.take_append_drop count c.rest).symm,
      .inl ⟨_, ?_, rfl, full⟩⟩
    rw [full]
    exact run

theorem passes_skip (count : Nat) :
    (skip count).Passes (fun field _ => field.length = count) Unmoved :=
  (passes_bytes count).map (fun _ => ()) (by rintro field _ ⟨rfl, full⟩; exact full)

theorem passes_expect (expected : UInt8) (name : String) :
    (expect expected name).Passes (fun field _ => field = [expected]) fun field cause =>
      Unmoved field cause ∨ ∃ found, found ≠ expected ∧ field = [found] ∧
        cause = .unexpectedByte name expected found := by
  refine passes_byte.bind (fun _ _ => .inl) ?_
  rintro _ found rfl
  by_cases same : found = expected
  · rw [if_neg (by simp [same])]
    exact passes_pure () (by rw [same, List.append_nil])
  · rw [if_pos (by simpa using same)]
    exact passes_throw _ (.inr ⟨found, same, rfl, rfl⟩)

theorem passes_fixed {width : Nat} (least : 0 < width) (most : width ≤ 8) :
    (fixed width).Passes (fun field v => field.length = width ∧
      v = UInt64.ofNat (LittleEndian.value field)) Unmoved := by
  have legal : (width == 0 || width > 8) = false := by simp; omega
  rw [fixed]
  simp only [legal]
  refine (passes_bytes width).map _ ?_
  rintro field _ ⟨rfl, full⟩
  exact ⟨full, rfl⟩

theorem passes_terminatedBytes :
    terminatedBytes.Passes (fun field content => field = content ++ [0] ∧ 0 ∉ content)
      fun field cause => field = [] ∧ cause = .missingTerminator := by
  rintro ⟨offset, rest⟩
  have parts := List.takeWhile_append_dropWhile (p := (· != 0)) (l := rest)
  have whole : 0 ∉ rest.takeWhile (· != 0) := by
    intro inside
    simpa using List.mem_takeWhile_imp inside
  cases ends : rest.dropWhile (· != 0) with
  | nil =>
    refine ⟨[], rest, rfl, .inr ⟨.missingTerminator, ?_, rfl, rfl⟩⟩
    rw [terminatedBytes, run_get_bind]
    simp only [List.span_eq_takeWhile_dropWhile, ends]
    rfl
  | cons b back =>
    obtain rfl : b = 0 := by
      have last := List.head?_dropWhile_not (· != 0) rest
      simpa [ends] using last
    rw [ends] at parts
    refine ⟨rest.takeWhile (· != 0) ++ [0], back, ?_, .inl ⟨_, ?_, rfl, whole⟩⟩
    · rw [List.append_assoc, List.singleton_append, parts]
    · have taken := takes_terminatedBytes whole offset back
      rwa [Write.terminated, List.append_assoc, List.singleton_append, parts] at taken

theorem passes_rest : rest.Passes (fun field found => field = found) Left :=
  fun c => ⟨c.rest, [], (List.append_nil _).symm, .inl ⟨_, rfl, rfl⟩⟩

end Read

end SqlWire
