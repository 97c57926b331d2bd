import SqlWire.Proofs.Text.Utf8
import SqlWire.Proofs.Wire.Lengths

/-! # What is behind the cursor after each step

The operations of a reader follow one another on one payload, and one that fails stops none of those
behind it. What an operation passes over is a field of its kind if it succeeds
(`ReadOperation.IsField`), and for each way of failing it is known how much of the field is behind the
cursor then (`ReadOperation.Leaves`): of the data behind a length, all or nothing. Both come from one
statement for each operation (`ReadOperation.passes`), which holds wherever the cursor stands.
-/

namespace SqlWire

namespace Read

/-- Whether a field is some data behind their length. -/
def IsCounted (field data : Bytes) : Prop :=
  ∃ lead n, IsLength lead n ∧ n.toNat = data.length ∧ field = lead ++ data

/-- What is behind the cursor when data cannot be read behind their length: none of the data. -/
def BegunCounted (field : Bytes) (cause : ProtocolError) : Prop :=
  Begun field cause ∨ cause.IsShort ∧ ∃ n, IsLength field n

theorem passes_bytes_behind {lead : Bytes} {n : UInt64} (form : IsLength lead n) :
    (bytes n.toNat).Passes (fun field data => IsCounted (lead ++ field) data)
      fun field cause => BegunCounted (lead ++ field) cause := by
  refine (passes_bytes n.toNat).imp ?_ ?_
  · rintro field _ ⟨rfl, full⟩
    exact ⟨lead, n, form, full.symm, rfl⟩
  · rintro _ cause ⟨rfl, short⟩
    rw [List.append_nil]
    exact .inr ⟨short, n, form⟩

theorem passes_lengthBytes : lengthBytes.Passes IsCounted BegunCounted :=
  passes_length.bind (fun _ _ => .inl) fun _ _ form => passes_bytes_behind form

theorem passes_lengthBytesOrNull :
    lengthBytesOrNull.Passes (fun field data? => ∀ data ∈ data?, IsCounted field data)
      BegunCounted := by
  refine passes_lengthOrNull.bind (fun _ _ => .inl) ?_
  intro lead n? form
  cases n? with
  | none => exact passes_pure none nofun
  | some n =>
    refine (passes_bytes_behind form).map some ?_
    rintro field data counted _ ⟨⟩
    exact counted

theorem passes_text (name : String) (data : Bytes) :
    (text name data).Passes (fun field content => field = [] ∧ Utf8.encode content = data)
      fun field cause => field = [] ∧ cause = .invalidUtf8 name ∧ Utf8.decode? data = none := by
  cases read : Utf8.decode? data with
  | none =>
    rw [text, read]
    exact passes_throw _ ⟨rfl, rfl, rfl⟩
  | some content =>
    rw [text, read]
    exact passes_pure content ⟨rfl, Utf8.encode_of_decode? read⟩

end Read

/-- The operations of a reader. -/
inductive ReadOperation where
  | remaining
  | isEmpty
  | peek
  | skip (count : Nat)
  | byte
  | expect (expected : UInt8) (field : String)
  | fixed (width : Nat)
  | uint16
  | uint24
  | uint32
  | uint64
  | length
  | lengthOrNull
  | bytes (count : Nat)
  | lengthBytes
  | lengthBytesOrNull
  | lengthText
  | terminatedBytes
  | terminatedText
  | rest
deriving Repr, DecidableEq

/-- What an operation gives. -/
inductive ReadValue where
  | done
  | null
  | flag (value : Bool)
  | count (value : Nat)
  | ahead (value : Option UInt8)
  | number (value : UInt64)
  | byte (value : UInt8)
  | bytes (value : Bytes)
  | text (value : String)
deriving Repr, DecidableEq

/-- The bytes of a payload that are given as they are or as a text. -/
def ReadValue.data? : ReadValue → Option Bytes
  | byte value => some [value]
  | bytes value => some value
  | text value => some (Utf8.encode value)
  | _ => none

namespace ReadOperation

def read : ReadOperation → Read ReadValue
  | remaining => do return .count (← Read.remaining)
  | isEmpty => do return .flag (← Read.isEmpty)
  | peek => do return .ahead (← Read.peek)
  | skip count => do let _ ← Read.skip count; return .done
  | byte => do return .byte (← Read.byte)
  | expect expected field => do let _ ← Read.expect expected field; return .done
  | fixed width => do return .number (← Read.fixed width)
  | uint16 => do return .number (← Read.uint16).toUInt64
  | uint24 => do return .number (← Read.uint24).toUInt64
  | uint32 => do return .number (← Read.uint32).toUInt64
  | uint64 => do return .number (← Read.uint64)
  | length => do return .number (← Read.length)
  | lengthOrNull => do return (← Read.lengthOrNull).elim .null .number
  | bytes count => do return .bytes (← Read.bytes count)
  | lengthBytes => do return .bytes (← Read.lengthBytes)
  | lengthBytesOrNull => do return (← Read.lengthBytesOrNull).elim .null .bytes
  | lengthText => do return .text (← Read.lengthText)
  | terminatedBytes => do return .bytes (← Read.terminatedBytes)
  | terminatedText => do return .text (← Read.terminatedText)
  | rest => do return .bytes (← Read.rest)

/-- Whether an operation reads all of its bytes at once. -/
def isWhole : ReadOperation → Bool
  | skip _ | byte | fixed _ | uint16 | uint24 | uint32 | uint64 | bytes _ => true
  | _ => false

def isCounted : ReadOperation → Bool
  | lengthBytes | lengthBytesOrNull | lengthText => true
  | _ => false

/-- Whether an operation begins with a length. -/
def startsWithLength : ReadOperation → Bool
  | length | lengthOrNull => true
  | operation => operation.isCounted

/-- Whether a field is what an operation passes over to give some data. -/
def IsField : ReadOperation → Bytes → Bytes → Prop
  | bytes count, field, data => field = data ∧ data.length = count
  | lengthBytes, field, data | lengthBytesOrNull, field, data | lengthText, field, data =>
    Read.IsCounted field data
  | terminatedBytes, field, data | terminatedText, field, data => field = data ++ [0] ∧ 0 ∉ data
  | _, field, data => field = data

/-- What is behind the cursor when an operation has failed. -/
inductive Leaves : ReadOperation → Bytes → ProtocolError → Prop
  /-- Nothing: there are too few bytes, they are not asked for in a way that can be read, or nothing
  ends them. -/
  | nothing {operation cause} : (cause.IsShort ∨ (∃ width, cause = .invalidIntegerWidth width) ∨
      cause = .missingTerminator) → Leaves operation [] cause
  /-- A byte that is another one than expected. -/
  | other {expected field found} : found ≠ expected →
      Leaves (.expect expected field) [found] (.unexpectedByte field expected found)
  /-- The first byte of a length that goes on or that is none. -/
  | lead {operation first cause} : operation.startsWithLength = true →
      (cause.IsShort ∨ cause = .invalidLengthPrefix first) → Leaves operation [first] cause
  /-- The length of data that are not all there. -/
  | length {operation field n cause} : operation.isCounted = true → Read.IsLength field n →
      cause.IsShort → Leaves operation field cause
  /-- All of a text that is not UTF-8. -/
  | illFormed {operation field data name} : operation = .lengthText ∨ operation = .terminatedText →
      operation.IsField field data → Utf8.decode? data = none →
      Leaves operation field (.invalidUtf8 name)

namespace Leaves

variable {operation : ReadOperation} {field : Bytes} {cause : ProtocolError}

theorem of_unmoved (unmoved : Read.Unmoved field cause) : operation.Leaves field cause := by
  obtain ⟨rfl, short⟩ := unmoved
  exact .nothing (.inl short)

theorem of_begun (starts : operation.startsWithLength = true) (begun : Read.Begun field cause) :
    operation.Leaves field cause := by
  obtain ⟨few, short⟩ | ⟨first, rfl, -, rfl⟩ := begun
  · match field with
    | [] => exact .nothing (.inl short)
    | [first] => exact .lead starts (.inl short)
  · exact .lead starts (.inr rfl)

theorem of_begunCounted (counted : operation.isCounted = true)
    (begun : Read.BegunCounted field cause) : operation.Leaves field cause := by
  obtain begun | ⟨short, n, form⟩ := begun
  · refine of_begun ?_ begun
    cases operation <;> first | rfl | cases counted
  · exact .length counted form short

/-- Nothing is behind the cursor where bytes are read at once or the end is missing. -/
theorem eq_nil (leaves : operation.Leaves field cause)
    (whole : operation.isWhole = true ∨ cause = .missingTerminator) : field = [] := by
  cases leaves with
  | nothing => rfl
  | other => simp [isWhole] at whole
  | lead starts why =>
    obtain whole | rfl := whole
    · cases operation <;> simp_all [isWhole, startsWithLength, isCounted]
    · simp [ProtocolError.IsShort] at why
  | length counted _ short =>
    obtain ⟨_, _, rfl⟩ := short
    cases operation <;> simp_all [isWhole, isCounted]
  | illFormed isText => obtain rfl | rfl := isText <;> simp [isWhole] at whole

/-- One byte is behind the cursor when it is another one than expected. -/
theorem length_eq_one {name : String} {expected found : UInt8}
    (leaves : operation.Leaves field (.unexpectedByte name expected found)) : field.length = 1 := by
  cases leaves with
  | nothing why => simp [ProtocolError.IsShort] at why
  | other => rfl
  | lead => rfl
  | length _ _ short => simp [ProtocolError.IsShort] at short

/-- Of a length and the data behind it there is nothing behind the cursor, or the first byte of the
length, or the length, or all where the data are no text. -/
theorem begun (leaves : operation.Leaves field cause) (starts : operation.startsWithLength = true) :
    field = [] ∨ (∃ first, field = [first]) ∨
      (operation.isCounted = true ∧ ∃ n, Read.IsLength field n) ∨
      operation = .lengthText ∧ (∃ name, cause = .invalidUtf8 name) ∧
        ∃ data, Read.IsCounted field data ∧ Utf8.decode? data = none := by
  cases leaves with
  | nothing => exact .inl rfl
  | other => cases starts
  | @lead first => exact .inr (.inl ⟨_, rfl⟩)
  | length counted form => exact .inr (.inr (.inl ⟨counted, _, form⟩))
  | illFormed isText isField illFormed =>
    obtain rfl | rfl := isText
    · exact .inr (.inr (.inr ⟨rfl, ⟨_, rfl⟩, _, isField, illFormed⟩))
    · cases starts

end Leaves

section

variable {α : Type} {reading : Read α} {Given : Bytes → α → Prop} {Left : Bytes → ProtocolError → Prop}
  {operation : ReadOperation}

/-- What an operation gives and leaves is what its reading does. -/
theorem passes_map (passes : reading.Passes Given Left)
    (left : ∀ field cause, Left field cause → operation.Leaves field cause) (f : α → ReadValue)
    (given : ∀ field a, Given field a → ∀ data ∈ (f a).data?, operation.IsField field data) :
    (reading >>= fun a => pure (f a)).Passes
      (fun field value => ∀ data ∈ value.data?, operation.IsField field data) operation.Leaves :=
  (passes.imp (fun _ _ => id) left).map f given

/-- Where no data are given, there are none to be found in a field. -/
theorem passes_blank (passes : reading.Passes Given Left)
    (left : ∀ field cause, Left field cause → operation.Leaves field cause) (f : α → ReadValue)
    (blank : ∀ a, (f a).data? = none) :
    (reading >>= fun a => pure (f a)).Passes
      (fun field value => ∀ data ∈ value.data?, operation.IsField field data) operation.Leaves := by
  refine passes_map passes left f ?_
  intro field a _ data given
  rw [blank a] at given
  cases given

/-- A text is passed over like its bytes, also where it is none. -/
theorem passes_text (isText : operation = .lengthText ∨ operation = .terminatedText)
    {reading : Read Bytes} (passes : reading.Passes operation.IsField operation.Leaves)
    (name : String) : (reading >>= Read.text name).Passes
      (fun field content => operation.IsField field (Utf8.encode content)) operation.Leaves := by
  refine passes.bind (fun _ _ => id) ?_
  intro field data isField
  refine (Read.passes_text name data).imp ?_ ?_
  · rintro _ content ⟨rfl, rfl⟩
    rwa [List.append_nil]
  · rintro _ _ ⟨rfl, rfl, illFormed⟩
    rw [List.append_nil]
    exact .illFormed isText isField illFormed

end

open Read in
/-- Wherever it starts, an operation passes over a field of its kind, or it leaves what is told for its
error. -/
theorem passes (operation : ReadOperation) :
    operation.read.Passes (fun field value => ∀ data ∈ value.data?, operation.IsField field data)
      operation.Leaves := by
  have narrow {α : Type} {width : Nat} (least : 0 < width) (most : width ≤ 8) (f : UInt64 → α) :
      (Read.fixed width >>= fun v => pure (f v)).Passes (fun _ _ => True) Unmoved :=
    (passes_fixed least most).map f fun _ _ _ => trivial
  have unmoved {operation : ReadOperation} (field : Bytes) (cause : ProtocolError) :
      Unmoved field cause → operation.Leaves field cause := .of_unmoved
  have unended {operation : ReadOperation} (field : Bytes) (cause : ProtocolError) :
      field = [] ∧ cause = .missingTerminator → operation.Leaves field cause := by
    rintro ⟨rfl, rfl⟩
    exact .nothing (.inr (.inr rfl))
  cases operation with
  | remaining | isEmpty | peek =>
    refine fun c => ⟨[], c.rest, rfl, .inl ⟨_, rfl, ?_⟩⟩
    rintro _ ⟨⟩
  | skip count => exact passes_blank (passes_skip count) unmoved _ fun _ => rfl
  | byte =>
    refine passes_map passes_byte unmoved _ ?_
    rintro _ b rfl _ ⟨⟩
    rfl
  | expect expected name =>
    refine passes_blank (passes_expect expected name) ?_ _ fun _ => rfl
    rintro field cause (few | ⟨found, other, rfl, rfl⟩)
    · exact unmoved field cause few
    · exact .other other
  | fixed width =>
    by_cases legal : 0 < width ∧ width ≤ 8
    · exact passes_blank (passes_fixed legal.1 legal.2) unmoved _ fun _ => rfl
    · have refused : (width == 0 || width > 8) = true := by simp; omega
      have refusing : (Read.fixed width).Passes (fun _ _ => False)
          fun field cause => field = [] ∧ cause = .invalidIntegerWidth width := by
        rw [Read.fixed]
        simp only [refused]
        exact passes_throw _ ⟨rfl, rfl⟩
      refine passes_blank refusing ?_ _ fun _ => rfl
      rintro _ _ ⟨rfl, rfl⟩
      exact .nothing (.inr (.inl ⟨width, rfl⟩))
  | uint16 => exact passes_blank (narrow (by decide) (by decide) _) unmoved _ fun _ => rfl
  | uint24 => exact passes_blank (narrow (by decide) (by decide) _) unmoved _ fun _ => rfl
  | uint32 => exact passes_blank (narrow (by decide) (by decide) _) unmoved _ fun _ => rfl
  | uint64 =>
    exact passes_blank (passes_fixed (by decide) (by decide)) unmoved _ fun _ => rfl
  | length => exact passes_blank passes_length (fun _ _ => .of_begun rfl) _ fun _ => rfl
  | lengthOrNull =>
    refine passes_blank passes_lengthOrNull (fun _ _ => .of_begun rfl) _ ?_
    rintro (_ | v)
    · rfl
    · rfl
  | bytes count =>
    refine passes_map (passes_bytes count) unmoved _ ?_
    rintro _ data ⟨rfl, full⟩ _ ⟨⟩
    exact ⟨rfl, full⟩
  | lengthBytes =>
    refine passes_map passes_lengthBytes (fun _ _ => .of_begunCounted rfl) _ ?_
    rintro field data counted _ ⟨⟩
    exact counted
  | lengthBytesOrNull =>
    refine passes_map passes_lengthBytesOrNull (fun _ _ => .of_begunCounted rfl) _ ?_
    rintro field (_ | data) counted _ ⟨⟩
    exact counted data rfl
  | lengthText =>
    refine passes_map (passes_text (.inl rfl) ?_ _) (fun _ _ => id) _ ?_
    · exact passes_lengthBytes.imp (fun _ _ => id) fun _ _ => .of_begunCounted rfl
    · rintro field content counted _ ⟨⟩
      exact counted
  | terminatedBytes =>
    refine passes_map passes_terminatedBytes unended _ ?_
    rintro field data ended _ ⟨⟩
    exact ended
  | terminatedText =>
    refine passes_map (passes_text (.inr rfl) ?_ _) (fun _ _ => id) _ ?_
    · exact passes_terminatedBytes.imp (fun _ _ => id) unended
    · rintro field content ended _ ⟨⟩
      exact ended
  | rest =>
    have all : Read.rest.Passes (fun field found => field = found) fun _ _ => False := passes_rest
    refine passes_map all (fun _ _ => False.elim) _ ?_
    rintro field _ rfl _ ⟨⟩
    rfl

end ReadOperation

/-! ## Steps on one payload -/

/-- Whether a cursor stands in a payload. -/
structure Cursor.IsAt (payload : Bytes) (c : Cursor) : Prop where
  inside : c.offset ≤ payload.length
  ahead : c.rest = payload.drop c.offset

theorem Cursor.isAt_start (payload : Bytes) : (start payload).IsAt payload := ⟨Nat.zero_le _, rfl⟩

/-- The bytes from one position of a payload to another one. -/
def between (payload : Bytes) (first last : Nat) : Bytes := (payload.take last).drop first

theorem Cursor.IsAt.forward {payload field back : Bytes} {c : Cursor} (here : c.IsAt payload)
    (parts : c.rest = field ++ back) :
    IsAt payload ⟨c.offset + field.length, back⟩ ∧
      between payload c.offset (c.offset + field.length) = field := by
  have ahead : payload.drop c.offset = field ++ back := here.ahead.symm.trans parts
  have total := congrArg List.length ahead
  rw [List.length_drop, List.length_append] at total
  have inside := here.inside
  refine ⟨⟨by dsimp only; omega, ?_⟩, ?_⟩
  · rw [← List.drop_drop, ahead, List.drop_left]
  · rw [between, List.drop_take, ahead, Nat.add_sub_cancel_left, List.take_left]

/-- An operation on a payload: the position before it, what became of it, and the position behind it. -/
structure ReadStep where
  operation : ReadOperation
  before : Nat
  outcome : Except ProtocolError ReadValue
  after : Nat
deriving DecidableEq

def ReadOperation.step (operation : ReadOperation) (c : Cursor) : ReadStep × Cursor :=
  let (outcome, next) := operation.read.run.run c
  (⟨operation, c.offset, outcome, next.offset⟩, next)

/-- Does one operation after the other, whatever becomes of them. -/
def ReadOperation.steps : List ReadOperation → Cursor → List ReadStep
  | [], _ => []
  | operation :: later, c =>
    let (step, next) := operation.step c
    step :: steps later next

/-- The bytes of a payload that a step has passed over. -/
def ReadStep.passed (step : ReadStep) (payload : Bytes) : Bytes :=
  between payload step.before step.after

/-- Whether a step keeps to the payload and passes over no more of it than its outcome tells. -/
structure ReadStep.IsOrderly (payload : Bytes) (step : ReadStep) : Prop where
  forward : step.before ≤ step.after
  inside : step.after ≤ payload.length
  /-- Data are given as they stand behind their length and before what ends them. -/
  given : ∀ value, step.outcome = .ok value → ∀ data ∈ value.data?,
    step.operation.IsField (step.passed payload) data
  /-- Nothing is passed over where bytes are read at once or the end is missing. -/
  kept : ∀ cause, step.outcome = .error cause →
    step.operation.isWhole = true ∨ cause = .missingTerminator → step.after = step.before
  /-- A byte that is another one than expected is passed over. -/
  other : ∀ field expected found, step.outcome = .error (.unexpectedByte field expected found) →
    step.after = step.before + 1
  /-- Of a length and the data behind it nothing is passed over, or the first byte of the length, or the
  length, or all where the data are no text. -/
  begun : ∀ cause, step.outcome = .error cause → step.operation.startsWithLength = true →
    step.passed payload = [] ∨ (∃ first, step.passed payload = [first]) ∨
      (step.operation.isCounted = true ∧ ∃ n, Read.IsLength (step.passed payload) n) ∨
      step.operation = .lengthText ∧ (∃ name, cause = .invalidUtf8 name) ∧
        ∃ data, Read.IsCounted (step.passed payload) data ∧ Utf8.decode? data = none

theorem ReadOperation.step_isOrderly {payload : Bytes} {c : Cursor} (here : c.IsAt payload)
    (operation : ReadOperation) :
    (operation.step c).1.IsOrderly payload ∧ (operation.step c).2.IsAt payload := by
  obtain ⟨field, back, parts, outcome⟩ := operation.passes c
  obtain ⟨there, passed⟩ := here.forward parts
  obtain ⟨value, ok, isField⟩ | ⟨cause, failed, leaves⟩ := outcome
  · have step : operation.step c =
        (⟨operation, c.offset, .ok value, c.offset + field.length⟩, ⟨c.offset + field.length, back⟩) := by
      rw [step, ok]
    rw [step]
    refine ⟨⟨Nat.le_add_right _ _, there.inside, ?_, nofun, nofun, nofun⟩, there⟩
    rintro _ ⟨⟩ data given
    rw [ReadStep.passed, passed]
    exact isField data given
  · have step : operation.step c =
        (⟨operation, c.offset, .error cause, c.offset + field.length⟩, ⟨c.offset + field.length, back⟩) := by
      rw [step, failed]
    rw [step]
    refine ⟨⟨Nat.le_add_right _ _, there.inside, nofun, ?_, ?_, ?_⟩, there⟩
    · rintro _ ⟨⟩ whole
      rw [leaves.eq_nil whole]
      rfl
    · rintro name expected found ⟨⟩
      exact congrArg (c.offset + ·) leaves.length_eq_one
    · rintro _ ⟨⟩ starts
      rw [ReadStep.passed, passed]
      exact leaves.begun starts

end SqlWire
