import Mathlib.Data.List.Chain
import SqlWire.Proofs.Wire.Steps

/-! # Reading by position

A reader that holds a whole payload and a position in it subtracts from its size, adds to the position
and cuts slices out of the payload. Each number has to fit in 64 bits and each slice has to lie in the
payload: `Indexed` readings come to nothing where one does not. They never do (`Indexed.Agrees`), and so
a cursor is such a reader, whatever is asked of it (`ReadOperation.steps_orderly`).
-/

namespace SqlWire

/-- A payload and a position in it. -/
structure Position where
  payload : Bytes
  offset : Nat
deriving DecidableEq

/-- A reading by position, which comes to nothing where a number or a slice is out of range. -/
abbrev Indexed (α : Type) := ExceptT ProtocolError (StateT Position Option) α

namespace Indexed

variable {α β : Type}

def inRange (value? : Option α) : Indexed α :=
  ExceptT.mk fun p => value?.map fun value => (.ok value, p)

def sum? (a b : Nat) : Option Nat := if a + b < 2 ^ 64 then some (a + b) else none

def difference? (a b : Nat) : Option Nat := if b ≤ a then some (a - b) else none

/-- The bytes of a payload from one position to another one. -/
def slice? (payload : Bytes) (first last : Nat) : Option Bytes :=
  if first ≤ last ∧ last ≤ payload.length then some (between payload first last) else none

def remaining : Indexed Nat := do
  let p ← get
  inRange (difference? p.payload.length p.offset)

def isEmpty : Indexed Bool := do return (← remaining) == 0

def peek : Indexed (Option UInt8) := do
  let p ← get
  return p.payload[p.offset]?

def ensure (needed : Nat) : Indexed Unit := do
  let left ← remaining
  if left < needed then throw (.unexpectedEnd needed left)

def advance (count : Nat) : Indexed Unit := do
  let p ← get
  set { p with offset := ← inRange (sum? p.offset count) }

/-- The slice of some bytes at the position. -/
def ahead (count : Nat) : Indexed Bytes := do
  let p ← get
  inRange (slice? p.payload p.offset (← inRange (sum? p.offset count)))

/-- The slice of all bytes from the position on. -/
def allAhead : Indexed Bytes := do
  let p ← get
  inRange (slice? p.payload p.offset p.payload.length)

def skip (count : Nat) : Indexed Unit := do
  ensure count
  advance count

def byte : Indexed UInt8 := do
  ensure 1
  let p ← get
  let b ← inRange p.payload[p.offset]?
  advance 1
  return b

def expect (expected : UInt8) (field : String) : Indexed Unit := do
  let found ← byte
  if found != expected then throw (.unexpectedByte field expected found)

def bytes (count : Nat) : Indexed Bytes := do
  ensure count
  let found ← ahead count
  advance count
  return found

/-- An unsigned integer of one to eight bytes. -/
def fixed (width : Nat) : Indexed UInt64 := do
  if width == 0 || width > 8 then throw (.invalidIntegerWidth width)
  return UInt64.ofNat (LittleEndian.value (← bytes width))

def uint16 : Indexed UInt16 := do return (← fixed 2).toUInt16

def uint24 : Indexed UInt32 := do return (← fixed 3).toUInt32

def uint32 : Indexed UInt32 := do return (← fixed 4).toUInt32

/-- A length, or none for the NULL byte. -/
def lengthOrNull : Indexed (Option UInt64) := do
  let lead ← byte
  if lead ≤ 0xFA then return some lead.toUInt64
  else if lead == 0xFB then return none
  else if lead == 0xFC then return some (← fixed 2)
  else if lead == 0xFD then return some (← fixed 3)
  else if lead == 0xFE then return some (← fixed 8)
  else throw (.invalidLengthPrefix lead)

def length : Indexed UInt64 := do
  match ← lengthOrNull with
  | some n => return n
  | none => throw (.invalidLengthPrefix 0xFB)

def lengthBytes : Indexed Bytes := do
  bytes (← length).toNat

/-- A byte string behind its length, or none for the NULL byte. -/
def lengthBytesOrNull : Indexed (Option Bytes) := do
  match ← lengthOrNull with
  | some n => return some (← bytes n.toNat)
  | none => return none

/-- The text of bytes that were read as `field`. -/
def text (field : String) (bs : Bytes) : Indexed String :=
  match Utf8.decode? bs with
  | some s => pure s
  | none => throw (.invalidUtf8 field)

def lengthText : Indexed String := do
  text "length-encoded string" (← lengthBytes)

def terminatedBytes : Indexed Bytes := do
  match (← allAhead).findIdx? (· == 0) with
  | none => throw .missingTerminator
  | some count =>
    let found ← ahead count
    advance (← inRange (sum? count 1))
    return found

def terminatedText : Indexed String := do
  text "null-terminated string" (← terminatedBytes)

def rest : Indexed Bytes := do
  let found ← allAhead
  modify fun p => { p with offset := p.payload.length }
  return found

/-! ## A cursor is a reader by position -/

/-- Whether a reading by position does from anywhere in a payload what a reading does, without leaving
the range of a number or the payload. -/
def Agrees (indexed : Indexed α) (read : Read α) : Prop :=
  ∀ payload c, payload.length < 2 ^ 64 → c.IsAt payload →
    indexed.run.run ⟨payload, c.offset⟩ =
      some ((read.run.run c).1, ⟨payload, (read.run.run c).2.offset⟩) ∧ (read.run.run c).2.IsAt payload

theorem run_bind_ok {indexed : Indexed α} {next : α → Indexed β} {p q : Position} {a : α}
    (first : indexed.run.run p = some (.ok a, q)) :
    (indexed >>= next).run.run p = (next a).run.run q := by
  change (indexed.run.run p).bind (fun done => (ExceptT.bindCont next done.1).run done.2) = _
  rw [first]
  rfl

theorem run_bind_error {indexed : Indexed α} {next : α → Indexed β} {p q : Position}
    {cause : ProtocolError} (first : indexed.run.run p = some (.error cause, q)) :
    (indexed >>= next).run.run p = some (.error cause, q) := by
  change (indexed.run.run p).bind (fun done => (ExceptT.bindCont next done.1).run done.2) = _
  rw [first]
  rfl

theorem agrees_pure (a : α) : (pure a : Indexed α).Agrees (pure a) := fun _ _ _ here => ⟨rfl, here⟩

theorem agrees_throw (cause : ProtocolError) : (throw cause : Indexed α).Agrees (throw cause) :=
  fun _ _ _ here => ⟨rfl, here⟩

theorem Agrees.bind {indexed : Indexed α} {read : Read α} {next : α → Indexed β} {then' : α → Read β}
    (first : indexed.Agrees read) (later : ∀ a, (next a).Agrees (then' a)) :
    (indexed >>= next).Agrees (read >>= then') := by
  intro payload c storable here
  obtain ⟨one, there⟩ := first payload c storable here
  cases run : read.run.run c with
  | mk outcome mid =>
    rw [run] at one there
    cases outcome with
    | error cause =>
      rw [run_bind_error one, Read.run_bind_error run]
      exact ⟨rfl, there⟩
    | ok a =>
      rw [run_bind_ok one, Read.run_bind_ok run]
      exact later a payload mid storable there

theorem Agrees.ite {test : Prop} [Decidable test] {indexed indexed' : Indexed α} {read read' : Read α}
    (yes : indexed.Agrees read) (no : indexed'.Agrees read') :
    (if test then indexed else indexed').Agrees (if test then read else read') := by
  split
  · exact yes
  · exact no

theorem run_get_bind (next : Position → Indexed α) (p : Position) :
    ((get : Indexed Position) >>= next).run.run p = (next p).run.run p := rfl

theorem run_inRange_bind {value? : Option α} {value : α} (found : value? = some value)
    (next : α → Indexed β) (p : Position) :
    (inRange value? >>= next).run.run p = (next value).run.run p := by
  rw [found]
  rfl

section

variable {payload : Bytes} {c : Cursor} {count : Nat}

theorem length_rest (here : c.IsAt payload) : c.rest.length = payload.length - c.offset := by
  rw [here.ahead, List.length_drop]

theorem run_remaining (here : c.IsAt payload) :
    remaining.run.run ⟨payload, c.offset⟩ = some (.ok c.rest.length, ⟨payload, c.offset⟩) := by
  rw [remaining, run_get_bind, difference?, if_pos here.inside, length_rest here]
  rfl

theorem run_ensure (here : c.IsAt payload) (enough : count ≤ c.rest.length) :
    (ensure count).run.run ⟨payload, c.offset⟩ = some (.ok (), ⟨payload, c.offset⟩) := by
  rw [ensure, run_bind_ok (run_remaining here), if_neg (by omega)]
  rfl

theorem run_ensure_short (here : c.IsAt payload) (few : c.rest.length < count) :
    (ensure count).run.run ⟨payload, c.offset⟩ =
      some (.error (.unexpectedEnd count c.rest.length), ⟨payload, c.offset⟩) := by
  rw [ensure, run_bind_ok (run_remaining here), if_pos few]
  rfl

/-- Where there are enough bytes, the position behind them is a number. -/
theorem sum?_eq (storable : payload.length < 2 ^ 64) (here : c.IsAt payload)
    (enough : count ≤ c.rest.length) : sum? c.offset count = some (c.offset + count) := by
  have inside := here.inside
  rw [length_rest here] at enough
  rw [sum?, if_pos (by omega)]

theorem run_advance (storable : payload.length < 2 ^ 64) (here : c.IsAt payload)
    (enough : count ≤ c.rest.length) :
    (advance count).run.run ⟨payload, c.offset⟩ = some (.ok (), ⟨payload, c.offset + count⟩) := by
  rw [advance, run_get_bind, run_inRange_bind (sum?_eq storable here enough)]
  rfl

theorem slice?_eq (here : c.IsAt payload) (enough : count ≤ c.rest.length) :
    slice? payload c.offset (c.offset + count) = some (c.rest.take count) := by
  have inside := here.inside
  rw [length_rest here] at enough
  rw [slice?, if_pos (by omega), between, List.drop_take, Nat.add_sub_cancel_left, here.ahead]

theorem run_ahead (storable : payload.length < 2 ^ 64) (here : c.IsAt payload)
    (enough : count ≤ c.rest.length) :
    (ahead count).run.run ⟨payload, c.offset⟩ =
      some (.ok (c.rest.take count), ⟨payload, c.offset⟩) := by
  rw [ahead, run_get_bind, run_inRange_bind (sum?_eq storable here enough), slice?_eq here enough]
  rfl

theorem run_allAhead (here : c.IsAt payload) :
    allAhead.run.run ⟨payload, c.offset⟩ = some (.ok c.rest, ⟨payload, c.offset⟩) := by
  have inside := here.inside
  have whole := slice?_eq here (Nat.le_refl _)
  rw [length_rest here, Nat.add_sub_cancel' inside, ← length_rest here, List.take_length] at whole
  rw [allAhead, run_get_bind, whole]
  rfl

/-! ## Single fields -/

theorem agrees_remaining : remaining.Agrees Read.remaining :=
  fun _ _ _ here => ⟨run_remaining here, here⟩

theorem agrees_isEmpty : isEmpty.Agrees Read.isEmpty := by
  intro payload c _ here
  rw [isEmpty, run_bind_ok (run_remaining here)]
  refine ⟨?_, here⟩
  change some (Except.ok (c.rest.length == 0), _) = some (Except.ok c.rest.isEmpty, _)
  cases c.rest <;> rfl

theorem agrees_peek : peek.Agrees Read.peek := by
  intro payload c _ here
  refine ⟨?_, here⟩
  change some (Except.ok payload[c.offset]?, _) = some (Except.ok c.rest.head?, _)
  rw [here.ahead, List.head?_drop]
  rfl

/-- Past some bytes a cursor is still in the payload. -/
theorem isAt_take (here : c.IsAt payload) (enough : count ≤ c.rest.length) :
    Cursor.IsAt payload ⟨c.offset + count, c.rest.drop count⟩ := by
  have there := (here.forward (List.take_append_drop count c.rest).symm).1
  rwa [List.length_take, Nat.min_eq_left enough] at there

end

theorem agrees_bytes (count : Nat) : (bytes count).Agrees (Read.bytes count) := by
  intro payload c storable here
  rw [Read.run_bytes, bytes]
  by_cases few : c.rest.length < count
  · rw [if_pos few, run_bind_error (run_ensure_short here few)]
    exact ⟨rfl, here⟩
  · have enough := Nat.le_of_not_lt few
    rw [if_neg few, run_bind_ok (run_ensure here enough), run_bind_ok (run_ahead storable here enough),
      run_bind_ok (run_advance storable here enough)]
    exact ⟨rfl, isAt_take here enough⟩

theorem agrees_skip (count : Nat) : (skip count).Agrees (Read.skip count) := by
  intro payload c storable here
  have run := Read.run_bytes count c
  by_cases few : c.rest.length < count
  · rw [if_pos few] at run
    rw [Read.skip, Read.run_bind_error run, skip, run_bind_error (run_ensure_short here few)]
    exact ⟨rfl, here⟩
  · have enough := Nat.le_of_not_lt few
    rw [if_neg few] at run
    rw [Read.skip, Read.run_bind_ok run, skip, run_bind_ok (run_ensure here enough),
      run_advance storable here enough]
    exact ⟨rfl, isAt_take here enough⟩

theorem agrees_byte : byte.Agrees Read.byte := by
  intro payload c storable here
  cases ahead : c.rest with
  | nil =>
    have few : c.rest.length < 1 := by simp [ahead]
    have run : Read.byte.run.run c = (.error (.unexpectedEnd 1 c.rest.length), c) := by
      obtain ⟨offset, rest⟩ := c
      obtain rfl : rest = [] := ahead
      rfl
    rw [run, byte, run_bind_error (run_ensure_short here few)]
    exact ⟨rfl, here⟩
  | cons b rest =>
    have enough : 1 ≤ c.rest.length := by simp [ahead]
    have found : payload[c.offset]? = some b := by rw [← List.head?_drop, ← here.ahead, ahead]; rfl
    have run : Read.byte.run.run c = (.ok b, ⟨c.offset + 1, c.rest.drop 1⟩) := by
      obtain ⟨offset, rest⟩ := c
      obtain rfl : rest = b :: _ := ahead
      rfl
    rw [run, byte, run_bind_ok (run_ensure here enough), run_get_bind, run_inRange_bind found,
      run_bind_ok (run_advance storable here enough)]
    exact ⟨rfl, isAt_take here enough⟩

theorem agrees_terminatedBytes : terminatedBytes.Agrees Read.terminatedBytes := by
  intro payload c storable here
  rw [terminatedBytes, run_bind_ok (run_allAhead here)]
  by_cases ended : (0 : UInt8) ∈ c.rest
  · obtain ⟨found, back, parts, whole⟩ := List.eq_append_cons_of_mem ended
    have place : c.rest.findIdx? (· == 0) = some found.length := by
      have none : found.findIdx? (· == 0) = none := by
        rw [List.findIdx?_eq_none_iff]
        rintro b inside
        exact beq_false_of_ne fun zero => whole (zero ▸ inside)
      simp [parts, List.findIdx?_append, List.findIdx?_cons, none]
    have room : found.length + 1 ≤ c.rest.length := by simp [parts]
    have next : sum? found.length 1 = some (found.length + 1) := by
      rw [length_rest here] at room
      exact if_pos (by omega)
    have run := Read.takes_terminatedBytes whole c.offset back
    rw [Write.terminated, List.append_assoc, List.singleton_append, ← parts,
      List.length_append] at run
    have data : c.rest.take found.length = found := by rw [parts, List.take_left]
    have behind : c.rest.drop (found.length + 1) = back := by simp [parts]
    rw [run]
    simp only [place]
    rw [run_bind_ok (run_ahead storable here (by omega)), run_inRange_bind next,
      run_bind_ok (run_advance storable here room), data]
    exact ⟨rfl, behind ▸ isAt_take here room⟩
  · have place : c.rest.findIdx? (· == 0) = none := by
      rw [List.findIdx?_eq_none_iff]
      intro b inside
      exact beq_false_of_ne fun zero => ended (zero ▸ inside)
    have all : c.rest.dropWhile (· != 0) = [] := by
      rw [List.dropWhile_eq_nil_iff]
      intro b inside
      exact bne_iff_ne.mpr fun zero => ended (zero ▸ inside)
    have run : Read.terminatedBytes.run.run c = (.error .missingTerminator, c) := by
      rw [Read.terminatedBytes, Read.run_get_bind]
      simp only [List.span_eq_takeWhile_dropWhile, all]
      rfl
    simp only [place, run]
    exact ⟨rfl, here⟩

theorem agrees_rest : rest.Agrees Read.rest := by
  intro payload c _ here
  have total : c.offset + c.rest.length = payload.length := by
    rw [length_rest here, Nat.add_sub_cancel' here.inside]
  have run : Read.rest.run.run c = (.ok c.rest, ⟨payload.length, []⟩) := by
    rw [← total]
    rfl
  rw [rest, run_bind_ok (run_allAhead here), run]
  exact ⟨rfl, Nat.le_refl _, (List.drop_length ..).symm⟩

/-! ## Fields of several parts -/

theorem Agrees.map {indexed : Indexed α} {read : Read α} (agrees : indexed.Agrees read) (f : α → β) :
    (indexed >>= fun a => pure (f a)).Agrees (read >>= fun a => pure (f a)) :=
  agrees.bind fun a => agrees_pure (f a)

theorem agrees_expect (expected : UInt8) (field : String) :
    (expect expected field).Agrees (Read.expect expected field) :=
  agrees_byte.bind fun _ => (agrees_throw _).ite (agrees_pure ())

theorem agrees_fixed (width : Nat) : (fixed width).Agrees (Read.fixed width) := by
  unfold fixed Read.fixed
  split
  · exact fun _ _ _ here => ⟨rfl, here⟩
  · exact (agrees_bytes width).map _

theorem agrees_lengthOrNull : lengthOrNull.Agrees Read.lengthOrNull := by
  refine agrees_byte.bind fun lead => ?_
  refine (agrees_pure _).ite <| (agrees_pure _).ite ?_
  refine ((agrees_fixed 2).map _).ite <| ((agrees_fixed 3).map _).ite ?_
  exact ((agrees_fixed 8).map _).ite (agrees_throw _)

theorem agrees_length : length.Agrees Read.length := by
  refine agrees_lengthOrNull.bind fun n? => ?_
  cases n? with
  | none => exact agrees_throw _
  | some n => exact agrees_pure n

theorem agrees_lengthBytes : lengthBytes.Agrees Read.lengthBytes :=
  agrees_length.bind fun n => agrees_bytes n.toNat

theorem agrees_lengthBytesOrNull : lengthBytesOrNull.Agrees Read.lengthBytesOrNull := by
  refine agrees_lengthOrNull.bind fun n? => ?_
  cases n? with
  | none => exact agrees_pure none
  | some n => exact (agrees_bytes n.toNat).map some

theorem agrees_text (field : String) (bs : Bytes) : (text field bs).Agrees (Read.text field bs) := by
  rw [text, Read.text]
  cases Utf8.decode? bs with
  | none => exact agrees_throw _
  | some content => exact agrees_pure content

end Indexed

namespace ReadOperation

/-- The reading of an operation by position. -/
def indexed : ReadOperation → Indexed ReadValue
  | remaining => do return .count (← Indexed.remaining)
  | isEmpty => do return .flag (← Indexed.isEmpty)
  | peek => do return .ahead (← Indexed.peek)
  | skip count => do let _ ← Indexed.skip count; return .done
  | byte => do return .byte (← Indexed.byte)
  | expect expected field => do let _ ← Indexed.expect expected field; return .done
  | fixed width => do return .number (← Indexed.fixed width)
  | uint16 => do return .number (← Indexed.uint16).toUInt64
  | uint24 => do return .number (← Indexed.uint24).toUInt64
  | uint32 => do return .number (← Indexed.uint32).toUInt64
  | uint64 => do return .number (← Indexed.fixed 8)
  | length => do return .number (← Indexed.length)
  | lengthOrNull => do return (← Indexed.lengthOrNull).elim .null .number
  | bytes count => do return .bytes (← Indexed.bytes count)
  | lengthBytes => do return .bytes (← Indexed.lengthBytes)
  | lengthBytesOrNull => do return (← Indexed.lengthBytesOrNull).elim .null .bytes
  | lengthText => do return .text (← Indexed.lengthText)
  | terminatedBytes => do return .bytes (← Indexed.terminatedBytes)
  | terminatedText => do return .text (← Indexed.terminatedText)
  | rest => do return .bytes (← Indexed.rest)

open Indexed in
theorem indexed_agrees (operation : ReadOperation) : operation.indexed.Agrees operation.read := by
  cases operation with
  | remaining => exact agrees_remaining.map _
  | isEmpty => exact agrees_isEmpty.map _
  | peek => exact agrees_peek.map _
  | skip count => exact (agrees_skip count).map _
  | byte => exact agrees_byte.map _
  | expect expected field => exact (agrees_expect expected field).map _
  | fixed width => exact (agrees_fixed width).map _
  | uint16 => exact ((agrees_fixed 2).map _).map _
  | uint24 => exact ((agrees_fixed 3).map _).map _
  | uint32 => exact ((agrees_fixed 4).map _).map _
  | uint64 => exact (agrees_fixed 8).map _
  | length => exact agrees_length.map _
  | lengthOrNull => exact agrees_lengthOrNull.map _
  | bytes count => exact (agrees_bytes count).map _
  | lengthBytes => exact agrees_lengthBytes.map _
  | lengthBytesOrNull => exact agrees_lengthBytesOrNull.map _
  | lengthText => exact (agrees_lengthBytes.bind (agrees_text _)).map _
  | terminatedBytes => exact agrees_terminatedBytes.map _
  | terminatedText => exact (agrees_terminatedBytes.bind (agrees_text _)).map _
  | rest => exact agrees_rest.map _

/-- The steps of operations by position, or nothing where one of them is out of range. -/
def steps? : List ReadOperation → Position → Option (List ReadStep)
  | [], _ => some []
  | operation :: later, p => do
    let (outcome, next) ← operation.indexed.run.run p
    let others ← steps? later next
    return ⟨operation, p.offset, outcome, next.offset⟩ :: others

variable {payload : Bytes} {c : Cursor}

theorem steps?_eq (storable : payload.length < 2 ^ 64) (here : c.IsAt payload)
    (operations : List ReadOperation) :
    steps? operations ⟨payload, c.offset⟩ = some (steps operations c) := by
  induction operations generalizing c with
  | nil => rfl
  | cons operation later ih =>
    obtain ⟨run, there⟩ := operation.indexed_agrees payload c storable here
    rw [steps?, run, Option.bind_eq_bind, Option.bind_some]
    dsimp only
    rw [ih there]
    rfl

theorem steps_orderly_at (here : c.IsAt payload) (operations : List ReadOperation) :
    (∀ step ∈ steps operations c, step.IsOrderly payload) ∧
      (∀ step ∈ (steps operations c).head?, step.before = c.offset) ∧
      (steps operations c).IsChain fun step next => next.before = step.after := by
  induction operations generalizing c with
  | nil =>
    refine ⟨?_, ?_, .nil⟩
    · rintro _ ⟨⟩
    · rintro _ ⟨⟩
  | cons operation later ih =>
    obtain ⟨orderly, there⟩ := operation.step_isOrderly here
    obtain ⟨others, first, chain⟩ := ih there
    refine ⟨List.forall_mem_cons.mpr ⟨orderly, others⟩, ?_, List.isChain_cons.mpr ⟨first, chain⟩⟩
    rintro _ ⟨⟩
    rfl

/-- Whatever is asked of a reader one after the other, and whatever becomes of it: each operation starts
where the one before it has stopped, goes on or stays, and does not leave the payload. It gives the bytes
that it passes over, less their length and what ends them, and one that fails has passed over as much as
is told for its kind (`ReadStep.IsOrderly`). So nothing is out of range where the reader holds a payload
that fits in a memory and its position in it, however long the lengths in the payload are. -/
theorem steps_orderly (payload : Bytes) (operations : List ReadOperation) :
    (∀ step ∈ steps operations (.start payload), step.IsOrderly payload) ∧
      (∀ step ∈ (steps operations (.start payload)).head?, step.before = 0) ∧
      ((steps operations (.start payload)).IsChain fun step next => next.before = step.after) ∧
      (payload.length < 2 ^ 64 →
        steps? operations ⟨payload, 0⟩ = some (steps operations (.start payload))) := by
  obtain ⟨orderly, first, chain⟩ := steps_orderly_at (Cursor.isAt_start payload) operations
  exact ⟨orderly, first, chain, fun storable => steps?_eq storable (Cursor.isAt_start payload) operations⟩

/-- A length of all the numbers that eight bytes hold is behind the cursor, and none of the data. -/
theorem steps_orderly_tooLong :
    ([0xFE, 0xFF, 0xFF, 0xFF, 0xFF, 0xFF, 0xFF, 0xFF, 0xFF, 0x41] : Bytes).length < 2 ^ 64 ∧
      steps? [.lengthText, .rest, .byte]
        ⟨[0xFE, 0xFF, 0xFF, 0xFF, 0xFF, 0xFF, 0xFF, 0xFF, 0xFF, 0x41], 0⟩ =
        some [⟨.lengthText, 0, .error (.unexpectedEnd (2 ^ 64 - 1) 1), 9⟩,
          ⟨.rest, 9, .ok (.bytes [0x41]), 10⟩, ⟨.byte, 10, .error (.unexpectedEnd 1 0), 10⟩] := by
  have storable : ([0xFE, 0xFF, 0xFF, 0xFF, 0xFF, 0xFF, 0xFF, 0xFF, 0xFF, 0x41] : Bytes).length <
      2 ^ 64 := by decide
  refine ⟨storable, ?_⟩
  rw [(steps_orderly _ [.lengthText, .rest, .byte]).2.2.2 storable]
  decide

end ReadOperation

end SqlWire
