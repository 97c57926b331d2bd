import SqlWire.Proofs.Message.Login
import SqlWire.Proofs.Message.Reply
import SqlWire.Proofs.Message.Table

/-! # What a server sends is read back

A server sends successes, failures, ends of lists, requests for another authentication plugin, data
for the current one and definitions of columns. The receiver of a payload knows which of them may
come; it looks at the first byte, and at the length where that is `0xFE`, and calls the reader of the
kind that it takes the payload for.

`decode_encode` says that the reader of a kind gives back what was written, and `head?_encode` which
byte each kind begins with. No failure is taken for anything else, and nothing else for a failure. The
end of a list is never missed, but a request for another plugin begins with the same byte: a request
of fewer than nine bytes is taken for the end of a list where one may come (`isEof_encode_iff`).
-/

namespace SqlWire

/-- A status whose flags all have a name is read as it is. -/
theorem Status.ofBits_of_defined {s : Status} (named : defined.contains s = true) :
    ofBits s.bits = s := by
  rw [contains, beq_iff_eq] at named
  rw [ofBits, UInt16.and_comm, named]

/-- Flags of a column that all have a name are read as they are. -/
theorem ColumnFlags.ofBits_of_defined {f : ColumnFlags} (named : defined.contains f = true) :
    ofBits f.bits = f := by
  rw [contains, beq_iff_eq] at named
  rw [ofBits, UInt16.and_comm, named]

open Read in
/-- The data may be anything: the reader takes all that follows the first byte. -/
theorem AuthMore.decode_encode (r : AuthMore) : decode r.encode = .ok r := by
  apply decode_of_ends
  rw [encode, read]
  refine (takes_expect Reply.authMoreHeader _).ends_bind (ends_rest_bind ?_)
  exact ends_pure _ _

/-- What a definition has to be so that a client can read it as it was written. That a text is
shorter than `2 ^ 64` bytes holds of every text that fits in a memory. -/
structure ColumnDefinition.IsRegular (d : ColumnDefinition) : Prop where
  schema : Storable (Utf8.encode d.schema)
  table : Storable (Utf8.encode d.table)
  originalTable : Storable (Utf8.encode d.originalTable)
  name : Storable (Utf8.encode d.name)
  originalName : Storable (Utf8.encode d.originalName)
  flags : ColumnFlags.defined.contains d.flags = true

instance (field : Bytes) : Decidable (Storable field) :=
  inferInstanceAs (Decidable (field.length < 2 ^ 64))

theorem ColumnDefinition.isRegular_iff {d : ColumnDefinition} :
    d.IsRegular ↔
      (∀ text ∈ [d.schema, d.table, d.originalTable, d.name, d.originalName],
        Storable (Utf8.encode text)) ∧ ColumnFlags.defined.contains d.flags = true := by
  simp only [List.forall_mem_cons, List.not_mem_nil, false_implies, implies_true, and_true]
  constructor
  · rintro ⟨schema, table, originalTable, name, originalName, flags⟩
    exact ⟨⟨schema, table, originalTable, name, originalName⟩, flags⟩
  · rintro ⟨⟨schema, table, originalTable, name, originalName⟩, flags⟩
    exact ⟨schema, table, originalTable, name, originalName, flags⟩

instance (d : ColumnDefinition) : Decidable d.IsRegular :=
  decidable_of_iff' _ ColumnDefinition.isRegular_iff

/-- The kinds of payloads that a server sends. -/
inductive PayloadKind where
  | ok
  | eof
  | error
  | authSwitch
  | authMore
  | column
deriving Repr, DecidableEq

inductive ServerPayload where
  | ok (r : OkReply)
  | eof (r : EofReply)
  | error (r : ErrorReply)
  | authSwitch (r : AuthSwitch)
  | authMore (r : AuthMore)
  | column (d : ColumnDefinition)
deriving Repr, DecidableEq

namespace ServerPayload

def kind : ServerPayload → PayloadKind
  | ok _ => .ok
  | eof _ => .eof
  | error _ => .error
  | authSwitch _ => .authSwitch
  | authMore _ => .authMore
  | column _ => .column

def encode : ServerPayload → Bytes
  | ok r => r.encode
  | eof r => r.encode
  | error r => r.encode
  | authSwitch r => r.encode
  | authMore r => r.encode
  | column d => d.encode

/-- Reads a payload that is expected to be of a kind. -/
def decode (expected : PayloadKind) (payload : Bytes) : Except ProtocolError ServerPayload :=
  match expected with
  | .ok => (OkReply.decode payload).map ok
  | .eof => (EofReply.decode payload).map eof
  | .error => (ErrorReply.decode payload).map error
  | .authSwitch => (AuthSwitch.decode payload).map authSwitch
  | .authMore => (AuthMore.decode payload).map authMore
  | .column => (ColumnDefinition.decode payload).map column

/-- What the parts of a payload have to be: flags have a name, a class of failure is five bytes long,
and the name of a plugin, which a zero byte ends, has none itself. -/
def IsRegular : ServerPayload → Prop
  | ok r => Status.defined.contains r.status = true
  | eof r => Status.defined.contains r.status = true
  | error r => (Utf8.encode r.state).length = 5
  | authSwitch r => 0 ∉ Utf8.encode r.plugin
  | authMore _ => True
  | column d => d.IsRegular

instance : DecidablePred IsRegular
  | ok r => inferInstanceAs (Decidable (Status.defined.contains r.status = true))
  | eof r => inferInstanceAs (Decidable (Status.defined.contains r.status = true))
  | error r => inferInstanceAs (Decidable ((Utf8.encode r.state).length = 5))
  | authSwitch r => inferInstanceAs (Decidable (0 ∉ Utf8.encode r.plugin))
  | authMore _ => inferInstanceAs (Decidable True)
  | column d => inferInstanceAs (Decidable d.IsRegular)

theorem decode_encode {x : ServerPayload} (regular : x.IsRegular) :
    decode x.kind x.encode = .ok x := by
  cases x with
  | ok r =>
    rw [kind, encode, decode, OkReply.decode_encode, OkReply.named,
      Status.ofBits_of_defined regular]
    rfl
  | eof r =>
    rw [kind, encode, decode, EofReply.decode_encode, EofReply.named,
      Status.ofBits_of_defined regular]
    rfl
  | error r =>
    rw [kind, encode, decode, ErrorReply.decode_encode regular]
    rfl
  | authSwitch r =>
    rw [kind, encode, decode, AuthSwitch.decode_encode regular]
    rfl
  | authMore r =>
    rw [kind, encode, decode, AuthMore.decode_encode]
    rfl
  | column d =>
    rw [kind, encode, decode, ColumnDefinition.decode_encode regular.schema regular.table
      regular.originalTable regular.name regular.originalName, ColumnDefinition.named,
      ColumnFlags.ofBits_of_defined regular.flags]
    rfl

/-! ## The first byte -/

/-- The byte that a kind begins with. A definition begins with the length of its catalog, `def`. -/
def header : PayloadKind → UInt8
  | .ok => Reply.okHeader
  | .eof | .authSwitch => Reply.eofHeader
  | .error => Reply.errorHeader
  | .authMore => Reply.authMoreHeader
  | .column => 3

theorem head?_encode (x : ServerPayload) : x.encode.head? = some (header x.kind) := by
  cases x with
  | column d =>
    have catalog : ColumnDefinition.textField "def" = [3, 0x64, 0x65, 0x66] := by decide
    simp [encode, ColumnDefinition.encode, catalog, kind, header]
  | _ => rfl

/-- Exactly the failures are taken for failures. -/
theorem isError_encode_iff (x : ServerPayload) :
    Reply.isError x.encode = true ↔ x.kind = .error := by
  rw [Reply.isError, head?_encode, beq_iff_eq, Option.some_inj]
  cases x.kind <;> decide

/-- The ends of lists are taken for such, and so are the short requests for another plugin. -/
theorem isEof_encode_iff (x : ServerPayload) :
    Reply.isEof x.encode = true ↔
      x.kind = .eof ∨ x.kind = .authSwitch ∧ x.encode.length < 9 := by
  cases x with
  | eof r => simp [encode, kind, EofReply.isEof_encode]
  | authSwitch r =>
    have eight : Reply.isEof (encode (authSwitch r)) = true ↔ (encode (authSwitch r)).length ≤ 8 := by
      rw [Reply.isEof, head?_encode]
      simp [kind, header]
    rw [eight, kind]
    simp [Nat.lt_succ_iff]
  | _ =>
    rw [Reply.isEof, head?_encode]
    simp [kind, header, Reply.eofHeader, Reply.okHeader, Reply.errorHeader, Reply.authMoreHeader]

/-- What a server sends is read back by the reader of its kind, if its parts can be written. Whatever
they are, the payload is taken for a failure exactly if it is one, and for the end of a list exactly if
it is one or a request for another plugin of fewer than nine bytes. -/
theorem read_back (x : ServerPayload) :
    (x.IsRegular → decode x.kind x.encode = .ok x) ∧
      (Reply.isError x.encode = true ↔ x.kind = .error) ∧
      (Reply.isEof x.encode = true ↔
        x.kind = .eof ∨ x.kind = .authSwitch ∧ x.encode.length < 9) :=
  ⟨decode_encode, isError_encode_iff x, isEof_encode_iff x⟩

/-- Zeros at the end of a nonce are kept, and so is a text beyond ASCII. -/
theorem read_back_switch_column :
    decode .authSwitch (encode (authSwitch ⟨"mysql_clear", [7, 0, 0]⟩)) =
        .ok (authSwitch ⟨"mysql_clear", [7, 0, 0]⟩) ∧
      decode .column (encode (column
          { ColumnDefinition.new "größe" .long with flags := .isUnsigned, decimals := 31 })) =
        .ok (column
          { ColumnDefinition.new "größe" .long with flags := .isUnsigned, decimals := 31 }) :=
  ⟨(read_back (authSwitch _)).1 (by decide), (read_back (column _)).1 (by decide)⟩

end ServerPayload

end SqlWire
