import SqlWire.Proofs.Calendar.Reading
import SqlWire.Proofs.Statement.StringLiteral
import SqlWire.Proofs.Value.Integer
import SqlWire.Proofs.Value.Uuid

/-! # Values, bound and read back

A value goes to the server as a literal and comes back as the text of a cell. The server takes the literal
for some bytes (`Literal.content?`): it knows the mark of a byte string, quotes and escapes, and nothing of
values. Of what is written for a value these bytes are its text (`Literal.content?_ofValue`), and a cell
with that text in a column of the value's kind is read as the value (`Value.ofCell_content`), but for a
leap second that is not behind second 59. `Value.ofCell_ofValue` puts both together.
-/

namespace SqlWire

namespace Literal

/-! ## Literals, read by a server -/

/-- What stands before a byte string that is no text. -/
def binaryMark : Bytes := Utf8.encode "_binary"

/-- A literal without that mark. -/
def unmarked (literal : Bytes) : Bytes :=
  if binaryMark.isPrefixOf literal then literal.drop binaryMark.length else literal

/-- The bytes for which a literal stands: those of a string without its quotes and its escapes, or else
the literal as it is. There are none if a string is not closed or something follows it. -/
def content? (noBackslashEscapes : Bool) (others : UInt8 → Bytes) (literal : Bytes) : Option Bytes :=
  if (unmarked literal).head? == some quote then
    match readString noBackslashEscapes others (unmarked literal) with
    | some (inside, []) => some inside
    | _ => none
  else some (unmarked literal)

variable (noBackslashEscapes : Bool) (others : UInt8 → Bytes)

theorem unmarked_binaryMark (text : Bytes) : unmarked (binaryMark ++ text) = text := by
  have first : binaryMark.isPrefixOf (binaryMark ++ text) = true :=
    List.isPrefixOf_iff_prefix.mpr (List.prefix_append ..)
  rw [unmarked, if_pos first, List.drop_left]

/-- The mark starts with a byte of its own. -/
theorem unmarked_cons {b : UInt8} (other : b ≠ 0x5F) (rest : Bytes) :
    unmarked (b :: rest) = b :: rest := by
  have mark : binaryMark = 0x5F :: Utf8.encode "binary" := by decide
  have apart : binaryMark.isPrefixOf (b :: rest) = false := by
    simp [mark, List.isPrefixOf, other.symm]
  simp [unmarked, apart]

theorem content?_of_unmarked {literal raw : Bytes}
    (string : unmarked literal = quoted noBackslashEscapes raw) :
    content? noBackslashEscapes others literal = some raw := by
  have closed : readString noBackslashEscapes others (quoted noBackslashEscapes raw) = some (raw, []) := by
    have apart : ([] : Bytes).head? ≠ some quote := nofun
    have read := readString_quoted_append others noBackslashEscapes raw apart
    rwa [List.append_nil] at read
  have starts : (quoted noBackslashEscapes raw).head? = some quote := rfl
  simp [content?, string, starts, closed]

theorem content?_quoted (raw : Bytes) :
    content? noBackslashEscapes others (quoted noBackslashEscapes raw) = some raw :=
  content?_of_unmarked _ others (unmarked_cons (by decide) _)

theorem content?_binary (raw : Bytes) :
    content? noBackslashEscapes others (binary noBackslashEscapes raw) = some raw :=
  content?_of_unmarked _ others (unmarked_binaryMark _)

theorem content?_bare {text : List Char} (harmless : ∀ c ∈ text, isHarmless c = true) :
    content? noBackslashEscapes others (bare text) = some (plain text) := by
  rw [bare_eq_quoted noBackslashEscapes harmless]
  exact content?_quoted noBackslashEscapes others (plain text)

/-- The first character of a number is one byte, which starts neither a string nor the mark. -/
theorem encode_of_isDigit {c : Char} (start : c = '-' ∨ c.isDigit = true) :
    ∃ b, String.utf8EncodeChar c = [b] ∧ b ≠ quote ∧ b ≠ 0x5F := by
  obtain rfl | digit := start
  · exact ⟨0x2D, by decide⟩
  · obtain ⟨k, small, rfl⟩ := digit_eq digit
    have all : ∀ k < 10, String.utf8EncodeChar (Char.ofNat (48 + k)) = [UInt8.ofNat (48 + k)] ∧
        UInt8.ofNat (48 + k) ≠ quote ∧ UInt8.ofNat (48 + k) ≠ 0x5F := by decide
    exact ⟨_, all k small⟩

theorem content?_ofInt (n : Int) :
    content? noBackslashEscapes others (plain (Digits.ofInt n)) = some (plain (Digits.ofInt n)) := by
  obtain ⟨c, rest, written, start⟩ :
      ∃ c rest, Digits.ofInt n = c :: rest ∧ (c = '-' ∨ c.isDigit = true) := by
    unfold Digits.ofInt
    split
    · exact ⟨_, _, rfl, .inl rfl⟩
    · obtain ⟨c, rest, digits⟩ := List.exists_cons_of_ne_nil (Digits.ofNat_ne_nil n.natAbs)
      exact ⟨c, rest, digits, .inr (Digits.isDigit_ofNat (digits ▸ List.mem_cons_self))⟩
  obtain ⟨b, byte, string, mark⟩ := encode_of_isDigit start
  have literal : plain (Digits.ofInt n) = b :: plain rest := by
    rw [written, plain_eq, plain_eq, List.flatMap_cons, byte]
    rfl
  simp [literal, content?, unmarked_cons mark, string]

end Literal

/-! ## Values in cells -/

/-- Whether a column is of a value's kind. -/
def ColumnDefinition.Suits (column : ColumnDefinition) : Value → Prop
  | .int _ => column.type = .longLong ∧ column.isUnsigned = false
  | .uint _ => column.type = .longLong ∧ column.isUnsigned = true
  | .text _ => column.type = .varString ∧ column.isBinary = false
  | .binary _ => column.type = .blob ∧ column.isBinary = true
  | .date _ => column.type = .date
  | .time _ => column.type = .time
  | .dateTime _ => column.type = .dateTime
  | _ => False

namespace Value

/-- Whether the text of a value says all of it: a year has four digits, and a time of day is a whole number
of microseconds. -/
def IsExact : Value → Prop
  | .date d => d.IsPlain
  | .time t => t.IsWhole
  | .dateTime d => d.date.IsPlain ∧ d.time.IsWhole
  | _ => True

/-- Whether a value has no leap second behind another second than 59. -/
def IsRegular : Value → Prop
  | .time t => t.IsRegular
  | .dateTime d => d.time.IsRegular
  | _ => True

/-- What is read of the text of a value. -/
def asRead : Value → Value
  | .time t => .time t.asRead
  | .dateTime d => .dateTime d.asRead
  | v => v

/-- A value is read as itself unless it has a leap second behind another second than 59. -/
theorem asRead_eq_iff {v : Value} : v.asRead = v ↔ v.IsRegular := by
  cases v with
  | time t => simp [asRead, IsRegular, TimeOfDay.asRead_eq_iff]
  | dateTime d =>
    obtain ⟨date, t⟩ := d
    simp [asRead, IsRegular, DateTime.asRead, TimeOfDay.asRead_eq_iff]
  | _ => simp [asRead, IsRegular]

/-- What a value is in a cell. There are no identifiers in cells, only their bytes or their text. -/
def inCell (oldGuids : Bool) : Value → Value
  | .uuid u => if oldGuids then .binary u.bytes else .text (.ofList u.format)
  | v => v

/-- The bytes of a cell with a value; there are none of a kind that no column here is of. -/
def content : Value → Bytes
  | .int v => Literal.plain (Digits.ofInt v.toInt)
  | .uint v => Literal.plain (Digits.ofInt v.toNat)
  | .text v => Utf8.encode v
  | .binary v => v
  | .date v => Literal.plain v.format
  | .time v => Literal.plain v.format
  | .dateTime v => Literal.plain v.format
  | _ => []

variable {column : ColumnDefinition} {v : Value}

/-- A cell of an integer column with the text of one of its numbers. -/
theorem ofCell_ofInt {range : IntegerType} (integers : column.integerType? = some range) {n : Int}
    (held : range.holds n = true) :
    ofCell column (some (Literal.plain (Digits.ofInt n))) = .ok (ofInteger range n) := by
  have read := (ofCellBytes_integer integers).2 (Literal.plain (Digits.ofInt n))
  rw [Literal.plain, readCell_encode, IntegerType.ofText?_ofInt held] at read
  exact read

/-- The text of a value is read in a column of its kind. -/
theorem ofCell_content (exact : v.IsExact) (suits : column.Suits v) :
    ofCell column (some v.content) = .ok v.asRead := by
  cases v with
  | null | bool | float | double | decimal | uuid => cases suits
  | int v =>
    obtain ⟨kind, unsigned⟩ := suits
    have integers : column.integerType? = some .int64 := by
      simp [ColumnDefinition.integerType?, kind, unsigned, ColumnType.isInteger]
    have same : ofInteger .int64 v.toInt = .int v := congrArg int (Int64.ofInt_toInt v)
    exact (ofCell_ofInt integers (IntegerType.holds_toInt .int64 v)).trans (congrArg _ same)
  | uint v =>
    obtain ⟨kind, unsigned⟩ := suits
    have integers : column.integerType? = some .uint64 := by
      simp [ColumnDefinition.integerType?, kind, unsigned, ColumnType.isInteger]
    have same : ofInteger .uint64 v.toNat = .uint v := congrArg uint UInt64.ofNat_toNat
    exact (ofCell_ofInt integers (IntegerType.holds_toInt .uint64 v)).trans (congrArg _ same)
  | text v =>
    obtain ⟨kind, isText⟩ := suits
    simp only [ofCell, ofCellBytes, kind, isText, plainCell, content, cellText, Utf8.decode_encode]
    rfl
  | binary v =>
    obtain ⟨kind, isBinary⟩ := suits
    simp [ofCell, ofCellBytes, kind, isBinary, plainCell, content, asRead]
  | date v =>
    have kind : column.type = .date := suits
    simp [ofCell, ofCellBytes, kind, content, Literal.plain, readCell_encode,
      Date.ofText?_format exact, asRead]
  | time v =>
    have kind : column.type = .time := suits
    simp [ofCell, ofCellBytes, kind, content, Literal.plain, readCell_encode,
      TimeOfDay.ofText?_format exact, asRead]
  | dateTime v =>
    have kind : column.type = .dateTime := suits
    simp [ofCell, ofCellBytes, kind, content, Literal.plain, readCell_encode,
      DateTime.ofText?_format exact.1 exact.2, asRead]

end Value

/-- What is written for a value stands for its text in a cell. -/
theorem Literal.content?_ofValue (options : LiteralOptions) (others : UInt8 → Bytes)
    {column : ColumnDefinition} {v : Value} (suits : column.Suits (v.inCell options.oldGuids)) :
    ∃ literal, ofValue options v = .ok literal ∧
      content? options.noBackslashEscapes others literal = some (v.inCell options.oldGuids).content := by
  cases v with
  | null | bool | float | double | decimal => cases suits
  | int v => exact ⟨_, rfl, content?_ofInt _ others _⟩
  | uint v => exact ⟨_, rfl, content?_ofInt _ others v.toNat⟩
  | text v => exact ⟨_, rfl, content?_quoted _ others _⟩
  | binary v => exact ⟨_, rfl, content?_binary _ others _⟩
  | uuid u =>
    refine ⟨_, rfl, ?_⟩
    unfold Value.inCell
    split
    · exact content?_binary _ others u.bytes
    · exact content?_bare _ others (harmless_uuid u)
  | date v => exact ⟨_, rfl, content?_bare _ others (harmless_date v)⟩
  | time v => exact ⟨_, rfl, content?_bare _ others (harmless_time v)⟩
  | dateTime v => exact ⟨_, rfl, content?_bare _ others (harmless_dateTime v)⟩

namespace Value

theorem IsExact.inCell {oldGuids : Bool} {v : Value} (exact : v.IsExact) :
    (v.inCell oldGuids).IsExact := by
  cases v with
  | uuid u => cases oldGuids <;> trivial
  | _ => exact exact

/-- An identifier is taken from its bytes and from its text. -/
theorem ofValue_inCell (oldGuids : Bool) (u : Uuid) :
    OfValue.ofValue ((Value.uuid u).inCell oldGuids) = (.ok u : Except ValueError Uuid) := by
  cases oldGuids with
  | false =>
    change Except.mapError _ (Uuid.ofText (.ofList u.format)) = _
    rw [Uuid.ofText_format]
    rfl
  | true =>
    change Except.mapError _ (Uuid.ofBytes u.bytes) = _
    rw [Uuid.ofBytes_bytes]
    rfl

/-- What an identifier is in a cell is read as it is. -/
theorem asRead_inCell (oldGuids : Bool) (v : Value) :
    (v.inCell oldGuids).asRead = v.asRead.inCell oldGuids := by
  cases v with
  | uuid u => cases oldGuids <;> rfl
  | _ => rfl

/-- A value that is bound to a statement comes back: the server takes its literal for bytes which, in a
column of the value's kind, are read as the value. Only a leap second behind another second than 59 comes
back as the second after it. An identifier comes back as its bytes or its text, and is taken from either.
Bytes that no escape is written for may mean anything behind a backslash. -/
theorem ofCell_ofValue (options : LiteralOptions) (others : UInt8 → Bytes) {column : ColumnDefinition}
    {v : Value} (exact : v.IsExact) (suits : column.Suits (v.inCell options.oldGuids)) :
    ∃ literal content, Literal.ofValue options v = .ok literal ∧
      Literal.content? options.noBackslashEscapes others literal = some content ∧
      ofCell column (some content) = .ok (v.asRead.inCell options.oldGuids) ∧
      (v.asRead = v ↔ v.IsRegular) ∧
      ∀ u, v = .uuid u →
        OfValue.ofValue (v.inCell options.oldGuids) = (.ok u : Except ValueError Uuid) := by
  obtain ⟨literal, written, taken⟩ := Literal.content?_ofValue options others suits
  have read := ofCell_content exact.inCell suits
  rw [asRead_inCell] at read
  refine ⟨literal, _, written, taken, read, asRead_eq_iff, ?_⟩
  rintro u rfl
  exact ofValue_inCell options.oldGuids u

/-- A quarter into the leap second behind second 59, where a backslash is a backslash. -/
theorem ofCell_ofValue_leapSecond :
    let options : LiteralOptions := ⟨true, false⟩
    let column := ColumnDefinition.new "finish" .time
    let v := Value.time ⟨23, 59, 59, 1250000000, by decide, by decide, by decide, by decide⟩
    v.IsExact ∧ column.Suits (v.inCell options.oldGuids) ∧ v.IsRegular ∧
      Literal.ofValue options v = .ok (Literal.bare "23:59:60.250000".toList) ∧
      ∃ literal content, Literal.ofValue options v = .ok literal ∧
        Literal.content? options.noBackslashEscapes (fun b => [b]) literal = some content ∧
        ofCell column (some content) = .ok v := by
  intro options column v
  have exact : v.IsExact := show 1000 ∣ 1250000000 by decide
  have suits : column.Suits (v.inCell options.oldGuids) := rfl
  have regular : v.IsRegular := fun _ => rfl
  obtain ⟨literal, content, written, taken, read, same, -⟩ :=
    ofCell_ofValue options (fun b => [b]) exact suits
  rw [same.mpr regular] at read
  exact ⟨exact, suits, regular, by decide, literal, content, written, taken, read⟩

/-- A third into the leap second behind second 4: its text is that of a third behind second 5, and so it
comes back as that. -/
theorem ofCell_ofValue_strayLeap :
    let options : LiteralOptions := ⟨false, false⟩
    let column := ColumnDefinition.new "start" .time
    let v := Value.time ⟨23, 56, 4, 1333333000, by decide, by decide, by decide, by decide⟩
    let after := Value.time ⟨23, 56, 5, 333333000, by decide, by decide, by decide, by decide⟩
    v.IsExact ∧ column.Suits (v.inCell options.oldGuids) ∧ after ≠ v ∧
      Literal.ofValue options v = .ok (Literal.bare "23:56:05.333333".toList) ∧
      Literal.content? options.noBackslashEscapes (fun b => [b])
        (Literal.bare "23:56:05.333333".toList) = some (Literal.plain "23:56:05.333333".toList) ∧
      ofCell column (some (Literal.plain "23:56:05.333333".toList)) = .ok after := by
  intro options column v after
  have exact : v.IsExact := show 1000 ∣ 1333333000 by decide
  have text : v.content = Literal.plain "23:56:05.333333".toList := by decide
  have read : ofCell column (some v.content) = .ok after := ofCell_content exact rfl
  rw [text] at read
  exact ⟨exact, rfl, by decide, by decide, by decide, read⟩

end Value

end SqlWire
