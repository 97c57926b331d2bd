import SqlWire.Proofs.Text.Numerals
import SqlWire.Proofs.Text.Utf8
import SqlWire.Value.Cell
import SqlWire.Value.OfValue

/-! # Integers from the wire to the host

An integer passes two stages: the text of a cell is read as a number of 64 bits, signed or not by its
column (`Value.ofCell_integer`), and the number is taken into a type of the host, which keeps it as it is
if the type holds it (`IntegerType.ofValue_of_integer?`). `IntegerType.ofValue_ofCell` puts both together:
what comes out is the number that the text denotes, and a number that does not fit one of the stages is an
error.
-/

namespace SqlWire

/-- The numbers that the cells of an integer column may have. -/
def ColumnDefinition.integerType? (d : ColumnDefinition) : Option IntegerType :=
  if d.type = .year then some .int64
  else if d.type.isInteger then some (if d.isUnsigned then .uint64 else .int64)
  else none

namespace IntegerType

/-! ## Types of the host -/

/-- The type of the host that holds the numbers of an integer type. -/
def Host : IntegerType → Type
  | int8 => Int8
  | int16 => Int16
  | int32 => Int32
  | int64 => Int64
  | uint8 => UInt8
  | uint16 => UInt16
  | uint32 => UInt32
  | uint64 => UInt64

/-- The number that a member of a host type is. -/
def toInt : (t : IntegerType) → t.Host → Int
  | int8, (x : Int8) => x.toInt
  | int16, (x : Int16) => x.toInt
  | int32, (x : Int32) => x.toInt
  | int64, (x : Int64) => x.toInt
  | uint8, (x : UInt8) => x.toNat
  | uint16, (x : UInt16) => x.toNat
  | uint32, (x : UInt32) => x.toNat
  | uint64, (x : UInt64) => x.toNat

/-- A value, taken into a type of the host. -/
def ofValue : (t : IntegerType) → Value → Except ValueError t.Host
  | int8 => (OfValue.ofValue : Value → Except ValueError Int8)
  | int16 => (OfValue.ofValue : Value → Except ValueError Int16)
  | int32 => (OfValue.ofValue : Value → Except ValueError Int32)
  | int64 => (OfValue.ofValue : Value → Except ValueError Int64)
  | uint8 => (OfValue.ofValue : Value → Except ValueError UInt8)
  | uint16 => (OfValue.ofValue : Value → Except ValueError UInt16)
  | uint32 => (OfValue.ofValue : Value → Except ValueError UInt32)
  | uint64 => (OfValue.ofValue : Value → Except ValueError UInt64)

/-- The member of a host type that a number is. -/
def ofInt : (t : IntegerType) → Int → t.Host
  | int8, n => Int8.ofInt n
  | int16, n => Int16.ofInt n
  | int32, n => Int32.ofInt n
  | int64, n => Int64.ofInt n
  | uint8, n => UInt8.ofNat n.toNat
  | uint16, n => UInt16.ofNat n.toNat
  | uint32, n => UInt32.ofNat n.toNat
  | uint64, n => UInt64.ofNat n.toNat

variable {t range : IntegerType} {n : Int} {v : Value}

theorem holds_iff : t.holds n = true ↔ t.low ≤ n ∧ n < t.bound := by
  simp [holds]

/-- The numbers of an unsigned type are natural numbers that have room in it. -/
theorem toNat_of_holds (unsigned : t.isSigned = false) (held : t.holds n = true) :
    n.toNat < 2 ^ t.width ∧ (n.toNat : Int) = n := by
  have small := natAbs_lt_of_holds held
  have positive : 0 ≤ n := by
    have least := (holds_iff.mp held).1
    simpa [low, unsigned] using least
  omega

/-- A number of a type is a member of its host type. -/
theorem toInt_ofInt (held : t.holds n = true) : t.toInt (t.ofInt n) = n := by
  obtain ⟨least, most⟩ := holds_iff.mp held
  cases t with
  | int8 => exact Int8.toInt_ofInt_of_le least most
  | int16 => exact Int16.toInt_ofInt_of_le least most
  | int32 => exact Int32.toInt_ofInt_of_le least most
  | int64 => exact Int64.toInt_ofInt_of_le least most
  | uint8 =>
    obtain ⟨small, same⟩ := toNat_of_holds rfl held
    exact (congrArg Nat.cast (UInt8.toNat_ofNat_of_lt' small)).trans same
  | uint16 =>
    obtain ⟨small, same⟩ := toNat_of_holds rfl held
    exact (congrArg Nat.cast (UInt16.toNat_ofNat_of_lt' small)).trans same
  | uint32 =>
    obtain ⟨small, same⟩ := toNat_of_holds rfl held
    exact (congrArg Nat.cast (UInt32.toNat_ofNat_of_lt' small)).trans same
  | uint64 =>
    obtain ⟨small, same⟩ := toNat_of_holds rfl held
    exact (congrArg Nat.cast (UInt64.toNat_ofNat_of_lt' small)).trans same

/-- A member of a host type is a number of the type. -/
theorem holds_toInt (t : IntegerType) (x : t.Host) : t.holds (t.toInt x) = true := by
  rw [holds_iff]
  cases t with
  | int8 => exact ⟨Int8.le_toInt x, Int8.toInt_lt x⟩
  | int16 => exact ⟨Int16.le_toInt x, Int16.toInt_lt x⟩
  | int32 => exact ⟨Int32.le_toInt x, Int32.toInt_lt x⟩
  | int64 => exact ⟨Int64.le_toInt x, Int64.toInt_lt x⟩
  | uint8 => exact ⟨Int.natCast_nonneg _, Int.ofNat_lt.mpr (UInt8.toNat_lt x)⟩
  | uint16 => exact ⟨Int.natCast_nonneg _, Int.ofNat_lt.mpr (UInt16.toNat_lt x)⟩
  | uint32 => exact ⟨Int.natCast_nonneg _, Int.ofNat_lt.mpr (UInt32.toNat_lt x)⟩
  | uint64 => exact ⟨Int.natCast_nonneg _, Int.ofNat_lt.mpr (UInt64.toNat_lt x)⟩

/-! ## Conversions -/

theorem ofValue_eq (t : IntegerType) (v : Value) : t.ofValue v = (v.toInteger t).map t.ofInt := by
  cases t <;> rfl

/-- A value that is an integer is taken into the types that hold it. -/
theorem ofValue_of_integer? (number : v.integer? = some n) :
    t.ofValue v = if t.holds n then .ok (t.ofInt n) else .error (.outOfRange t.name) := by
  have taken : v.toInteger t = if t.holds n then .ok n else .error (.outOfRange t.name) := by
    unfold Value.toInteger
    split
    · cases number
    · rw [number]
  rw [ofValue_eq, taken]
  split <;> rfl

end IntegerType

namespace Value

open IntegerType

/-! ## Cells -/

/-- A cell is read from its text. -/
theorem readCell_encode {α : Type} (read? : String → Option α) (make : α → Value)
    (refuse : String → ValueError) (text : String) :
    readCell read? make refuse (Utf8.encode text) =
      match read? text with
      | some a => .ok (make a)
      | none => .error (refuse text) := by
  rw [readCell, cellText, Utf8.decode_encode]
  rfl

variable {column : ColumnDefinition} {t range : IntegerType} {n : Int} {v : Value}

/-- A cell of an integer column is read without a sign or with one, as its range says. -/
theorem ofCellBytes_eq_integerCell (integers : column.integerType? = some range) :
    ∃ isUnsigned : Bool, range = (if isUnsigned then .uint64 else .int64) ∧
      ∀ raw, ofCellBytes column raw = integerCell isUnsigned raw := by
  unfold ColumnDefinition.integerType? at integers
  split at integers
  · next year =>
    cases integers
    exact ⟨false, rfl, fun raw => by simp only [ofCellBytes, year]⟩
  · next other =>
    split at integers
    · next kind =>
      cases integers
      refine ⟨column.isUnsigned, rfl, fun raw => ?_⟩
      unfold ofCellBytes
      cases type : column.type <;> simp [type, ColumnType.isInteger] at kind other ⊢
    · cases integers

/-- An integer column has signed or unsigned numbers of 64 bits, and its cells are read as such. -/
theorem ofCellBytes_integer (integers : column.integerType? = some range) :
    (range = .int64 ∨ range = .uint64) ∧
      ∀ raw, ofCellBytes column raw = readCell range.ofText? (ofInteger range) .invalidNumber raw := by
  obtain ⟨isUnsigned, rfl, cell⟩ := ofCellBytes_eq_integerCell integers
  cases isUnsigned with
  | false => exact ⟨.inl rfl, cell⟩
  | true => exact ⟨.inr rfl, cell⟩

/-- A number of 64 bits is the integer of the value that it makes. -/
theorem integer?_ofInteger (wide : range = .int64 ∨ range = .uint64) (held : range.holds n = true) :
    (ofInteger range n).integer? = some n := by
  rcases wide with rfl | rfl
  · exact congrArg some (toInt_ofInt held)
  · exact congrArg some (toInt_ofInt held)

/-- A cell of an integer column has the number that its text denotes, or its text is refused. -/
theorem ofCell_integer (integers : column.integerType? = some range) (text : String) :
    (∃ n v, range.Reads text n ∧ ofCell column (some (Utf8.encode text)) = .ok v ∧
      v.integer? = some n) ∨
    ((∀ n, ¬ range.Reads text n) ∧
      ofCell column (some (Utf8.encode text)) = .error (.invalidNumber text)) := by
  obtain ⟨wide, reads⟩ := ofCellBytes_integer integers
  have read := (reads (Utf8.encode text)).trans (readCell_encode ..)
  cases found : range.ofText? text with
  | some n =>
    rw [found] at read
    have denoted := ofText?_eq_some_iff.mp found
    exact .inl ⟨n, _, denoted, read, integer?_ofInteger wide denoted.2.1⟩
  | none =>
    rw [found] at read
    refine .inr ⟨fun n denoted => ?_, read⟩
    cases found.symm.trans (ofText?_eq_some_iff.mpr denoted)

/-! ## Numbers of values -/

theorem asInt64?_eq_some_iff (number : v.integer? = some n) {x : Int64} :
    v.asInt64? = some x ↔ x.toInt = n := by
  rw [asInt64?, number, Option.map_eq_some_iff]
  constructor
  · rintro ⟨m, kept, rfl⟩
    obtain ⟨same, held⟩ := Option.filter_eq_some_iff.mp kept
    exact (toInt_ofInt (t := .int64) held).trans (Option.some.inj same).symm
  · rintro rfl
    have held : IntegerType.int64.holds x.toInt = true := holds_toInt .int64 x
    exact ⟨x.toInt, Option.filter_eq_some_iff.mpr ⟨rfl, held⟩, Int64.ofInt_toInt x⟩

theorem asUInt64?_eq_some_iff (number : v.integer? = some n) {x : UInt64} :
    v.asUInt64? = some x ↔ (x.toNat : Int) = n := by
  rw [asUInt64?, number, Option.map_eq_some_iff]
  constructor
  · rintro ⟨m, kept, rfl⟩
    obtain ⟨same, held⟩ := Option.filter_eq_some_iff.mp kept
    exact (toInt_ofInt (t := .uint64) held).trans (Option.some.inj same).symm
  · rintro rfl
    have held : IntegerType.uint64.holds x.toNat = true := holds_toInt .uint64 x
    exact ⟨x.toNat, Option.filter_eq_some_iff.mpr ⟨rfl, held⟩, UInt64.ofNat_toNat⟩

end Value

namespace IntegerType

variable {column : ColumnDefinition} {range : IntegerType}

/-- A text of an integer column comes out as the number that it denotes. It is a number of the column's
range and of the host's type, or there is an error that says which of the two does not have it; no
minus sign is read in a column without a sign, while the numbers of a year column always are signed. The
number is also what the value is as an integer of 64 bits, where that has room for it. -/
theorem ofValue_ofCell (integers : column.integerType? = some range) (t : IntegerType) (text : String) :
    let cell := Value.ofCell column (some (Utf8.encode text))
    let result := cell >>= t.ofValue
    (∀ x, result = .ok x → Digits.Denotes text.toList (t.toInt x)) ∧
      (∀ n, range.Reads text n → t.holds n = true → ∃ x, result = .ok x ∧ t.toInt x = n) ∧
      (∀ n, range.Reads text n → t.holds n = false → result = .error (.outOfRange t.name)) ∧
      ((∀ n, ¬ range.Reads text n) → result = .error (.invalidNumber text)) ∧
      (∀ v, cell = .ok v → ∃ n, range.Reads text n ∧ (∀ x, v.asInt64? = some x ↔ x.toInt = n) ∧
        (∀ x, v.asUInt64? = some x ↔ (x.toNat : Int) = n)) := by
  intro cell result
  obtain ⟨n, v, denoted, read, number⟩ | ⟨unread, read⟩ := Value.ofCell_integer integers text
  · have same {m : Int} (also : range.Reads text m) : m = n := also.1.unique denoted.1
    have converted : result = if t.holds n then .ok (t.ofInt n) else .error (.outOfRange t.name) := by
      simp only [result, cell, read]
      exact ofValue_of_integer? number
    refine ⟨?taken, ?held, ?large, fun unread => (unread n denoted).elim, ?value⟩
    case taken =>
      intro x ok
      rw [converted] at ok
      split at ok
      · next held =>
        cases ok
        rw [toInt_ofInt held]
        exact denoted.1
      · cases ok
    case held =>
      intro m also held
      obtain rfl := same also
      exact ⟨t.ofInt m, converted.trans (if_pos held), toInt_ofInt held⟩
    case large =>
      intro m also large
      obtain rfl := same also
      exact converted.trans (if_neg (by simp [large]))
    case value =>
      intro w ok
      obtain rfl := Except.ok.inj (read.symm.trans ok)
      exact ⟨n, denoted, fun _ => Value.asInt64?_eq_some_iff number,
        fun _ => Value.asUInt64?_eq_some_iff number⟩
  · have refused : result = .error (.invalidNumber text) := by
      simp only [result, cell, read]
      rfl
    refine ⟨?taken, fun m also => (unread m also).elim, fun m also => (unread m also).elim,
      fun _ => refused, ?value⟩
    case taken =>
      intro x ok
      cases refused.symm.trans ok
    case value =>
      intro v ok
      cases read.symm.trans ok

/-- A sign and zeros in front do not count, and a type refuses a number that is one too large for it. -/
theorem ofValue_ofCell_oneTooMany :
    let year := ColumnDefinition.new "founded" .year
    let cell := Value.ofCell year (some (Utf8.encode "+00256"))
    year.integerType? = some .int64 ∧
      (∃ x, cell >>= uint16.ofValue = .ok x ∧ uint16.toInt x = 256) ∧
      cell >>= uint8.ofValue = .error (.outOfRange "u8") := by
  have integers : (ColumnDefinition.new "founded" .year).integerType? = some .int64 := by decide
  have denoted : int64.Reads "+00256" 256 := ofText?_eq_some_iff.mp (by decide)
  obtain ⟨-, held, -⟩ := ofValue_ofCell integers .uint16 "+00256"
  obtain ⟨-, -, large, -⟩ := ofValue_ofCell integers .uint8 "+00256"
  exact ⟨integers, held 256 denoted (by decide), large 256 denoted (by decide)⟩

end IntegerType

end SqlWire
