import SqlWire.Value.Basic

/-! # Values from typed data

The types whose members can be bound to a statement, each with the name that the server has for
it. An absent member of any of them is NULL.
-/

namespace SqlWire

/-- A type whose members are values. -/
class ToValue (α : Type) where
  /-- The value of a member. -/
  toValue : α → Value
  /-- The name of the member's type in the language of the server. -/
  sqlType : α → String

instance : ToValue Value := ⟨id, Value.typeName⟩
instance : ToValue Bool := ⟨.bool, fun _ => "BOOL"⟩
instance : ToValue Int8 := ⟨fun n => .int n.toInt64, fun _ => IntegerType.int8.sqlName⟩
instance : ToValue Int16 := ⟨fun n => .int n.toInt64, fun _ => IntegerType.int16.sqlName⟩
instance : ToValue Int32 := ⟨fun n => .int n.toInt64, fun _ => IntegerType.int32.sqlName⟩
instance : ToValue Int64 := ⟨.int, fun _ => IntegerType.int64.sqlName⟩
instance : ToValue UInt8 := ⟨fun n => .uint n.toUInt64, fun _ => IntegerType.uint8.sqlName⟩
instance : ToValue UInt16 := ⟨fun n => .uint n.toUInt64, fun _ => IntegerType.uint16.sqlName⟩
instance : ToValue UInt32 := ⟨fun n => .uint n.toUInt64, fun _ => IntegerType.uint32.sqlName⟩
instance : ToValue UInt64 := ⟨.uint, fun _ => IntegerType.uint64.sqlName⟩
instance : ToValue Single := ⟨.float, fun _ => "FLOAT"⟩
instance : ToValue Double := ⟨.double, fun _ => "DOUBLE"⟩
instance : ToValue String := ⟨.text, fun _ => "VARCHAR"⟩
instance : ToValue Bytes := ⟨.binary, fun _ => "VARBINARY"⟩
instance : ToValue Uuid := ⟨.uuid, fun _ => "CHAR(36)"⟩
instance : ToValue Decimal := ⟨.decimal, fun _ => "DECIMAL"⟩
instance : ToValue Date := ⟨.date, fun _ => "DATE"⟩
instance : ToValue TimeOfDay := ⟨.time, fun _ => "TIME"⟩
instance : ToValue DateTime := ⟨.dateTime, fun _ => "DATETIME"⟩
instance : ToValue Utc := ⟨fun t => .dateTime t.moment, fun _ => "DATETIME"⟩

instance {α : Type} [ToValue α] : ToValue (Option α) where
  toValue
    | some a => ToValue.toValue a
    | none => .null
  sqlType
    | some a => ToValue.sqlType a
    | none => "NULL"

end SqlWire
