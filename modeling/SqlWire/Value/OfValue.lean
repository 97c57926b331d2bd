import SqlWire.Value.Convert

/-! # Typed data from values

The types into which a value can be taken. An absent member of any of them stands for NULL.
-/

namespace SqlWire

/-- A type into which values can be taken. -/
class OfValue (α : Type) where
  /-- The member that a value is, or why it is none. -/
  ofValue : Value → Except ValueError α

instance : OfValue Value := ⟨Except.ok⟩
instance : OfValue Bool := ⟨Value.toBool⟩
instance : OfValue Int8 := ⟨fun v => Int8.ofInt <$> v.toInteger .int8⟩
instance : OfValue Int16 := ⟨fun v => Int16.ofInt <$> v.toInteger .int16⟩
instance : OfValue Int32 := ⟨fun v => Int32.ofInt <$> v.toInteger .int32⟩
instance : OfValue Int64 := ⟨fun v => Int64.ofInt <$> v.toInteger .int64⟩
instance : OfValue UInt8 := ⟨fun v => (fun n => UInt8.ofNat n.toNat) <$> v.toInteger .uint8⟩
instance : OfValue UInt16 := ⟨fun v => (fun n => UInt16.ofNat n.toNat) <$> v.toInteger .uint16⟩
instance : OfValue UInt32 := ⟨fun v => (fun n => UInt32.ofNat n.toNat) <$> v.toInteger .uint32⟩
instance : OfValue UInt64 := ⟨fun v => (fun n => UInt64.ofNat n.toNat) <$> v.toInteger .uint64⟩
instance : OfValue Single := ⟨Value.toSingle⟩
instance : OfValue Double := ⟨Value.toDouble⟩
instance : OfValue String := ⟨Value.toText⟩
instance : OfValue Bytes := ⟨Value.toBytes⟩
instance : OfValue Uuid := ⟨Value.toUuid⟩
instance : OfValue Decimal := ⟨Value.toDecimal⟩
instance : OfValue Date := ⟨Value.toDate⟩
instance : OfValue TimeOfDay := ⟨Value.toTime⟩
instance : OfValue DateTime := ⟨Value.toDateTime⟩
instance : OfValue Utc := ⟨Value.toUtc⟩

instance {α : Type} [OfValue α] : OfValue (Option α) := ⟨Value.nullable OfValue.ofValue⟩

end SqlWire
