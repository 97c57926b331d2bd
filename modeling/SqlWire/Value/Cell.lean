import SqlWire.Calendar.Reading
import SqlWire.Message.Column
import SqlWire.Value.Basic

/-! # Cells

A server sends the cells of a row as text; the definition of the column says what they mean.
-/

namespace SqlWire

namespace Value

def cellText (raw : Bytes) : Except ValueError String :=
  match Utf8.decode raw with
  | .ok s => .ok s
  | .error e => .error (.invalidEncoding e.message)

/-- What a reader makes of a cell's text, or the error that a refusal means. -/
def readCell {α : Type} (read? : String → Option α) (make : α → Value)
    (refuse : String → ValueError) (raw : Bytes) : Except ValueError Value := do
  let s ← cellText raw
  match read? s with
  | some a => .ok (make a)
  | none => .error (refuse s)

def integerCell (isUnsigned : Bool) (raw : Bytes) : Except ValueError Value :=
  if isUnsigned then
    readCell IntegerType.uint64.ofText? (fun n => .uint (UInt64.ofNat n.toNat)) .invalidNumber raw
  else readCell IntegerType.int64.ofText? (fun n => .int (Int64.ofInt n)) .invalidNumber raw

def decimalCell (raw : Bytes) : Except ValueError Value := do
  let s ← cellText raw
  match Decimal.read s.toList with
  | .ok d => .ok (.decimal d)
  | .error e => .error (.invalidDecimal e.message)

/-- A bit field is a big-endian integer, of which the last eight bytes count. -/
def bitCell (raw : Bytes) : Value :=
  .uint ((raw.drop (raw.length - 8)).foldl (fun n b => n * 256 + b.toUInt64) 0)

/-- A cell whose column says only whether it is text. -/
def plainCell (isBinary : Bool) (raw : Bytes) : Except ValueError Value :=
  if isBinary then .ok (.binary raw) else do return .text (← cellText raw)

/-- The value of a cell that is not NULL. -/
def ofCellBytes (column : ColumnDefinition) (raw : Bytes) : Except ValueError Value :=
  match column.type with
  | .null => .ok .null
  | .tiny | .short | .int24 | .long | .longLong => integerCell column.isUnsigned raw
  | .year => integerCell false raw
  | .float => readCell Single.ofText? .float .invalidNumber raw
  | .double => readCell Double.ofText? .double .invalidNumber raw
  | .decimal | .newDecimal => decimalCell raw
  | .date => readCell Date.ofText? .date .invalidDateTime raw
  | .time => readCell TimeOfDay.ofText? .time .invalidDateTime raw
  | .dateTime | .timestamp => readCell DateTime.ofText? .dateTime .invalidDateTime raw
  | .bit => .ok (bitCell raw)
  | .json => plainCell false raw
  | .geometry => plainCell true raw
  | _ => plainCell column.isBinary raw

def ofCell (column : ColumnDefinition) : Option Bytes → Except ValueError Value
  | none => .ok .null
  | some raw => ofCellBytes column raw

end Value

end SqlWire
