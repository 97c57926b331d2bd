import SqlWire.Text.Digits

/-! # Integer types

The integer types of one, two, four and eight bytes, with and without a sign: which numbers they
hold and how those are read from text.
-/

namespace SqlWire

inductive IntegerType where
  | int8 | int16 | int32 | int64 | uint8 | uint16 | uint32 | uint64
deriving Repr, DecidableEq

namespace IntegerType

/-- The name of a type in error messages. -/
def name : IntegerType → String
  | int8 => "i8" | int16 => "i16" | int32 => "i32" | int64 => "i64"
  | uint8 => "u8" | uint16 => "u16" | uint32 => "u32" | uint64 => "u64"

def isSigned : IntegerType → Bool
  | int8 | int16 | int32 | int64 => true
  | _ => false

def width : IntegerType → Nat
  | int8 | uint8 => 8
  | int16 | uint16 => 16
  | int32 | uint32 => 32
  | int64 | uint64 => 64

/-- The least number of a type. -/
def low (t : IntegerType) : Int := if t.isSigned then -(2 ^ (t.width - 1)) else 0

/-- One more than the greatest number of a type. -/
def bound (t : IntegerType) : Int := if t.isSigned then 2 ^ (t.width - 1) else 2 ^ t.width

def holds (t : IntegerType) (n : Int) : Bool := t.low ≤ n && n < t.bound

def ofText? (t : IntegerType) (text : String) : Option Int :=
  (Digits.toIntBelow? (2 ^ t.width) t.isSigned text.toList).filter t.holds

/-- The name that a type has in the language of the server. -/
def sqlName : IntegerType → String
  | int8 => "TINYINT" | int16 => "SMALLINT" | int32 => "INT" | int64 => "BIGINT"
  | uint8 => "TINYINT UNSIGNED" | uint16 => "SMALLINT UNSIGNED"
  | uint32 => "INT UNSIGNED" | uint64 => "BIGINT UNSIGNED"

end IntegerType

end SqlWire
