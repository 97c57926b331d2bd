import SqlWire.Bytes
import SqlWire.Calendar.Basic
import SqlWire.Number.Binary
import SqlWire.Number.Decimal
import SqlWire.Number.IntegerType
import SqlWire.Value.Uuid
import SqlWire.Wire.Error

/-! # Values

What a cell of a result or a parameter of a statement can be.
-/

namespace SqlWire

/-- A value of a cell or a parameter. -/
inductive Value where
  | null
  | bool (v : Bool)
  | int (v : Int64)
  | uint (v : UInt64)
  | float (v : Single)
  | double (v : Double)
  | text (v : String)
  | binary (v : Bytes)
  | decimal (v : Decimal)
  | uuid (v : Uuid)
  | date (v : Date)
  | time (v : TimeOfDay)
  | dateTime (v : DateTime)
deriving DecidableEq

inductive ValueError where
  /-- NULL where a value is needed. -/
  | unexpectedNull
  /-- A value of another kind. -/
  | mismatch (expected found : String)
  /-- An integer that the wanted type does not hold. -/
  | outOfRange (target : String)
  /-- Bytes that are no text. -/
  | invalidEncoding (reason : String)
  /-- A text that is no number. -/
  | invalidNumber (text : String)
  /-- An infinity or a NaN, which has no literal. -/
  | nonFinite
  /-- A text that is no date or time. -/
  | invalidDateTime (text : String)
  /-- A text that is no decimal number. -/
  | invalidDecimal (reason : String)
  /-- Something that is no identifier. -/
  | invalidUuid (reason : String)
deriving Repr, DecidableEq

def ValueError.label : ValueError → String
  | unexpectedNull => "UnexpectedNull"
  | mismatch .. => "TypeMismatch"
  | outOfRange .. => "OutOfRange"
  | invalidEncoding .. => "InvalidEncoding"
  | invalidNumber .. => "InvalidNumber"
  | nonFinite => "NonFiniteFloat"
  | invalidDateTime .. => "InvalidDateTime"
  | invalidDecimal .. => "InvalidDecimal"
  | invalidUuid .. => "InvalidUuid"

def ValueError.message : ValueError → String
  | unexpectedNull => "unexpected null value"
  | mismatch expected found => s!"type mismatch: expected {expected}, got {found}"
  | outOfRange target => s!"value out of range for {target}"
  | invalidEncoding reason => s!"invalid string encoding: {reason}"
  | invalidNumber text => s!"invalid number: {text}"
  | nonFinite => "non-finite floating-point value cannot be sent as a literal"
  | invalidDateTime text => s!"invalid date/time: {text}"
  | invalidDecimal reason => s!"invalid decimal: {reason}"
  | invalidUuid reason => s!"invalid UUID: {reason}"

namespace Value

def isNull : Value → Bool
  | null => true
  | _ => false

def typeName : Value → String
  | null => "NULL"
  | bool _ => "BOOL"
  | int _ => "BIGINT"
  | uint _ => "BIGINT UNSIGNED"
  | float _ => "FLOAT"
  | double _ => "DOUBLE"
  | text _ => "VARCHAR"
  | binary _ => "VARBINARY"
  | decimal _ => "DECIMAL"
  | uuid _ => "UUID"
  | date _ => "DATE"
  | time _ => "TIME"
  | dateTime _ => "DATETIME"

/-- A truth value, or an integer that is 0 or 1. -/
def asBool? : Value → Option Bool
  | bool v => some v
  | int v => if v = 0 then some false else if v = 1 then some true else none
  | uint v => if v = 0 then some false else if v = 1 then some true else none
  | _ => none

/-- The integer that a value is, a truth value being 0 or 1. -/
def integer? : Value → Option Int
  | int v => some v.toInt
  | uint v => some v.toNat
  | bool v => some (if v then 1 else 0)
  | _ => none

def asInt64? (v : Value) : Option Int64 :=
  (v.integer?.filter IntegerType.int64.holds).map Int64.ofInt

def asUInt64? (v : Value) : Option UInt64 :=
  (v.integer?.filter IntegerType.uint64.holds).map fun n => UInt64.ofNat n.toNat

def asDouble? : Value → Option Double
  | double v => some v
  | float v => some v.toDouble
  | _ => none

def asText? : Value → Option String
  | text v => some v
  | _ => none

def asBytes? : Value → Option Bytes
  | binary v => some v
  | _ => none

end Value

instance : ErrorText ValueError := ⟨ValueError.label, ValueError.message⟩

end SqlWire
