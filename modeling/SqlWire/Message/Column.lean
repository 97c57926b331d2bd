import SqlWire.Message.Greeting

/-! # Columns

A row set starts with the number of its columns and one definition for each.
-/

namespace SqlWire

/-- The type of a column's cells. -/
inductive ColumnType where
  | decimal | tiny | short | long | float | double | null | timestamp | longLong | int24
  | date | time | dateTime | year | varChar | bit | json | newDecimal | enumeration | set
  | tinyBlob | mediumBlob | longBlob | blob | varString | string | geometry
deriving Repr, DecidableEq

namespace ColumnType

/-- The byte of a type. -/
def code : ColumnType → UInt8
  | decimal => 0x00 | tiny => 0x01 | short => 0x02 | long => 0x03 | float => 0x04
  | double => 0x05 | null => 0x06 | timestamp => 0x07 | longLong => 0x08 | int24 => 0x09
  | date => 0x0A | time => 0x0B | dateTime => 0x0C | year => 0x0D | varChar => 0x0F
  | bit => 0x10 | json => 0xF5 | newDecimal => 0xF6 | enumeration => 0xF7 | set => 0xF8
  | tinyBlob => 0xF9 | mediumBlob => 0xFA | longBlob => 0xFB | blob => 0xFC
  | varString => 0xFD | string => 0xFE | geometry => 0xFF

def name : ColumnType → String
  | decimal => "Decimal" | tiny => "Tiny" | short => "Short" | long => "Long"
  | float => "Float" | double => "Double" | null => "Null" | timestamp => "Timestamp"
  | longLong => "LongLong" | int24 => "Int24" | date => "Date" | time => "Time"
  | dateTime => "DateTime" | year => "Year" | varChar => "VarChar" | bit => "Bit"
  | json => "Json" | newDecimal => "NewDecimal" | enumeration => "Enum" | set => "Set"
  | tinyBlob => "TinyBlob" | mediumBlob => "MediumBlob" | longBlob => "LongBlob"
  | blob => "Blob" | varString => "VarString" | string => "String" | geometry => "Geometry"

def all : List ColumnType :=
  [decimal, tiny, short, long, float, double, null, timestamp, longLong, int24, date, time,
    dateTime, year, varChar, bit, json, newDecimal, enumeration, set, tinyBlob, mediumBlob,
    longBlob, blob, varString, string, geometry]

def ofCode? (b : UInt8) : Option ColumnType := all.find? (·.code == b)

/-- The type of a byte, or the error that names the byte. -/
def ofCode (b : UInt8) : Except ProtocolError ColumnType :=
  match ofCode? b with
  | some t => .ok t
  | none => .error (.unknownColumnType b)

@[simp] theorem ofCode_code (t : ColumnType) : ofCode t.code = .ok t := by
  cases t <;> rfl

/-- The types whose cells are integers. -/
def isInteger : ColumnType → Bool
  | tiny | short | long | longLong | int24 | year => true
  | _ => false

/-- The types whose cells are byte strings. -/
def isBlob : ColumnType → Bool
  | tinyBlob | mediumBlob | longBlob | blob | geometry => true
  | _ => false

end ColumnType

structure ColumnDefinition where
  schema : String
  table : String
  originalTable : String
  name : String
  originalName : String
  collation : UInt16
  length : UInt32
  type : ColumnType
  flags : ColumnFlags
  decimals : UInt8
deriving Repr, DecidableEq

namespace ColumnDefinition

/-- The collation of byte strings that are no text. -/
def binaryCollation : UInt16 := 63

/-- A column of which only the name and the type are said. -/
def new (name : String) (type : ColumnType) : ColumnDefinition :=
  ⟨"", "", "", name, "", defaultCollation.toUInt16, 0, type, ⟨0⟩, 0⟩

def isUnsigned (d : ColumnDefinition) : Bool := d.flags.contains .isUnsigned

/-- Whether the column's cells are byte strings and no text. -/
def isBinary (d : ColumnDefinition) : Bool := d.collation == binaryCollation

/-- The announced length of the fixed fields. -/
def fixedLength : UInt64 := 12

def read : Read ColumnDefinition := do
  let _catalog ← Read.lengthBytes
  let schema ← Read.lengthText
  let table ← Read.lengthText
  let originalTable ← Read.lengthText
  let name ← Read.lengthText
  let originalName ← Read.lengthText
  let announced ← Read.length
  if announced < fixedLength then
    throw (.unexpectedEnd fixedLength.toNat announced.toNat)
  let collation ← Read.uint16
  let length ← Read.uint32
  let type ← Read.ofExcept (ColumnType.ofCode (← Read.byte))
  let flags ← Read.uint16
  let decimals ← Read.byte
  return ⟨schema, table, originalTable, name, originalName, collation, length, type,
    ColumnFlags.ofBits flags, decimals⟩

def decode (payload : Bytes) : Except ProtocolError ColumnDefinition := read.decode payload

def textField (text : String) : Bytes := Write.lengthBytes (Utf8.encode text)

/-- The payload of a definition; the catalog is always `def`. -/
def encode (d : ColumnDefinition) : Bytes :=
  textField "def"
    ++ textField d.schema
    ++ textField d.table
    ++ textField d.originalTable
    ++ textField d.name
    ++ textField d.originalName
    ++ Write.length fixedLength
    ++ Write.uint16 d.collation
    ++ Write.uint32 d.length
    ++ [d.type.code]
    ++ Write.uint16 d.flags.bits
    ++ [d.decimals, 0, 0]

end ColumnDefinition

def maxColumns : Nat := 4096

/-- The number of columns that a payload announces; bytes after it are not looked at. -/
def decodeColumnCount (payload : Bytes) : Except ProtocolError Nat :=
  Read.decode (α := Nat) (do
    let count := (← Read.length).toNat
    if maxColumns < count then throw (.tooManyColumns count maxColumns)
    return count) payload

def encodeColumnCount (count : Nat) : Bytes := Write.length (UInt64.ofNat count)

end SqlWire
