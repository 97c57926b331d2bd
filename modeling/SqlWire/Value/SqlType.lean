import SqlWire.Text.Ascii
import SqlWire.Text.Blank

/-! # Types of parameters

The types that a server names when it describes the parameters of a routine.
-/

namespace SqlWire

inductive SqlType where
  | bit | tinyInt | smallInt | mediumInt | int | bigInt | float | double | decimal
  | char | varChar | text | binary | varBinary | blob | date | time | dateTime | timestamp
  | year | enumeration | set | json | geometry
deriving Repr, DecidableEq

namespace SqlType

/-- The spellings of each type, in lower case. -/
def spellings : List (SqlType × List String) :=
  [(bit, ["bit"]), (tinyInt, ["tinyint", "bool", "boolean"]), (smallInt, ["smallint"]),
    (mediumInt, ["mediumint"]), (int, ["int", "integer"]), (bigInt, ["bigint"]),
    (float, ["float"]), (double, ["double", "real"]), (decimal, ["decimal", "numeric"]),
    (char, ["char"]), (varChar, ["varchar"]),
    (text, ["tinytext", "text", "mediumtext", "longtext"]), (binary, ["binary"]),
    (varBinary, ["varbinary"]), (blob, ["tinyblob", "blob", "mediumblob", "longblob"]),
    (date, ["date"]), (time, ["time"]), (dateTime, ["datetime"]), (timestamp, ["timestamp"]),
    (year, ["year"]), (enumeration, ["enum"]), (set, ["set"]), (json, ["json"]),
    (geometry, ["geometry", "point", "linestring", "polygon", "multipoint", "multilinestring",
      "multipolygon", "geometrycollection"])]

/-- The type that a text names, in any case of letters and with blanks around it. -/
def ofDataType? (dataType : String) : Option SqlType :=
  let name := String.ofList (Ascii.lowered (trim dataType.toList))
  (spellings.find? fun (_, names) => names.contains name).map Prod.fst

def name : SqlType → String
  | bit => "BIT" | tinyInt => "TINYINT" | smallInt => "SMALLINT" | mediumInt => "MEDIUMINT"
  | int => "INT" | bigInt => "BIGINT" | float => "FLOAT" | double => "DOUBLE"
  | decimal => "DECIMAL" | char => "CHAR" | varChar => "VARCHAR" | text => "TEXT"
  | binary => "BINARY" | varBinary => "VARBINARY" | blob => "BLOB" | date => "DATE"
  | time => "TIME" | dateTime => "DATETIME" | timestamp => "TIMESTAMP" | year => "YEAR"
  | enumeration => "ENUM" | set => "SET" | json => "JSON" | geometry => "GEOMETRY"

def isInteger : SqlType → Bool
  | tinyInt | smallInt | mediumInt | int | bigInt | year => true
  | _ => false

def isBinary : SqlType → Bool
  | binary | varBinary | blob | geometry => true
  | _ => false

end SqlType

end SqlWire
