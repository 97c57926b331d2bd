import SqlWire.Message.Column
import SqlWire.Message.Row
import SqlWire.Text.Ascii
import SqlWire.Value.Cell
import SqlWire.Value.OfValue

/-! # Rows

A row holds the values of its cells under the columns of its result. A cell is found by its place or
by the name of its column; of two columns with one name the first counts.
-/

namespace SqlWire

/-- The values of a row, with the columns of the result. -/
structure Row where
  columns : List ColumnDefinition
  values : List Value
deriving DecidableEq

namespace Row

/-- The row of cells under columns; what has no partner is left out. -/
def ofCells (columns : List ColumnDefinition) (cells : RawRow) : Except ValueError Row :=
  return ⟨columns, ← (cells.zip columns).mapM fun (cell, column) => Value.ofCell column cell⟩

/-- The place of the first column with a name, in any case of ASCII letters. -/
def indexOf? (row : Row) (name : String) : Option Nat :=
  row.columns.findIdx? fun column => Ascii.sameLetters column.name name

def value? (row : Row) (i : Nat) : Option Value := row.values[i]?

/-- The value at a place, taken into a type. -/
def get {α : Type} [OfValue α] (row : Row) (i : Nat) : Except ValueError α :=
  match row.value? i with
  | some v => OfValue.ofValue v
  | none => .error (.mismatch "valid column index" s!"index {i} out of bounds")

def getNamed {α : Type} [OfValue α] (row : Row) (name : String) : Except ValueError α :=
  match row.indexOf? name with
  | some i => row.get i
  | none => .error (.mismatch "valid column name" ("column '" ++ name ++ "' not found"))

/-- The value at a place if it is there, is not NULL and can be taken into a type. -/
def get? {α : Type} [OfValue α] (row : Row) (i : Nat) : Option α :=
  (row.value? i).bind fun v => (Value.nullable OfValue.ofValue v).toOption.join

/-- The value under a name if it is there, is not NULL and can be taken into a type. -/
def getNamed? {α : Type} [OfValue α] (row : Row) (name : String) : Option α :=
  (row.indexOf? name).bind row.get?

/-- Whether no value other than NULL is at a place. -/
def isNull (row : Row) (i : Nat) : Bool := (row.value? i).all Value.isNull

end Row

/-- What a server answers to one statement. -/
structure ResultSet where
  /-- The columns; a statement without rows has none. -/
  columns : List ColumnDefinition
  rows : List Row
  affectedRows : UInt64
  lastInsertId : UInt64
  warnings : UInt16
deriving DecidableEq

/-- Whether an answer is a table, which may have no rows. -/
def ResultSet.hasRows (r : ResultSet) : Bool := !r.columns.isEmpty

end SqlWire
