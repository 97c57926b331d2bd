import SqlWire.Wire.Reader
import SqlWire.Wire.Writer

/-! # Text rows

A row is one field for each column: NULL, or the cell's text behind its length.
-/

namespace SqlWire

/-- The cells of a row before they are given their meaning; none is NULL. -/
abbrev RawRow := List (Option Bytes)

namespace RawRow

/-- The `count` cells ahead. -/
def readCells : Nat → Read RawRow
  | 0 => pure []
  | count + 1 => do
    let cell ← Read.lengthBytesOrNull
    return cell :: (← readCells count)

/-- A row of `count` cells with nothing after it. -/
def read (count : Nat) : Read RawRow := do
  let cells ← readCells count
  let left ← Read.remaining
  if left != 0 then throw (.trailingBytes left)
  return cells

def decode (count : Nat) (payload : Bytes) : Except ProtocolError RawRow :=
  (read count).decode payload

def cellField : Option Bytes → Bytes
  | none => Write.null
  | some text => Write.lengthBytes text

def encode (cells : RawRow) : Bytes := cells.flatMap cellField

end RawRow

end SqlWire
