import SqlWire.Message.Column
import SqlWire.Message.Reply
import SqlWire.Message.Row
import SqlWire.Number.Shortest

/-! # Prepared answers

A stand-in for a server has answers prepared, and sends each as the payloads that a server would
send. Of several answers to one statement every one but the last says that another follows; an error
says nothing of the kind, wherever it stands.
-/

namespace SqlWire

namespace Standin

/-- A cell of a prepared table. -/
inductive Scalar where
  | null
  | int (n : Int64)
  | uint (n : UInt64)
  | double (x : Double)
  | text (content : String)
  | bytes (content : Bytes)
deriving Repr, DecidableEq

namespace Scalar

/-- The type of a column that has only this cell. -/
def columnType : Scalar → ColumnType
  | null => .null
  | int _ => .longLong
  | uint _ => .longLong
  | double _ => .double
  | text _ => .varString
  | bytes _ => .blob

def cell : Scalar → Option Bytes
  | null => none
  | int n => some (Utf8.encode (String.ofList (Digits.ofInt n.toInt)))
  | uint n => some (Utf8.encode (String.ofList (Digits.ofNat n.toNat)))
  | double x => some (Utf8.encode (String.ofList (FloatStyle.plain.format .double x.bits.toNat)))
  | text content => some (Utf8.encode content)
  | bytes content => some content

end Scalar

structure Column where
  name : String
  type : ColumnType
  flags : ColumnFlags
deriving Repr, DecidableEq

def Column.definition (c : Column) : ColumnDefinition :=
  { ColumnDefinition.new c.name c.type with flags := c.flags }

/-- A prepared answer to a statement. -/
inductive Response where
  /-- A table of one cell. -/
  | scalar (value : Scalar)
  | table (columns : List Column) (rows : List (List Scalar))
  | error (reply : ErrorReply)
  | ok (affectedRows lastInsertId : UInt64)
  /-- Payloads as they are. -/
  | raw (payloads : List Bytes)
  /-- An answer that depends on the statement. -/
  | custom (answer : String → Response)
  /-- Several answers to one statement. -/
  | multiple (responses : List Response)

namespace Response

/-- The payload that says that a statement without a table has succeeded. -/
def okPayload (affectedRows lastInsertId : UInt64) (status : Status) : Bytes :=
  OkReply.encode ⟨affectedRows, lastInsertId, status, 0, ""⟩

/-- The payload that ends a list of columns or rows. -/
def eofPayload (status : Status) : Bytes := EofReply.encode ⟨0, status⟩

/-- The payloads of a table. The columns end with the server's status, and the rows with the
answer's. -/
def tablePayloads (server : Status) (columns : List Column) (rows : List (List Scalar))
    (status : Status) : List Bytes :=
  encodeColumnCount columns.length :: columns.map (fun c => c.definition.encode)
    ++ eofPayload server :: rows.map (fun row => RawRow.encode (row.map Scalar.cell))
    ++ [eofPayload status]

/-- The payloads of an answer that stands by itself. -/
def plainPayloads? (server status : Status) : Response → Option (List Bytes)
  | scalar value =>
    some (tablePayloads server [⟨"value", value.columnType, ⟨0⟩⟩] [[value]] status)
  | table columns rows => some (tablePayloads server columns rows status)
  | error reply => some [reply.encode]
  | ok affectedRows lastInsertId => some [okPayload affectedRows lastInsertId status]
  | raw payloads => some payloads
  | custom _ => none
  | multiple _ => none

/-- The payloads of one answer among several. -/
def singlePayloads? (sql : String) (server status : Status) : Response → Option (List Bytes)
  | custom answer => (answer sql).plainPayloads? server status
  | response => response.plainPayloads? server status

/-- The answers that a prepared answer consists of. -/
def parts : Response → List Response
  | multiple responses => responses
  | response => [response]

/-- The status of an answer after which `following` others come. -/
def statusBefore (following : Nat) (server : Status) : Status :=
  if following == 0 then server else server.union .moreResults

/-- The payloads of answers in turn, and whether each of them could be sent; what comes after one
that could not be is left out. -/
def partPayloads (sql : String) (server : Status) : List Response → List Bytes × Bool
  | [] => ([], true)
  | response :: rest =>
    match response.singlePayloads? sql server (statusBefore rest.length server) with
    | none => ([], false)
    | some payloads =>
      let (later, complete) := partPayloads sql server rest
      (payloads ++ later, complete)

/-- The payloads of a prepared answer, and whether all of it could be sent. -/
def payloads (sql : String) (server : Status) (response : Response) : List Bytes × Bool :=
  partPayloads sql server response.parts

end Response

end Standin

end SqlWire
