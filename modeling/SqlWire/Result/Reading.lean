import SqlWire.Client.Error
import SqlWire.Message.Reply
import SqlWire.Result.Row

/-! # Reading an answer

The answer to a statement is one result or several, and a status says after each whether another
follows. A result is a single reply, or a table: the number of its columns, their definitions, a
terminator, the rows and another terminator. A server that asks for a local file is told that there
is none, and goes on.

Reading is a step for each payload. A step that fails leaves the rest of the answer unread, unless
it fails at the answer's last payload.
-/

namespace SqlWire

/-- Where in an answer a reader is. -/
inductive AnswerPlace where
  /-- A result begins. -/
  | head
  /-- Definitions are still to come behind those that are known, of which the last is first; after
  them comes a terminator. -/
  | columns (missing : Nat) (known : List ColumnDefinition)
  /-- The columns are known, and so are rows, of which the last is first. -/
  | rows (columns : List ColumnDefinition) (known : List RawRow)
deriving Repr, DecidableEq

/-- What has been read of an answer. -/
structure AnswerReader where
  /-- The results that are complete. -/
  results : List ResultSet
  /-- The status that the server told last. -/
  status : Status
  place : AnswerPlace
deriving DecidableEq

namespace AnswerReader

def start (status : Status) : AnswerReader := ⟨[], status, .head⟩

/-- What follows a payload. -/
inductive Step where
  /-- The answer goes on. -/
  | more
  /-- The answer goes on after an empty payload from the client. -/
  | decline
  /-- The answer is complete. -/
  | complete
  | failed (cause : ClientError)
deriving Repr, DecidableEq

def finish (r : AnswerReader) (result : ResultSet) : AnswerReader × Step :=
  ({ r with results := r.results ++ [result], place := .head },
    if r.status.contains .moreResults then .more else .complete)

def plainResult (reply : OkReply) : ResultSet where
  columns := []
  rows := []
  affectedRows := reply.affectedRows
  lastInsertId := reply.lastInsertId
  warnings := reply.warnings

def tableResult (columns : List ColumnDefinition) (cells : List RawRow) (warnings : UInt16) :
    Except ValueError ResultSet := do
  return ⟨columns, ← cells.mapM (Row.ofCells columns), 0, 0, warnings⟩

/-- Reads the first payload of a result. -/
def stepHead (r : AnswerReader) (payload : Bytes) : AnswerReader × Step :=
  match payload with
  | [] => (r, .failed .emptyPayload)
  | header :: _ =>
    if header == Reply.okHeader then
      match OkReply.decode payload with
      | .error cause => (r, .failed (.protocol cause))
      | .ok reply => finish { r with status := reply.status } (plainResult reply)
    else if header == Reply.errorHeader then (r, .failed (.ofErrorPayload payload))
    else if header == Reply.localFileHeader then (r, .decline)
    else
      match decodeColumnCount payload with
      | .error cause => (r, .failed (.protocol cause))
      | .ok count => ({ r with place := .columns count [] }, .more)

/-- Reads a definition, or the terminator after the last. -/
def stepColumns (r : AnswerReader) (missing : Nat) (known : List ColumnDefinition)
    (payload : Bytes) : AnswerReader × Step :=
  match missing with
  | missing + 1 =>
    match ColumnDefinition.decode payload with
    | .error cause => (r, .failed (.protocol cause))
    | .ok column => ({ r with place := .columns missing (column :: known) }, .more)
  | 0 =>
    if Reply.isEof payload then ({ r with place := .rows known.reverse [] }, .more)
    else (r, .failed (.unexpected "column definitions terminator" (payload.headD 0)))

/-- Reads a row, or the terminator after the last. -/
def stepRows (r : AnswerReader) (columns : List ColumnDefinition) (known : List RawRow)
    (payload : Bytes) : AnswerReader × Step :=
  if Reply.isEof payload then
    match EofReply.decode payload with
    | .error cause => (r, .failed (.protocol cause))
    | .ok reply =>
      let r := { r with status := reply.status }
      match tableResult columns known.reverse reply.warnings with
      | .error cause => (r, .failed (.value cause))
      | .ok result => finish r result
  else if Reply.isError payload then (r, .failed (.ofErrorPayload payload))
  else
    match RawRow.decode columns.length payload with
    | .error cause => (r, .failed (.protocol cause))
    | .ok cells => ({ r with place := .rows columns (cells :: known) }, .more)

def step (r : AnswerReader) (payload : Bytes) : AnswerReader × Step :=
  match r.place with
  | .head => stepHead r payload
  | .columns missing known => stepColumns r missing known payload
  | .rows columns known => stepRows r columns known payload

end AnswerReader

namespace ResultSet

/-- The first table among results, or the last result if there is no table. -/
def firstTable (results : List ResultSet) : Except ClientError ResultSet :=
  match results.find? hasRows with
  | some result => .ok result
  | none =>
    match results.getLast? with
    | some result => .ok result
    | none => .error .emptyPayload

/-- How many rows were affected in all, on a counter of 64 bits. -/
def totalAffected (results : List ResultSet) : UInt64 :=
  results.foldl (fun total result => total + result.affectedRows) 0

end ResultSet

end SqlWire
