import SqlWire.Routine.Procedure
import SqlWire.Session.Run
import SqlWire.Text.Ascii

/-! # Asking a server about a routine

The server keeps a row for each parameter of a routine, with its place, mode, name and type. A type
is unsigned if its full text says so.
-/

namespace SqlWire

/-- Whether a text occurs in another. -/
def occursIn (part : List Char) : List Char → Bool
  | [] => part.isEmpty
  | c :: rest => part.isPrefixOf (c :: rest) || occursIn part rest

namespace ParameterDescription

/-- The description in a row of place, mode, name, type and full text of the type. The first cell
that cannot be taken decides the error: the mode is looked at first, then the types, the place and
the name. -/
def ofRow (row : Row) : Except ValueError ParameterDescription := do
  let mode : Option String ← row.get 1
  let dataType : String ← row.get 3
  let fullType : String ← row.get 4
  let position : UInt32 ← row.get 0
  let name : Option String ← row.get 2
  return {
    position, name, dataType
    direction := .ofMode mode
    type := SqlType.ofDataType? dataType
    isUnsigned := occursIn "unsigned".toList (Ascii.lowered fullType.toList) }

end ParameterDescription

namespace Procedure

/-- The statement that asks for the parameters of a routine. -/
def parametersQuery : String :=
  "SELECT ORDINAL_POSITION, PARAMETER_MODE, PARAMETER_NAME, DATA_TYPE, DTD_IDENTIFIER"
    ++ " FROM information_schema.parameters"
    ++ " WHERE SPECIFIC_SCHEMA = @schema AND SPECIFIC_NAME = @component"
    ++ " ORDER BY ORDINAL_POSITION"

def queryParameters (name : RoutineName) : Parameters :=
  [⟨"@schema", .text name.schema, none, none⟩, ⟨"@component", .text name.component, none, none⟩]

/-- The routine that an answer describes. -/
def ofResult (name : RoutineName) (result : ResultSet) : Except ClientError Procedure := do
  return ofParameters name (← (result.rows.mapM ParameterDescription.ofRow).mapError .value)

def fetch {ω : Type} [Network ω] (name : RoutineName) (s : Session) (w : ω) :
    Except ClientError Procedure × Session × ω :=
  let (result, s, w) := s.queryWith parametersQuery (queryParameters name) w
  (result.bind (ofResult name), s, w)

end Procedure

end SqlWire
