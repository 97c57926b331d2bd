import SqlWire.Routine.Name
import SqlWire.Statement.Parameter

/-! # Routines and their parameters

What a server tells about a routine, and how a caller's parameters are put in the order of the
routine's. What a function returns is found by its direction, every other parameter by the normal
form of its name.
-/

namespace SqlWire

/-- A parameter as the server describes it. -/
structure ParameterDescription where
  /-- The place among the parameters, from 1; what a function returns is at 0. -/
  position : UInt32
  direction : Direction
  name : Option String
  /-- The server's name of the type. -/
  dataType : String
  /-- The type, if its name is known. -/
  type : Option SqlType
  isUnsigned : Bool
deriving Repr, DecidableEq

/-- A routine with the parameters that it declares, in the order of their places. -/
structure Procedure where
  name : RoutineName
  parameters : List ParameterDescription
deriving Repr, DecidableEq

namespace Procedure

/-- A routine of parameters in any order; those of one place keep their order. -/
def ofParameters (name : RoutineName) (parameters : List ParameterDescription) : Procedure :=
  ⟨name, parameters.mergeSort fun a b => a.position ≤ b.position⟩

/-- The parameter that a caller gives for what a function returns. -/
def returned? (ps : Parameters) : Option Parameter :=
  List.find? (fun p => p.direction == some .returnValue) ps

/-- The parameter that a caller gives for a described one. -/
def given (routine : RoutineName) (ps : Parameters) (d : ParameterDescription) :
    Except BindingError Parameter :=
  match d.direction with
  | .returnValue =>
    match returned? ps with
    | some p => .ok p
    | none => .error (.missingReturn routine.qualified)
  | _ =>
    let name := d.name.getD ""
    match (ps.normalIndexOf? name).bind fun i => ps[i]? with
    | some p => .ok p
    | none => .error (.missingParameter name)

/-- A parameter with what its description adds to it. -/
def completed (d : ParameterDescription) (p : Parameter) : Parameter :=
  { p with direction := p.direction.or (some d.direction), type := p.type.or d.type }

/-- A caller's parameters in the order of the routine's. -/
def align (procedure : Procedure) (ps : Parameters) : Except BindingError Parameters :=
  procedure.parameters.mapM fun d => do
    return completed d (← given procedure.name ps d)

end Procedure

end SqlWire
