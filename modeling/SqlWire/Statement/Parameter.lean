import SqlWire.Text.Blank
import SqlWire.Text.Lower
import SqlWire.Value.Basic
import SqlWire.Value.SqlType

/-! # Parameters

The values that a caller gives for a statement or a routine, in the caller's order. A name is
looked up as it is written first and by its normal form second; letters match in either case.
-/

namespace SqlWire

/-- Which way the value of a parameter goes. -/
inductive Direction where
  | input
  | output
  | inputOutput
  | returnValue
deriving Repr, DecidableEq

def Direction.name : Direction → String
  | input => "Input"
  | output => "Output"
  | inputOutput => "InputOutput"
  | returnValue => "ReturnValue"

def Direction.ofName? (text : String) : Option Direction :=
  [input, output, inputOutput, returnValue].find? fun direction => direction.name == text

/-- The direction that a routine's metadata give: a parameter without a mode is what a function
returns, and a mode that is not known is an input. -/
def Direction.ofMode : Option String → Direction
  | none => returnValue
  | some mode =>
    if Ascii.sameLetters mode "out" then output
    else if Ascii.sameLetters mode "inout" then inputOutput
    else input

namespace Name

/-- The characters between a quote at the start and the same quote at the end. -/
def between? (quote : Char) (name : List Char) : Option (List Char) :=
  match name with
  | [] => none
  | c :: rest => if c == quote && rest.getLast? == some quote then some rest.dropLast else none

/-- A name without the sign of a placeholder in front of it. -/
def withoutSign : List Char → List Char
  | '@' :: rest => rest
  | '?' :: rest => rest
  | name => name

/-- A name without blanks, then without one sign, then without one pair of quotes. -/
def normalChars (name : List Char) : List Char :=
  let bare := withoutSign (trim name)
  (['\x60', '\'', '"'].findSome? fun quote => between? quote bare).getD bare

def normal (name : String) : String := String.ofList (normalChars name.toList)

end Name

/-- A value with what the caller says about it. -/
structure Parameter where
  /-- The name, which is empty where the value is meant by its place. -/
  name : String
  value : Value
  direction : Option Direction
  type : Option SqlType
deriving DecidableEq

def Parameter.normalName (p : Parameter) : String := Name.normal p.name

/-- The parameters of a statement in the caller's order. -/
abbrev Parameters := List Parameter

namespace Parameters

/-- The place of the first parameter with a name as it is written. -/
def indexOf? (ps : Parameters) (name : String) : Option Nat :=
  ps.findIdx? fun p => sameIgnoringCase p.name name

/-- The place of the first parameter with the normal form of a name. -/
def normalIndexOf? (ps : Parameters) (name : String) : Option Nat :=
  let sought := Name.normal name
  ps.findIdx? fun p => sameIgnoringCase p.normalName sought

/-- The place of the parameter that is meant by a name. -/
def flexibleIndexOf? (ps : Parameters) (name : String) : Option Nat :=
  (ps.indexOf? name).or (ps.normalIndexOf? name)

/-- The parameter that is meant by a name. -/
def named? (ps : Parameters) (name : String) : Option Parameter :=
  (ps.flexibleIndexOf? name).bind fun i => ps[i]?

end Parameters

end SqlWire
