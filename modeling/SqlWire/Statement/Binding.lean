import SqlWire.Client.Error
import SqlWire.Message.Command
import SqlWire.Statement.Parameter
import SqlWire.Statement.Token
import SqlWire.Value.Literal

/-! # Binding

Each placeholder of a statement gives way to the literal of a parameter, and all else stays as it
is. The n-th question mark takes the n-th parameter, named or not; a name takes the parameter that
it means. The first placeholder that cannot be filled decides the error.
-/

namespace SqlWire

structure BindingOptions where
  /-- Whether a name without a parameter is left to the server as a variable. -/
  allowUserVariables : Bool
  /-- Whether identifiers are stored as sixteen bytes. -/
  oldGuids : Bool
  /-- Whether a backslash in a string is a backslash. -/
  noBackslashEscapes : Bool
deriving Repr, DecidableEq

namespace BindingOptions

/-- The options of which each bit sets one. -/
def ofBits (bits : Nat) : BindingOptions := ⟨bits.testBit 0, bits.testBit 1, bits.testBit 2⟩

def bits (o : BindingOptions) : Nat :=
  o.allowUserVariables.toNat + 2 * o.oldGuids.toNat + 4 * o.noBackslashEscapes.toNat

def literals (o : BindingOptions) : LiteralOptions := ⟨o.noBackslashEscapes, o.oldGuids⟩

end BindingOptions

namespace Binding

def literal (options : BindingOptions) (p : Parameter) : Except ClientError Bytes :=
  (Literal.ofValue options.literals p.value).mapError .value

/-- What a name becomes. -/
def named (options : BindingOptions) (ps : Parameters) (text : Bytes) :
    Except ClientError Bytes :=
  let name := Utf8.decodeLossy text
  match ps.named? name with
  | some p => literal options p
  | none =>
    if options.allowUserVariables then .ok text
    else .error (.binding (.undefinedName name))

/-- What the question mark after `count` others becomes. -/
def positional (options : BindingOptions) (ps : Parameters) (count : Nat) :
    Except ClientError Bytes :=
  match ps[count]? with
  | some p => literal options p
  | none => .error (.binding (.tooFewParameters ps.length))

/-- What tokens become behind `count` question marks. -/
def tokens (options : BindingOptions) (ps : Parameters) :
    Nat → List Token → Except ClientError (List Bytes)
  | _, [] => .ok []
  | count, .plain text :: rest => do
    return text :: (← tokens options ps count rest)
  | count, .named text :: rest => do
    let filled ← named options ps text
    return filled :: (← tokens options ps count rest)
  | count, .positional :: rest => do
    let filled ← positional options ps count
    return filled :: (← tokens options ps (count + 1) rest)

/-- A statement with its placeholders filled; one of blanks alone becomes empty. -/
def statement (options : BindingOptions) (ps : Parameters) (sql : String) :
    Except ClientError Bytes :=
  if sql.toList.all isBlank then .ok []
  else return (← tokens options ps 0 (Token.cut (Utf8.encode sql))).flatten

/-- The payload that asks the server to run a statement with its placeholders filled. -/
def payload (options : BindingOptions) (ps : Parameters) (sql : String) :
    Except ClientError Bytes := do
  return Command.query.tag :: (← statement options ps sql)

end Binding

end SqlWire
