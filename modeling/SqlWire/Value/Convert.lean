import SqlWire.Text.Utf8
import SqlWire.Value.Basic

/-! # Converting values

A value is taken as a wanted type if it is of that kind or can be without loss. An integer goes
into any integer type that holds it, and a text can be read as a number or an identifier; a
floating-point number only becomes a wider one.
-/

namespace SqlWire

namespace Value

/-- The error of a value that is not of the expected kind. -/
def mismatch {α : Type} (expected : String) (v : Value) : Except ValueError α :=
  match v with
  | null => .error .unexpectedNull
  | _ => .error (.mismatch expected v.typeName)

def toInteger (t : IntegerType) (v : Value) : Except ValueError Int :=
  match v with
  | text s =>
    match t.ofText? s with
    | some n => .ok n
    | none => .error (.invalidNumber s)
  | _ =>
    match v.integer? with
    | some n => if t.holds n then .ok n else .error (.outOfRange t.name)
    | none => v.mismatch t.name

/-- A truth value, or whether an integer is not zero. -/
def toBool (v : Value) : Except ValueError Bool :=
  match v with
  | bool b => .ok b
  | int n => .ok (n != 0)
  | uint n => .ok (n != 0)
  | _ => v.mismatch "bool"

def toSingle (v : Value) : Except ValueError Single :=
  match v with
  | float x => .ok x
  | _ => v.mismatch "f32"

def toDouble (v : Value) : Except ValueError Double :=
  match v with
  | double x => .ok x
  | float x => .ok x.toDouble
  | _ => v.mismatch "f64"

/-- A text, or the text of bytes. -/
def toText (v : Value) : Except ValueError String :=
  match v with
  | text s => .ok s
  | binary bs =>
    match Utf8.decode bs with
    | .ok s => .ok s
    | .error e => .error (.invalidEncoding e.message)
  | _ => v.mismatch "String"

/-- Bytes, or the bytes of a text. -/
def toBytes (v : Value) : Except ValueError Bytes :=
  match v with
  | binary bs => .ok bs
  | text s => .ok (Utf8.encode s)
  | _ => v.mismatch "Vec<u8>"

/-- An identifier, or one read from text or bytes. -/
def toUuid (v : Value) : Except ValueError Uuid :=
  let checked : Except UuidError Uuid → Except ValueError Uuid :=
    Except.mapError fun e => .invalidUuid e.message
  match v with
  | uuid u => .ok u
  | text s => checked (Uuid.ofText s)
  | binary bs => checked (Uuid.ofBytes bs)
  | _ => v.mismatch "Uuid"

/-- A decimal number, or one read from text or an integer. -/
def toDecimal (v : Value) : Except ValueError Decimal :=
  let whole (n : Int) : Except ValueError Decimal :=
    match Decimal.ofInt? n with
    | some d => .ok d
    | none => .error (.outOfRange "Decimal")
  match v with
  | decimal d => .ok d
  | int n => whole n.toInt
  | uint n => whole n.toNat
  | text s => (Decimal.read s.toList).mapError fun e => .invalidDecimal e.message
  | _ => v.mismatch "Decimal"

/-- A date, or the date of a date and time. -/
def toDate (v : Value) : Except ValueError Date :=
  match v with
  | date d => .ok d
  | dateTime d => .ok d.date
  | _ => v.mismatch "NaiveDate"

/-- A time of day, or the time of a date and time. -/
def toTime (v : Value) : Except ValueError TimeOfDay :=
  match v with
  | time t => .ok t
  | dateTime d => .ok d.time
  | _ => v.mismatch "NaiveTime"

/-- A date and time, or the start of a date. -/
def toDateTime (v : Value) : Except ValueError DateTime :=
  match v with
  | dateTime d => .ok d
  | date d => .ok ⟨d, .midnight⟩
  | _ => v.mismatch "NaiveDateTime"

def toUtc (v : Value) : Except ValueError Utc :=
  match v with
  | dateTime d => .ok ⟨d⟩
  | _ => v.mismatch "DateTime<Utc>"

/-- A conversion that takes NULL for the absence of a value. -/
def nullable {α : Type} (convert : Value → Except ValueError α) (v : Value) :
    Except ValueError (Option α) :=
  if v.isNull then .ok none else (convert v).map some

def ofInteger (t : IntegerType) (n : Int) : Value :=
  if t.isSigned then .int (Int64.ofInt n) else .uint (UInt64.ofNat n.toNat)

end Value

end SqlWire
