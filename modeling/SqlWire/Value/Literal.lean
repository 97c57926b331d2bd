import SqlWire.Number.Shortest
import SqlWire.Text.Utf8
import SqlWire.Value.Basic

/-! # Literals

A bound value is written into its statement as a literal. A string stands in single quotes: where
the server takes a backslash for itself only the quote is special and is doubled; otherwise the
quote, the backslash and four control characters are written behind a backslash.
-/

namespace SqlWire

structure LiteralOptions where
  /-- Whether a backslash in a string is a backslash. -/
  noBackslashEscapes : Bool
  /-- Whether identifiers are stored as sixteen bytes. -/
  oldGuids : Bool
deriving Repr, DecidableEq

namespace Literal

def quote : UInt8 := 0x27

def backslash : UInt8 := 0x5C

/-- A byte of a string where a backslash is a backslash. -/
def doubleQuote (b : UInt8) : Bytes := if b == quote then [quote, quote] else [b]

/-- A byte of a string where a backslash escapes what follows it. -/
def escape (b : UInt8) : Bytes :=
  if b == backslash then [backslash, backslash]
  else if b == quote then [backslash, quote]
  else if b == 0x00 then [backslash, 0x30]
  else if b == 0x0A then [backslash, 0x6E]
  else if b == 0x0D then [backslash, 0x72]
  else if b == 0x1A then [backslash, 0x5A]
  else [b]

def quoted (noBackslashEscapes : Bool) (raw : Bytes) : Bytes :=
  quote :: raw.flatMap (if noBackslashEscapes then doubleQuote else escape) ++ [quote]

/-- A byte string that is no text. -/
def binary (noBackslashEscapes : Bool) (raw : Bytes) : Bytes :=
  Utf8.encode "_binary" ++ quoted noBackslashEscapes raw

/-- Characters as they are. -/
def plain (text : List Char) : Bytes := Utf8.encode (String.ofList text)

/-- Characters in quotes, none of which needs an escape. -/
def bare (text : List Char) : Bytes := quote :: plain text ++ [quote]

/-- A floating-point number, which always has an exponent. -/
def float (f : BinaryFormat) (bits : Nat) : Except ValueError Bytes :=
  if f.isFinite bits then
    let text := FloatStyle.literal.format f bits
    .ok (plain (if text.contains 'e' then text else text ++ ['e', '0']))
  else .error .nonFinite

def ofValue (options : LiteralOptions) : Value → Except ValueError Bytes
  | .null => .ok (plain "NULL".toList)
  | .bool true => .ok (plain "TRUE".toList)
  | .bool false => .ok (plain "FALSE".toList)
  | .int v => .ok (plain (Digits.ofInt v.toInt))
  | .uint v => .ok (plain (Digits.ofNat v.toNat))
  | .float v => float .single v.bits.toNat
  | .double v => float .double v.bits.toNat
  | .text v => .ok (quoted options.noBackslashEscapes (Utf8.encode v))
  | .binary v => .ok (binary options.noBackslashEscapes v)
  | .decimal v => .ok (plain v.format)
  | .uuid v =>
    .ok (if options.oldGuids then binary options.noBackslashEscapes v.bytes else bare v.format)
  | .date v => .ok (bare v.format)
  | .time v => .ok (bare v.format)
  | .dateTime v => .ok (bare v.format)

end Literal

end SqlWire
