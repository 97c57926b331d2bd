/-! # Hexadecimal digits

Bytes are shown as two hexadecimal digits, in capitals inside messages and in lower case inside
identifiers.
-/

namespace SqlWire

namespace Hex

/-- The digit of a number below sixteen, with the letters starting at `ten`. -/
def digit (ten : Char) (n : Nat) : Char :=
  if n < 10 then Char.ofNat (n + 48) else Char.ofNat (n - 10 + ten.toNat)

/-- Two capital digits. -/
def upper (b : UInt8) : String :=
  String.ofList [digit 'A' (b.toNat / 16), digit 'A' (b.toNat % 16)]

/-- Two small digits. -/
def lower (b : UInt8) : List Char :=
  [digit 'a' (b.toNat / 16), digit 'a' (b.toNat % 16)]

/-- The value of a digit of either case. -/
def value? (c : Char) : Option Nat :=
  if '0' ≤ c && c ≤ '9' then some (c.toNat - 48)
  else if 'a' ≤ c && c ≤ 'f' then some (c.toNat - 87)
  else if 'A' ≤ c && c ≤ 'F' then some (c.toNat - 55)
  else none

/-- The number that digits denote without leading zeros, in capitals. -/
def number (n : Nat) (ten : Char) : List Char :=
  if n < 16 then [digit ten n] else number (n / 16) ten ++ [digit ten (n % 16)]
termination_by n

end Hex

end SqlWire
