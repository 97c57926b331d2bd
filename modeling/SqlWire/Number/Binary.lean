import SqlWire.Text.Digits

/-! # Binary floating-point numbers

A floating-point value is its bit pattern: a sign, a biased exponent and a fraction. This module
takes patterns apart into `m · 2 ^ q`, rounds a quotient of natural numbers to the nearest pattern
(a tie goes to the even one), and reads numbers from text.
-/

namespace SqlWire

/-- The widths of a binary format. -/
structure BinaryFormat where
  /-- Stored fraction bits. -/
  fraction : Nat
  /-- Exponent bits. -/
  exponent : Nat
deriving Repr, DecidableEq

namespace BinaryFormat

/-- Four bytes: 23 fraction bits and 8 exponent bits. -/
def single : BinaryFormat := ⟨23, 8⟩

/-- Eight bytes: 52 fraction bits and 11 exponent bits. -/
def double : BinaryFormat := ⟨52, 11⟩

/-- The biased exponent of infinities and NaNs. -/
def topExponent (f : BinaryFormat) : Nat := 2 ^ f.exponent - 1

/-- The power of two of the last place of the smallest numbers. -/
def minPlace (f : BinaryFormat) : Int := 2 - 2 ^ (f.exponent - 1) - f.fraction

/-- Whether the sign bit is set. -/
def isNegative (f : BinaryFormat) (bits : Nat) : Bool :=
  bits / 2 ^ (f.fraction + f.exponent) % 2 == 1

def exponentField (f : BinaryFormat) (bits : Nat) : Nat :=
  bits / 2 ^ f.fraction % 2 ^ f.exponent

def fractionField (f : BinaryFormat) (bits : Nat) : Nat := bits % 2 ^ f.fraction

/-- Neither an infinity nor a NaN. -/
def isFinite (f : BinaryFormat) (bits : Nat) : Bool := f.exponentField bits != f.topExponent

/-- No number at all. -/
def isNaN (f : BinaryFormat) (bits : Nat) : Bool :=
  f.exponentField bits == f.topExponent && f.fractionField bits != 0

/-- The magnitude of a finite pattern as `m · 2 ^ q`. -/
def magnitude (f : BinaryFormat) (bits : Nat) : Nat × Int :=
  match f.exponentField bits with
  | 0 => (f.fractionField bits, f.minPlace)
  | e + 1 => (2 ^ f.fraction + f.fractionField bits, f.minPlace + e)

/-- The pattern with the sign bit set or not. -/
def withSign (f : BinaryFormat) (negative : Bool) (bits : Nat) : Nat :=
  if negative then bits + 2 ^ (f.fraction + f.exponent) else bits

def infinity (f : BinaryFormat) : Nat := f.topExponent * 2 ^ f.fraction

/-- The NaN that text denotes. -/
def quietNaN (f : BinaryFormat) : Nat := f.infinity + 2 ^ (f.fraction - 1)

/-- A quotient rounded to the nearest natural number, a tie to the even one. -/
def divHalfEven (num den : Nat) : Nat :=
  let n := num / den
  let twice := 2 * (num % den)
  if den < twice || (twice == den && n % 2 == 1) then n + 1 else n

/-- The greatest `e` with `2 ^ e ≤ num / den`, for positive numbers. -/
def floorLog2 (num den : Nat) : Int :=
  let guess : Int := (num.log2 : Int) - den.log2
  if num * 2 ^ (-guess).toNat < den * 2 ^ guess.toNat then guess - 1 else guess

/-- The pattern nearest to a positive quotient: the carry out of the fraction raises the exponent,
and what is too great becomes infinity. -/
def round (f : BinaryFormat) (num den : Nat) : Nat :=
  if num == 0 then 0 else
  let place := max f.minPlace (floorLog2 num den - f.fraction)
  let m := divHalfEven (num * 2 ^ (-place).toNat) (den * 2 ^ place.toNat)
  min f.infinity ((place - f.minPlace).toNat * 2 ^ f.fraction + m)

/-- Digits behind this many count only as whether any of them is not zero: no number halfway between
two neighbours has as many digits. -/
def maxDigits : Nat := 800

/-- The nearest pattern to `digits · 10 ^ exponent`, where the first digit is not zero. What is out of
reach of every format is not computed. -/
def ofLeading (f : BinaryFormat) (digits : List Char) (exponent : Int) : Nat :=
  let size : Int := digits.length + exponent
  if digits.isEmpty then 0
  else if 400 < size then f.infinity
  else if size < -400 then 0
  else
    let tail := digits.drop maxDigits
    let digits := digits.take maxDigits ++ (if tail.all (· == '0') then [] else ['1'])
    let exponent := size - digits.length
    f.round (Digits.number digits * 10 ^ exponent.toNat) (10 ^ (-exponent).toNat)

/-- The nearest pattern to `digits · 10 ^ exponent`. -/
def ofScientific (f : BinaryFormat) (digits : List Char) (exponent : Int) : Nat :=
  f.ofLeading (digits.dropWhile (· == '0')) exponent

/-- An exponent that has reached this takes in no more digits. -/
def maxExponent : Nat := 2 ^ 16

/-- The number of an exponent's digits. -/
def exponentNumber (digits : List Char) : Nat :=
  digits.foldl (fun n c => if n < maxExponent then 10 * n + Digits.value c else n) 0

/-- The number of an exponent without its sign: digits and nothing else. -/
def readExponentDigits? (digits : List Char) : Option Nat :=
  if !digits.isEmpty && digits.all Char.isDigit then some (exponentNumber digits) else none

/-- The exponent behind a number: nothing, or a mark and an integer. -/
def readExponent? : List Char → Option Int
  | [] => some 0
  | mark :: rest =>
    if mark == 'e' || mark == 'E' then
      match rest with
      | '-' :: digits => (readExponentDigits? digits).map fun n => -(n : Int)
      | '+' :: digits => (readExponentDigits? digits).map Int.ofNat
      | digits => (readExponentDigits? digits).map Int.ofNat
    else none

/-- The pattern of digits with or without a point and an exponent; at least one digit stands beside
the point. -/
def readNumber? (f : BinaryFormat) (text : List Char) : Option Nat :=
  let (whole, rest) := text.span Char.isDigit
  let (part, rest) := match rest with
    | '.' :: rest => rest.span Char.isDigit
    | _ => ([], rest)
  if whole.isEmpty && part.isEmpty then none
  else (readExponent? rest).map fun e => f.ofScientific (whole ++ part) (e - part.length)

/-- The pattern of a number without a sign, or of the words for infinity and NaN in any case. -/
def readMagnitude? (f : BinaryFormat) (text : List Char) : Option Nat :=
  let word := String.ofList (text.map Char.toLower)
  if word == "inf" || word == "infinity" then some f.infinity
  else if word == "nan" then some f.quietNaN
  else f.readNumber? text

/-- The pattern nearest to the number that a text denotes. -/
def read? (f : BinaryFormat) : List Char → Option Nat
  | '-' :: rest => (f.readMagnitude? rest).map (f.withSign true)
  | '+' :: rest => f.readMagnitude? rest
  | text => f.readMagnitude? text

end BinaryFormat

/-- A four-byte floating-point number. -/
structure Single where
  bits : UInt32
deriving Repr, DecidableEq

/-- An eight-byte floating-point number. -/
structure Double where
  bits : UInt64
deriving Repr, DecidableEq

namespace Single

def isFinite (x : Single) : Bool := BinaryFormat.single.isFinite x.bits.toNat

def ofText? (text : String) : Option Single :=
  (BinaryFormat.single.read? text.toList).map fun n => ⟨UInt32.ofNat n⟩

/-- The same number in eight bytes. A NaN keeps its sign and its fraction, which moves to the
high end, and becomes quiet. -/
def toDouble (x : Single) : Double :=
  let n := x.bits.toNat
  let wide :=
    if BinaryFormat.single.isNaN n then
      BinaryFormat.double.infinity + BinaryFormat.single.fractionField n % 2 ^ 22 * 2 ^ 29 + 2 ^ 51
    else if x.isFinite then
      let (m, q) := BinaryFormat.single.magnitude n
      BinaryFormat.double.round (m * 2 ^ q.toNat) (2 ^ (-q).toNat)
    else BinaryFormat.double.infinity
  ⟨UInt64.ofNat (BinaryFormat.double.withSign (BinaryFormat.single.isNegative n) wide)⟩

end Single

namespace Double

def isFinite (x : Double) : Bool := BinaryFormat.double.isFinite x.bits.toNat

def ofText? (text : String) : Option Double :=
  (BinaryFormat.double.read? text.toList).map fun n => ⟨UInt64.ofNat n⟩

end Double

end SqlWire
