import SqlWire.Number.Binary

/-! # Shortest decimal text

A finite pattern is written with the fewest decimal digits that read back as the same pattern, and
among those with the digits nearest to its value. The numbers that read back form an interval
around the value, with its ends if the significand is even; `shortest` looks for the coarsest
decimal grid with a point in the interval, trying the two neighbours of the value on each grid.
-/

namespace SqlWire

/-- A positive value and the interval that rounds to it, as numerators over one denominator. -/
structure Interval where
  low : Nat
  value : Nat
  high : Nat
  den : Nat
  /-- Whether the ends belong to the interval. -/
  closed : Bool
deriving Repr, DecidableEq

namespace Interval

/-- The interval that rounds to `m · 2 ^ q`. Below the least significand of an exponent the
neighbours are half as far apart. -/
def ofMagnitude (f : BinaryFormat) (m : Nat) (q : Int) : Interval :=
  let scale := 2 ^ q.toNat
  let below := if m == 2 ^ f.fraction && f.minPlace < q then 1 else 2
  { low := (4 * m - below) * scale
    value := 4 * m * scale
    high := (4 * m + 2) * scale
    den := 4 * 2 ^ (-q).toNat
    closed := m % 2 == 0 }

/-- Whether the number `c / (den / unit)` lies in the interval. -/
def holds (i : Interval) (n : Nat) : Bool :=
  if i.closed then i.low ≤ n && n ≤ i.high else i.low < n && n < i.high

/-- The interval on the grid of multiples of `10 ^ place`: all numerators and the grid unit over
one denominator. -/
def onGrid (i : Interval) (place : Int) : Interval × Nat :=
  let fine := 10 ^ (-place).toNat
  ({ i with low := i.low * fine, value := i.value * fine, high := i.high * fine },
    i.den * 10 ^ place.toNat)

/-- The neighbour of the value on a grid that lies in the interval: of two the nearer one. -/
def neighbour? (i : Interval) (place : Int) : Option Nat :=
  let (j, unit) := i.onGrid place
  let c := j.value / unit
  let down := j.holds (c * unit)
  let up := j.holds ((c + 1) * unit)
  if down && (!up || 2 * (j.value % unit) < unit) then some c
  else if up then some (c + 1)
  else none

/-- The first grid with a hit, from `place` downwards. -/
def coarsest (i : Interval) : Nat → Int → Nat × Int
  | 0, place => (0, place)
  | grids + 1, place =>
    match i.neighbour? place with
    | some c => (c, place)
    | none => i.coarsest grids (place - 1)

end Interval

/-- A decimal number: its digits, the first not zero, and the exponent of the first one. -/
structure Scientific where
  digits : List Char
  exponent : Int
deriving Repr, DecidableEq

namespace Scientific

/-- A number without the zeros at the end of its digits. -/
def stripZeros (digits : List Char) : List Char :=
  (digits.reverse.dropWhile (· == '0')).reverse

/-- The digits of a positive multiple of `10 ^ place`. -/
def ofGrid (c : Nat) (place : Int) : Scientific :=
  let digits := Digits.ofNat c
  ⟨stripZeros digits, place + (digits.length - 1 : Nat)⟩

/-- The shortest digits of a positive magnitude `m · 2 ^ q`. Its grids start above the value and
go down to the width of the interval, so twenty of them suffice. -/
def shortest (f : BinaryFormat) (m : Nat) (q : Int) : Scientific :=
  let top : Int := (m.log2 + q) * 30103 / 100000 + 1
  let (c, place) := (Interval.ofMagnitude f m q).coarsest 20 top
  ofGrid c place

/-- All digits with a point where it belongs, and at least `places` digits after it. -/
def positional (s : Scientific) (places : Nat) : List Char :=
  let count := s.digits.length
  let (whole, part) :=
    if s.exponent < 0 then
      (['0'], List.replicate ((-s.exponent).toNat - 1) '0' ++ s.digits)
    else
      let before := s.exponent.toNat + 1
      (s.digits.take before ++ List.replicate (before - count) '0', s.digits.drop before)
  let part := part ++ List.replicate (places - part.length) '0'
  if part.isEmpty then whole else whole ++ '.' :: part

/-- One digit, a point with the others if there are any, and the exponent. -/
def exponential (s : Scientific) : List Char :=
  let part := s.digits.drop 1
  s.digits.take 1 ++ (if part.isEmpty then [] else '.' :: part) ++ 'e' :: Digits.ofInt s.exponent

end Scientific

structure FloatStyle where
  /-- The least number of digits after a point. -/
  places : Nat
  /-- Exponents from this one on down are written with a mark; none if no exponent is. -/
  small : Option Int
  /-- Exponents from this one on up are written with a mark. -/
  large : Option Int
deriving Repr, DecidableEq

namespace FloatStyle

/-- Literals have a point or an exponent: a mark below 0.0001 and from 10 ^ 16 on. -/
def literal : FloatStyle := ⟨1, some (-5), some 16⟩

/-- Plain numbers have neither a mark nor an idle point. -/
def plain : FloatStyle := ⟨0, none, none⟩

/-- The text of a decimal number in a style. -/
def write (style : FloatStyle) (s : Scientific) : List Char :=
  let marked := (style.small.any fun e => s.exponent ≤ e) || (style.large.any fun e => e ≤ s.exponent)
  if marked then s.exponential else s.positional style.places

def format (style : FloatStyle) (f : BinaryFormat) (bits : Nat) : List Char :=
  if f.isNaN bits then "NaN".toList else
  let sign := if f.isNegative bits then ['-'] else []
  let (m, q) := f.magnitude bits
  sign ++
    if !f.isFinite bits then "inf".toList
    else if m == 0 then style.write ⟨['0'], 0⟩
    else style.write (Scientific.shortest f m q)

end FloatStyle

end SqlWire
