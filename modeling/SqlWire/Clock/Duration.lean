import SqlWire.Text.Digits

/-! # Spans of time

A span of time is a number of nanoseconds. It is written in the largest of the units s, ms, µs and
ns that it fills at least once, with as many decimals as it needs.
-/

namespace SqlWire

/-- A span of time. -/
structure Duration where
  nanos : Nat
deriving Repr, DecidableEq

namespace Duration

def zero : Duration := ⟨0⟩

def ofMillis (n : Nat) : Duration := ⟨n * 1000000⟩

def ofSeconds (n : Nat) : Duration := ⟨n * 1000000000⟩

/-- The full milliseconds in a span. -/
def millis (d : Duration) : Nat := d.nanos / 1000000

/-- The full seconds in a span. -/
def seconds (d : Duration) : Nat := d.nanos / 1000000000

/-- Whether a clock can show the moment at which a span from its start ends: there are 63 bits for the
full seconds. -/
def fitsClock (d : Duration) : Bool := d.seconds < 2 ^ 63

def isZero (d : Duration) : Bool := d.nanos == 0

theorem isZero_iff {d : Duration} : d.isZero = true ↔ d = .zero := by
  obtain ⟨nanos⟩ := d
  simp [isZero, zero]

def nonZero? (d : Duration) : Option Duration := if d.isZero then none else some d

/-- A number of units, of which `scale` is ten to the number of possible decimals. -/
def inUnit (n places : Nat) (unit : String) : String :=
  let decimals := Digits.padded places (n % 10 ^ places)
  let kept := (decimals.reverse.dropWhile (· == '0')).reverse
  let fraction := if kept.isEmpty then [] else '.' :: kept
  String.ofList (Digits.ofNat (n / 10 ^ places) ++ fraction) ++ unit

def text (d : Duration) : String :=
  if 1000000000 ≤ d.nanos then inUnit d.nanos 9 "s"
  else if 1000000 ≤ d.nanos then inUnit d.nanos 6 "ms"
  else if 1000 ≤ d.nanos then inUnit d.nanos 3 "µs"
  else inUnit d.nanos 0 "ns"

end Duration

end SqlWire
