import SqlWire.Number.Power

/-! # Decimal digits

Numbers are written in decimal digits without leading zeros, or with zeros up to a width; they
are read from any run of digits, below a bound where the room for a number has one. A signed number
may carry one sign in front.
-/

namespace SqlWire

namespace Digits

def value (c : Char) : Nat := c.toNat - 48

def number (digits : List Char) : Nat :=
  digits.foldl (fun n c => 10 * n + value c) 0

/-- One more digit behind a number, if the result stays below `bound`. -/
def pushBelow? (bound n : Nat) (c : Char) : Option Nat :=
  let m := 10 * n + value c
  if m < bound then some m else none

/-- The number that a run of digits denotes, if it is below `bound`; digits are not looked at once
it no longer can be. -/
def numberBelow? (bound : Nat) (digits : List Char) : Option Nat :=
  digits.foldlM (pushBelow? bound) 0

/-- More digits never make a number smaller. -/
theorem le_foldl_number (digits : List Char) (n : Nat) :
    n ≤ digits.foldl (fun n c => 10 * n + value c) n := by
  induction digits generalizing n with
  | nil => exact Nat.le_refl n
  | cons c digits ih => exact Nat.le_trans (by omega) (ih (10 * n + value c))

theorem foldlM_pushBelow? {bound : Nat} (digits : List Char) {n : Nat} (h : n < bound) :
    digits.foldlM (pushBelow? bound) n =
      let m := digits.foldl (fun n c => 10 * n + value c) n
      if m < bound then some m else none := by
  induction digits generalizing n with
  | nil => simp [h]
  | cons c digits ih =>
    by_cases hc : 10 * n + value c < bound
    · have step : pushBelow? bound n c = some (10 * n + value c) := by simp [pushBelow?, hc]
      rw [List.foldlM_cons, step]
      exact ih hc
    · have grows := le_foldl_number digits (10 * n + value c)
      have large : ¬ digits.foldl (fun n c => 10 * n + value c) (10 * n + value c) < bound := by
        omega
      simp [pushBelow?, hc, large]

/-- The bounded reading is the reading, where that is below the bound. -/
theorem numberBelow?_eq {bound : Nat} (h : 0 < bound) (digits : List Char) :
    numberBelow? bound digits = if number digits < bound then some (number digits) else none :=
  foldlM_pushBelow? digits h

/-- The digits of a number without leading zeros. -/
def ofNat (n : Nat) : List Char := Nat.toDigits 10 n

/-- The digits of a number, with zeros in front up to `width`. -/
def padded (width n : Nat) : List Char :=
  let digits := ofNat n
  List.replicate (width - digits.length) '0' ++ digits

/-- The digits of a number behind a minus sign if it is negative. -/
def ofInt (n : Int) : List Char :=
  if n < 0 then '-' :: ofNat n.natAbs else ofNat n.natAbs

/-- The number below `bound` of a text that is one digit or more and nothing else. -/
def toNatBelow? (bound : Nat) (text : List Char) : Option Nat :=
  if !text.isEmpty && text.all Char.isDigit then numberBelow? bound text else none

/-- The number of a text of digits with or without a sign, if its size is below `bound`; a minus sign
only where numbers can be negative. -/
def toIntBelow? (bound : Nat) (signed : Bool) : List Char → Option Int
  | '+' :: digits => (toNatBelow? bound digits).map Int.ofNat
  | '-' :: digits => if signed then (toNatBelow? bound digits).map fun n => -Int.ofNat n else none
  | digits => (toNatBelow? bound digits).map Int.ofNat

end Digits

end SqlWire
