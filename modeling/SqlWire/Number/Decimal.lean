import SqlWire.Text.Digits

/-! # Decimal numbers

A decimal number has a sign, a coefficient of 96 bits and up to 28 places after the point. Reading
keeps the places that are written, so `1.50` and `1.5` are different values. Digits beyond what fits
are rounded at the first that is left out, a half upwards; what follows it has no weight but has to
be well-formed. An exponent moves the point of the number that is already rounded, and a point that
moves too far to the left rounds it once more.
-/

namespace SqlWire

/-- A number `coefficient / 10 ^ scale` with a sign. A zero is negative only where rounding has left
nothing else of a negative number. -/
structure Decimal where
  negative : Bool
  coefficient : Nat
  scale : Nat
  coefficient_lt : coefficient < 2 ^ 96
  scale_le : scale ≤ 28
deriving DecidableEq

inductive DecimalError where
  | empty
  | noDigits
  | secondPoint
  | leadingSeparator
  | unknownCharacter
  | tooManyDigits
  | roundingOverflow
  | badExponent
  | tooGreat
  | tooManyPlaces (places : Nat)
deriving Repr, DecidableEq

def DecimalError.message : DecimalError → String
  | empty => "Invalid decimal: empty"
  | noDigits => "Invalid decimal: no digits found"
  | secondPoint => "Invalid decimal: two decimal points"
  | leadingSeparator => "Invalid decimal: must start lead with a number"
  | unknownCharacter => "Invalid decimal: unknown character"
  | tooManyDigits => "Invalid decimal: overflow from too many digits"
  | roundingOverflow => "Invalid decimal: overflow from mantissa after rounding"
  | badExponent => "Failed to parse"
  | tooGreat => "Number exceeds maximum value that can be represented."
  | tooManyPlaces places =>
    s!"Scale exceeds the maximum precision allowed: {places} > 28"

namespace Decimal

def maxScale : Nat := 28

/-- One more than the greatest coefficient. -/
def limit : Nat := 2 ^ 96

/-- A number that fits, with its sign; a zero has none. -/
def ofParts? (negative : Bool) (coefficient scale : Nat) : Option Decimal :=
  if h : coefficient < 2 ^ 96 ∧ scale ≤ 28 then
    some ⟨negative && coefficient != 0, coefficient, scale, h.1, h.2⟩
  else none

/-- The failure that a character causes where no digit can be. -/
def strayCharacter (c : Char) : DecimalError :=
  if c == '.' then .secondPoint
  else if c == '_' then .leadingSeparator
  else .unknownCharacter

/-- What has been read of an unsigned number. -/
structure Reading where
  coefficient : Nat
  scale : Nat
  /-- Whether the point has been passed. -/
  fraction : Bool
  /-- Whether a digit has been passed. -/
  started : Bool
deriving Repr, DecidableEq

namespace Reading

def start : Reading := ⟨0, 0, false, false⟩

/-- The reading one digit further. -/
def push (r : Reading) (digit : Nat) : Reading :=
  { r with coefficient := 10 * r.coefficient + digit,
           scale := if r.fraction then r.scale + 1 else r.scale, started := true }

def finish (r : Reading) : Except DecimalError (Nat × Nat) :=
  if r.started then .ok (r.coefficient, r.scale) else .error .noDigits

/-- The number when a digit is left out and rounded at. A coefficient that no longer fits gives up
its last place. -/
def roundAt (r : Reading) (digit : Nat) : Except DecimalError (Nat × Nat) :=
  if digit < 5 then .ok (r.coefficient, r.scale)
  else if r.coefficient + 1 < limit then .ok (r.coefficient + 1, r.scale)
  else if r.scale == 0 then .error .roundingOverflow
  else .ok ((r.coefficient + 5) / 10, r.scale - 1)

/-- Coefficients from this one on take more than one word when another digit comes. -/
def wordLimit : Nat := (2 ^ 64 - 1) / 10 - 255

/-- Whether the coefficient took more than one word before its last digit. -/
def isWide (r : Reading) : Bool := wordLimit ≤ r.coefficient / 10

end Reading

/-- The first of the characters behind the place of rounding that is neither a digit nor a
separator. -/
def strayBehind (text : List Char) : Option Char :=
  text.find? fun c => !(c.isDigit || c == '_')

/-- The number when a digit is left out and characters follow it. -/
def Reading.cutAt (r : Reading) (digit : Nat) (rest : List Char) : Except DecimalError (Nat × Nat) :=
  match strayBehind rest with
  | some c => .error (strayCharacter c)
  | none => r.roundAt digit

/-- The number when no more digits fit. A separator at this place counts as a zero; only behind a wide
coefficient are separators passed over to the digit that follows them. -/
def Reading.cut (r : Reading) (text : List Char) : Except DecimalError (Nat × Nat) :=
  if r.isWide && text.head? == some '_' then
    match text.dropWhile (· == '_') with
    | [] => r.finish
    | c :: rest => if c.isDigit then r.cutAt (Digits.value c) rest else .error (strayCharacter c)
  else
    match text with
    | [] => r.finish
    | c :: rest =>
      if c.isDigit then r.cutAt (Digits.value c) rest
      else if c == '_' then r.cutAt 0 rest
      else .error (strayCharacter c)

/-- The coefficient and the scale of a text without a sign. -/
def readOnto (r : Reading) : List Char → Except DecimalError (Nat × Nat)
  | [] => r.finish
  | c :: rest =>
    if r.fraction && maxScale ≤ r.scale then r.cut (c :: rest)
    else if c.isDigit then
      let next := r.push (Digits.value c)
      if next.coefficient < limit then readOnto next rest
      else if r.fraction then r.cut (c :: rest)
      else .error .tooManyDigits
    else if c == '.' && !r.fraction then readOnto { r with fraction := true } rest
    else if c == '_' && r.started then readOnto r rest
    else .error (strayCharacter c)

/-- The number of a text without an exponent. -/
def readPlain (text : List Char) : Except DecimalError Decimal := do
  let (negative, body) ← match text with
    | [] => .error .empty
    | '-' :: body => .ok (true, body)
    | '+' :: body => .ok (false, body)
    | body => .ok (false, body)
  let (coefficient, scale) ← readOnto .start body
  match ofParts? negative coefficient scale with
  | some d => .ok d
  | none => .error .tooManyDigits

/-- An exponent of 32 bits. -/
def readExponent (text : List Char) : Except DecimalError Nat :=
  match Digits.toIntBelow? (2 ^ 32) false text with
  | some n => .ok n.toNat
  | none => .error .badExponent

/-- A coefficient without its last places, a half upwards. -/
def dropPlaces (coefficient : Nat) : Nat → Nat
  | 0 => coefficient
  | places + 1 => (coefficient + 5 * 10 ^ places) / 10 ^ (places + 1)

theorem dropPlaces_lt {coefficient : Nat} (places : Nat) (h : coefficient < 2 ^ 96) :
    dropPlaces coefficient places < 2 ^ 96 := by
  cases places with
  | zero => exact h
  | succ places =>
    have positive : 0 < 10 ^ places := Nat.pow_pos (by decide)
    rw [dropPlaces, Nat.div_lt_iff_lt_mul (Nat.pow_pos (by decide)), Nat.pow_succ]
    omega

/-- The number with its point moved to the left. Places that there is no room for are rounded away,
and the sign stays. -/
def shiftLeft (d : Decimal) (places : Nat) : Except DecimalError Decimal :=
  if maxScale < places then .error (.tooManyPlaces places)
  else if h : d.scale + places ≤ 28 then
    .ok ⟨d.negative, d.coefficient, d.scale + places, d.coefficient_lt, h⟩
  else
    .ok ⟨d.negative, dropPlaces d.coefficient (d.scale + places - 28), 28,
      dropPlaces_lt _ d.coefficient_lt, Nat.le_refl 28⟩

/-- The number with its point moved to the right. Where no place is left to drop, the digits grow, and
they never grow by more than the greatest number of places. -/
def shiftRight (d : Decimal) (places : Nat) : Except DecimalError Decimal :=
  if places ≤ d.scale then
    .ok ⟨d.negative, d.coefficient, d.scale - places, d.coefficient_lt,
      Nat.le_trans (Nat.sub_le _ _) d.scale_le⟩
  else if maxScale < places then .error (.tooManyPlaces places)
  else
    match ofParts? d.negative (d.coefficient * 10 ^ (places - d.scale)) 0 with
    | some shifted => .ok shifted
    | none => .error .tooGreat

/-- The number of a text with digits, a point and underscores between them, and an exponent if there
is a mark. -/
def read (text : List Char) : Except DecimalError Decimal := do
  match text.span fun c => c != 'e' && c != 'E' with
  | (plain, []) => readPlain plain
  | (base, _ :: power) =>
    let d ← readPlain base
    match power with
    | '-' :: power => d.shiftLeft (← readExponent power)
    | power => d.shiftRight (← readExponent power)

/-- A whole number of 64 bits. -/
def ofInt? (n : Int) : Option Decimal := ofParts? (n < 0) n.natAbs 0

/-- All digits, with `scale` of them after a point. -/
def format (d : Decimal) : List Char :=
  let digits := Digits.padded (d.scale + 1) d.coefficient
  let whole := digits.take (digits.length - d.scale)
  let part := digits.drop (digits.length - d.scale)
  (if d.negative then ['-'] else []) ++ whole ++ (if part.isEmpty then [] else '.' :: part)

end Decimal

end SqlWire
