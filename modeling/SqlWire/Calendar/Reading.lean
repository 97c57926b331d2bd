import SqlWire.Calendar.Basic
import SqlWire.Text.Blank

/-! # Reading dates and times

Every number may have blanks in front. A year without a sign has up to four digits, one with a sign
as many as there are; the other fields have up to two. A fraction of a second keeps nine digits and
passes over the rest. Nothing may follow.
-/

namespace SqlWire

namespace Calendar

/-- A field of at least one digit and at most `width`, and what follows it. -/
def digits? (width : Nat) (text : List Char) : Option (List Char × List Char) :=
  let digits := (text.take width).takeWhile Char.isDigit
  if digits.isEmpty then none else some (digits, text.drop digits.length)

/-- A number of at most two digits, after blanks. -/
def pair? (text : List Char) : Option (Nat × List Char) :=
  (digits? 2 (trimStart text)).map fun (ds, rest) => (Digits.number ds, rest)

/-- A year without its sign, of at most `width` digits. -/
def yearDigits? (width : Nat) (text : List Char) : Option (Nat × List Char) := do
  let (digits, rest) ← digits? width text
  return (← Digits.numberBelow? (2 ^ 63) digits, rest)

/-- A year, after blanks; a sign lifts the limit of four digits. -/
def year? (text : List Char) : Option (Int × List Char) :=
  match trimStart text with
  | '-' :: rest => (yearDigits? rest.length rest).map fun (n, rest) => (-(n : Int), rest)
  | '+' :: rest => (yearDigits? rest.length rest).map fun (n, rest) => ((n : Int), rest)
  | rest => (yearDigits? 4 rest).map fun (n, rest) => ((n : Int), rest)

/-- What follows a character that has to be there. -/
def mark? (c : Char) : List Char → Option (List Char)
  | [] => none
  | d :: rest => if d = c then some rest else none

/-- Nanoseconds behind a point, or none without one. -/
def fraction? : List Char → Option (Nat × List Char)
  | '.' :: rest => (digits? 9 rest).map fun (ds, rest) =>
      (Digits.number ds * 10 ^ (9 - ds.length), rest.dropWhile Char.isDigit)
  | rest => some (0, rest)

/-- A date and what follows it. -/
def date? (text : List Char) : Option (Date × List Char) := do
  let (year, rest) ← year? text
  let rest ← mark? '-' rest
  let (month, rest) ← pair? rest
  let rest ← mark? '-' rest
  let (day, rest) ← pair? rest
  return (← Date.ofParts? year month day, rest)

/-- A time and what follows it; the second 60 is a leap second. -/
def time? (text : List Char) : Option (TimeOfDay × List Char) := do
  let (hour, rest) ← pair? text
  let rest ← mark? ':' rest
  let (minute, rest) ← pair? rest
  let rest ← mark? ':' rest
  let (second, rest) ← pair? rest
  let (nanos, rest) ← fraction? rest
  let time ←
    if second = 60 then TimeOfDay.ofParts? hour minute 59 (1000000000 + nanos)
    else TimeOfDay.ofParts? hour minute second nanos
  return (time, rest)

/-- What was read, if nothing follows it. -/
def whole? {α : Type} : Option (α × List Char) → Option α
  | some (a, []) => some a
  | _ => none

end Calendar

open Calendar

def Date.ofText? (text : String) : Option Date := whole? (date? text.toList)

def TimeOfDay.ofText? (text : String) : Option TimeOfDay := whole? (time? text.toList)

/-- The date and time that a text denotes; blanks between them may be missing. -/
def DateTime.ofText? (text : String) : Option DateTime :=
  whole? do
    let (date, rest) ← date? text.toList
    let (time, rest) ← time? (trimStart rest)
    return (⟨date, time⟩, rest)

end SqlWire
