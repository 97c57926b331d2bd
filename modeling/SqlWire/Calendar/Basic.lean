import SqlWire.Text.Digits

/-! # Dates and times of day

The Gregorian calendar, reckoned backwards before its start, with years from -262143 to 262142. A
time of day has nanoseconds; with a thousand million or more of them it is in the leap second behind
its second, and is written as the second after. A time that is made of its parts has leap seconds
behind second 59 only.
-/

namespace SqlWire

namespace Calendar

/-- Whether a year has 366 days. -/
def isLeapYear (year : Int) : Bool :=
  year % 4 == 0 && (year % 100 != 0 || year % 400 == 0)

/-- The number of days of a month. -/
def daysInMonth (year : Int) (month : Nat) : Nat :=
  if month == 2 then (if isLeapYear year then 29 else 28)
  else if month == 4 || month == 6 || month == 9 || month == 11 then 30
  else 31

def firstYear : Int := -262143

def lastYear : Int := 262142

end Calendar

open Calendar in
structure Date where
  year : Int
  month : Nat
  day : Nat
  year_mem : firstYear ≤ year ∧ year ≤ lastYear
  month_mem : 1 ≤ month ∧ month ≤ 12
  day_mem : 1 ≤ day ∧ day ≤ daysInMonth year month
deriving DecidableEq

open Calendar in
/-- The day of a year, month and day, if there is one. -/
def Date.ofParts? (year : Int) (month day : Nat) : Option Date :=
  if h : (firstYear ≤ year ∧ year ≤ lastYear) ∧ (1 ≤ month ∧ month ≤ 12) ∧
      (1 ≤ day ∧ day ≤ daysInMonth year month) then
    some ⟨year, month, day, h.1, h.2.1, h.2.2⟩
  else none

structure TimeOfDay where
  hour : Nat
  minute : Nat
  second : Nat
  /-- From a thousand million on the time is in a leap second. -/
  nanos : Nat
  hour_lt : hour < 24
  minute_lt : minute < 60
  second_lt : second < 60
  nanos_lt : nanos < 2000000000
deriving DecidableEq

/-- The time of its parts, if there is one. -/
def TimeOfDay.ofParts? (hour minute second nanos : Nat) : Option TimeOfDay :=
  if h : hour < 24 ∧ minute < 60 ∧ second < 60 ∧ nanos < 2000000000 ∧
      (1000000000 ≤ nanos → second = 59) then
    some ⟨hour, minute, second, nanos, h.1, h.2.1, h.2.2.1, h.2.2.2.1⟩
  else none

def TimeOfDay.midnight : TimeOfDay :=
  ⟨0, 0, 0, 0, by decide, by decide, by decide, by decide⟩

structure DateTime where
  date : Date
  time : TimeOfDay
deriving DecidableEq

/-- A moment, by the date and the time that it has on the zero meridian. -/
structure Utc where
  moment : DateTime
deriving DecidableEq

namespace Date

/-- A year of four digits, or a sign and all its digits, at least four. -/
def formatYear (year : Int) : List Char :=
  if 0 ≤ year ∧ year ≤ 9999 then Digits.padded 4 year.toNat
  else (if year < 0 then '-' else '+') :: Digits.padded 4 year.natAbs

/-- Year, month and day. -/
def format (d : Date) : List Char :=
  formatYear d.year ++ '-' :: Digits.padded 2 d.month ++ '-' :: Digits.padded 2 d.day

end Date

namespace TimeOfDay

/-- Hour, minute, second and microseconds. -/
def format (t : TimeOfDay) : List Char :=
  Digits.padded 2 t.hour ++ ':' :: Digits.padded 2 t.minute
    ++ ':' :: Digits.padded 2 (t.second + t.nanos / 1000000000)
    ++ '.' :: Digits.padded 6 (t.nanos % 1000000000 / 1000)

end TimeOfDay

/-- The date, a blank and the time. -/
def DateTime.format (d : DateTime) : List Char :=
  d.date.format ++ ' ' :: d.time.format

end SqlWire
