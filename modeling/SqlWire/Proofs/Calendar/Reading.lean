import SqlWire.Calendar.Reading
import SqlWire.Proofs.Text.Numerals
import SqlWire.Proofs.Text.Trimming

/-! # Dates and times, read back

What is written for a date or a time of day is read as that date or time. Each field is written with a
fixed number of digits, which is as many as its reading takes (`Calendar.pair?_padded`,
`Calendar.year?_padded`, `Calendar.fraction?_padded`), so the fields can be read one after the other
(`Date.date?_format`, `TimeOfDay.time?_format`). Only years of four digits are read back without a sign,
and a time keeps its microseconds. Second 60 is read as the leap second behind second 59; a leap second
behind another one is written like the second after it and read as that (`TimeOfDay.asRead_eq_iff`).
-/

namespace SqlWire

open Digits

/-- Whether a date is written with a year of four digits and no sign. -/
def Date.IsPlain (d : Date) : Prop := 0 ≤ d.year ∧ d.year ≤ 9999

/-- Whether a time of day is a whole number of microseconds. -/
def TimeOfDay.IsWhole (t : TimeOfDay) : Prop := 1000 ∣ t.nanos

/-- Whether a time of day, if it is in a leap second, is in the one behind second 59. -/
def TimeOfDay.IsRegular (t : TimeOfDay) : Prop := 1000000000 ≤ t.nanos → t.second = 59

/-- What is read of a time of day: a leap second that is not behind second 59 is taken for the second
after. -/
def TimeOfDay.asRead (t : TimeOfDay) : TimeOfDay :=
  if stray : 1000000000 ≤ t.nanos ∧ t.second ≠ 59 then
    { t with
      second := t.second + 1
      nanos := t.nanos - 1000000000
      second_lt := by have := t.second_lt; omega
      nanos_lt := by have := t.nanos_lt; omega }
  else t

/-- What is read of a date and time. -/
def DateTime.asRead (d : DateTime) : DateTime := { d with time := d.time.asRead }

namespace Calendar

variable {n width : Nat}

/-- Digits are read up to the width, or up to something else than a digit. -/
theorem digits?_append {digits : List Char} (filled : digits ≠ [])
    (all : ∀ c ∈ digits, c.isDigit = true) {rest : List Char} (short : digits.length ≤ width)
    (stops : digits.length = width ∨ ∀ c ∈ rest.head?, c.isDigit = false) :
    digits? width (digits ++ rest) = some (digits, rest) := by
  have behind : (rest.take (width - digits.length)).takeWhile Char.isDigit = [] := by
    obtain full | other := stops
    · simp [full]
    · rw [List.takeWhile_eq_nil_iff]
      intro here
      have first : (rest.take (width - digits.length)).get ⟨0, here⟩ ∈ rest.head? := by
        simp only [List.get_eq_getElem, List.getElem_take, List.head?_eq_getElem?]
        exact List.getElem?_eq_getElem _
      rw [other _ first]
      decide
  have front : ((digits ++ rest).take width).takeWhile Char.isDigit = digits := by
    rw [List.take_append, List.take_of_length_le short, List.takeWhile_append_of_pos all, behind,
      List.append_nil]
  rw [digits?, front]
  simp [filled]

theorem digits?_padded (filled : 0 < width) (fits : n < 10 ^ width) (rest : List Char) :
    digits? width (padded width n ++ rest) = some (padded width n, rest) :=
  have full := length_padded filled fits
  digits?_append (padded_ne_nil width n) (fun _ => isDigit_padded) full.le (.inl full)

/-- Digits have no blank in front. -/
theorem trimStart_padded (width n : Nat) (rest : List Char) :
    trimStart (padded width n ++ rest) = padded width n ++ rest := by
  apply trimStart_eq
  intro c first
  rw [List.head?_append_of_ne_nil _ (padded_ne_nil width n)] at first
  exact isBlank_of_isDigit (isDigit_padded (List.mem_of_mem_head? first))

/-- Two digits are read as what they were written for. -/
theorem pair?_padded (fits : n < 100) (rest : List Char) :
    pair? (padded 2 n ++ rest) = some (n, rest) := by
  rw [pair?, trimStart_padded, digits?_padded (by decide) fits]
  simp [number_padded]

/-- Four digits are read as the year that they were written for. -/
theorem year?_padded (fits : n < 10000) (rest : List Char) :
    year? (padded 4 n ++ rest) = some ((n : Int), rest) := by
  have sign {c : Char} (mark : c.isDigit = false) : (padded 4 n ++ rest).head? ≠ some c := by
    rw [List.head?_append_of_ne_nil _ (padded_ne_nil 4 n)]
    exact head?_of_isDigit (fun _ => isDigit_padded) mark
  have room : n < 2 ^ 63 := Nat.lt_of_lt_of_le fits (by decide)
  have value : numberBelow? (2 ^ 63) (padded 4 n) = some n := by
    rw [numberBelow?_eq (by decide), number_padded, if_pos room]
  have read : yearDigits? 4 (padded 4 n ++ rest) = some (n, rest) := by
    simp only [yearDigits?, digits?_padded (by decide : 0 < 4) fits, Option.bind_eq_bind,
      Option.bind_some, value]
    rfl
  rw [year?, trimStart_padded]
  split
  · next text => exact (sign (by decide : '-'.isDigit = false) (by rw [text]; rfl)).elim
  · next text => exact (sign (by decide : '+'.isDigit = false) (by rw [text]; rfl)).elim
  · rw [read]
    rfl

/-- Six digits behind a point are read as microseconds. -/
theorem fraction?_padded (fits : n < 1000000) :
    fraction? ('.' :: padded 6 n) = some (n * 1000, []) := by
  have length := length_padded (by decide : 0 < 6) fits
  have short : (padded 6 n).length ≤ 9 := by omega
  have read := digits?_append (padded_ne_nil 6 n) (fun _ => isDigit_padded) short
    (.inr (nofun : ∀ c ∈ ([] : List Char).head?, c.isDigit = false))
  rw [List.append_nil] at read
  simp [fraction?, read, length, number_padded]

end Calendar

namespace Date

open Calendar

theorem ofParts?_eq (d : Date) : ofParts? d.year d.month d.day = some d :=
  dif_pos ⟨d.year_mem, d.month_mem, d.day_mem⟩

theorem daysInMonth_le (year : Int) (month : Nat) : daysInMonth year month ≤ 31 := by
  unfold daysInMonth
  split
  · split <;> decide
  · split <;> decide

/-- A date is read back, whatever follows it. -/
theorem date?_format {d : Date} (plain : d.IsPlain) (rest : List Char) :
    date? (d.format ++ rest) = some (d, rest) := by
  obtain ⟨positive, few⟩ := plain
  have month : d.month < 100 := by
    have last := d.month_mem.2
    omega
  have day : d.day < 100 := by
    have last := d.day_mem.2
    have most := daysInMonth_le d.year d.month
    omega
  have year : ((d.year.toNat : Nat) : Int) = d.year := Int.toNat_of_nonneg positive
  have digits : d.year.toNat < 10000 := by omega
  have written : d.format ++ rest = padded 4 d.year.toNat ++
      '-' :: (padded 2 d.month ++ '-' :: (padded 2 d.day ++ rest)) := by
    simp [format, formatYear, positive, few]
  rw [written, date?, year?_padded digits]
  simp [mark?, pair?_padded month, pair?_padded day, year, ofParts?_eq]

/-- A date is read as what it was written for. -/
theorem ofText?_format {d : Date} (plain : d.IsPlain) : ofText? (.ofList d.format) = some d := by
  have read := date?_format plain []
  rw [List.append_nil] at read
  rw [ofText?, String.toList_ofList, read]
  rfl

end Date

namespace TimeOfDay

open Calendar

theorem ofParts?_eq {t : TimeOfDay} (regular : t.IsRegular) :
    ofParts? t.hour t.minute t.second t.nanos = some t :=
  dif_pos ⟨t.hour_lt, t.minute_lt, t.second_lt, t.nanos_lt, regular⟩

theorem asRead_of_isRegular {t : TimeOfDay} (regular : t.IsRegular) : t.asRead = t :=
  dif_neg fun stray => stray.2 (regular stray.1)

theorem isRegular_asRead (t : TimeOfDay) : t.asRead.IsRegular := by
  unfold asRead
  split
  · have bound := t.nanos_lt
    intro leap
    dsimp only at leap
    omega
  · next settled =>
    intro leap
    by_contra other
    exact settled ⟨leap, other⟩

/-- A time of day is read as itself unless it is in a leap second behind another second than 59. -/
theorem asRead_eq_iff {t : TimeOfDay} : t.asRead = t ↔ t.IsRegular := by
  constructor
  · intro same
    rw [← same]
    exact isRegular_asRead t
  · exact asRead_of_isRegular

/-- The second and the microseconds that are written of a time of day are those of what is read of it;
second 60 is the leap second behind second 59. -/
theorem ofParts?_written {t : TimeOfDay} (whole : t.IsWhole) :
    (if t.second + t.nanos / 1000000000 = 60 then
        ofParts? t.hour t.minute 59 (1000000000 + t.nanos % 1000000000 / 1000 * 1000)
      else ofParts? t.hour t.minute (t.second + t.nanos / 1000000000)
        (t.nanos % 1000000000 / 1000 * 1000)) = some t.asRead := by
  obtain ⟨micros, nanos⟩ := whole
  have seconds := t.second_lt
  have bound := t.nanos_lt
  have parts := ofParts?_eq (isRegular_asRead t)
  by_cases leap : 1000000000 ≤ t.nanos
  · have next : t.nanos / 1000000000 = 1 := by omega
    by_cases last : t.second = 59
    · have same : 1000000000 + t.nanos % 1000000000 / 1000 * 1000 = t.nanos := by omega
      rw [asRead_of_isRegular fun _ => last, last] at parts
      rw [asRead_of_isRegular fun _ => last, last, next, if_pos rfl, same, parts]
    · have same : t.nanos % 1000000000 / 1000 * 1000 = t.nanos - 1000000000 := by omega
      simp only [asRead, dif_pos (And.intro leap last)] at parts ⊢
      rw [next, if_neg (by omega), same, parts]
  · have none : t.nanos / 1000000000 = 0 := by omega
    have same : t.nanos % 1000000000 / 1000 * 1000 = t.nanos := by omega
    rw [asRead_of_isRegular fun late => (leap late).elim] at parts ⊢
    rw [none, Nat.add_zero, if_neg (by omega), same, parts]

/-- A time of day is read back, but for a leap second that is not behind second 59. -/
theorem time?_format {t : TimeOfDay} (whole : t.IsWhole) : time? t.format = some (t.asRead, []) := by
  have hour : t.hour < 100 := t.hour_lt.trans (by decide)
  have minute : t.minute < 100 := t.minute_lt.trans (by decide)
  have second : t.second + t.nanos / 1000000000 < 100 := by
    have seconds := t.second_lt
    have bound := t.nanos_lt
    omega
  have fits : t.nanos % 1000000000 / 1000 < 1000000 := by omega
  have written : t.format = padded 2 t.hour ++ ':' :: (padded 2 t.minute ++
      ':' :: (padded 2 (t.second + t.nanos / 1000000000) ++
        '.' :: padded 6 (t.nanos % 1000000000 / 1000))) := by
    simp [format]
  rw [written, time?]
  simp only [pair?_padded hour, pair?_padded minute, pair?_padded second, mark?, if_true,
    fraction?_padded fits, Option.bind_eq_bind, Option.bind_some]
  rw [← apply_ite (Option.bind · fun time => pure (time, [])), ofParts?_written whole]
  rfl

/-- What is read of the text of a time of day. -/
theorem ofText?_format {t : TimeOfDay} (whole : t.IsWhole) :
    ofText? (.ofList t.format) = some t.asRead := by
  rw [ofText?, String.toList_ofList, time?_format whole]
  rfl

/-- The leap second behind second 59 is written as second 60. -/
example : (⟨23, 59, 59, 1500000000, by decide, by decide, by decide, by decide⟩ :
    TimeOfDay).format = "23:59:60.500000".toList := by decide

end TimeOfDay

/-- What is read of the text of a date and time. -/
theorem DateTime.ofText?_format {d : DateTime} (plain : d.date.IsPlain) (whole : d.time.IsWhole) :
    ofText? (.ofList d.format) = some d.asRead := by
  have blank : Calendar.time? (trimStart (' ' :: d.time.format)) = some (d.time.asRead, []) := by
    have digits : d.time.format = Digits.padded 2 d.time.hour ++ (':' :: padded 2 d.time.minute ++
        ':' :: padded 2 (d.time.second + d.time.nanos / 1000000000) ++
          '.' :: padded 6 (d.time.nanos % 1000000000 / 1000)) := by
      simp [TimeOfDay.format]
    have trimmed : trimStart (' ' :: d.time.format) = trimStart d.time.format := by
      rw [trimStart, List.dropWhile_cons_of_pos (by decide)]
      rfl
    rw [trimmed, digits, Calendar.trimStart_padded, ← digits, TimeOfDay.time?_format whole]
  rw [ofText?, String.toList_ofList, format, Date.date?_format plain]
  simp [blank, Calendar.whole?, asRead]

end SqlWire
