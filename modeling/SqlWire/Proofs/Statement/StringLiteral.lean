import SqlWire.Proofs.Statement.OpaqueLiteral

/-! # Strings, read by a server

A server finds the end of a string by its quotes and, unless it takes a backslash for itself, by its
escapes. This module holds that rule, which knows nothing of how strings are written, and shows that it
undoes the writing in both modes: byte by byte (`Literal.readInside_escape` and
`Literal.readInside_doubleQuote`), and so for any bytes, whatever follows them
(`Literal.readString_quoted`).
-/

namespace SqlWire

namespace Literal

/-- What a byte stands for behind a backslash. Six bytes have a meaning of their own; for `others` a
server may have any. -/
def escaped (others : UInt8 → Bytes) (b : UInt8) : Bytes :=
  if b == 0x30 then [0x00]
  else if b == 0x6E then [0x0A]
  else if b == 0x72 then [0x0D]
  else if b == 0x5A then [0x1A]
  else if b == backslash then [backslash]
  else if b == quote then [quote]
  else others b

/-- The bytes that a string stands for behind its opening quote, and what follows the closing one. Two
quotes stand for one. There is nothing to read if the string is not closed. -/
def readInside (noBackslashEscapes : Bool) (others : UInt8 → Bytes) : Bytes → Option (Bytes × Bytes)
  | [] => none
  | [b] => if b == quote then some ([], []) else none
  | b :: c :: rest =>
    if !noBackslashEscapes && b == backslash then
      (readInside noBackslashEscapes others rest).map fun (inside, after) =>
        (escaped others c ++ inside, after)
    else if b == quote && c == quote then
      (readInside noBackslashEscapes others rest).map fun (inside, after) => (quote :: inside, after)
    else if b == quote then some ([], c :: rest)
    else
      (readInside noBackslashEscapes others (c :: rest)).map fun (inside, after) =>
        (b :: inside, after)

/-- The bytes that a string at the start of a text stands for, and what follows the string. -/
def readString (noBackslashEscapes : Bool) (others : UInt8 → Bytes) : Bytes → Option (Bytes × Bytes)
  | [] => none
  | b :: rest => if b == quote then readInside noBackslashEscapes others rest else none

variable (others : UInt8 → Bytes)

/-- A server takes what was written behind a backslash for the byte for which it was written. -/
theorem escaped_of_escape {b c : UInt8} (written : escape b = [backslash, c]) :
    escaped others c = [b] := by
  have second {d : UInt8} (same : [backslash, d] = [backslash, c]) : d = c := by simpa using same
  unfold escape at written
  split_ifs at written with slash quotes zero line carriage ended
  · rw [← second written, eq_of_beq slash]
    rfl
  · rw [← second written, eq_of_beq quotes]
    rfl
  · rw [← second written, eq_of_beq zero]
    rfl
  · rw [← second written, eq_of_beq line]
    rfl
  · rw [← second written, eq_of_beq carriage]
    rfl
  · rw [← second written, eq_of_beq ended]
    rfl
  · simp at written

/-- The closing quote ends a string before anything but a quote. -/
theorem readInside_quote (noBackslashEscapes : Bool) {after : Bytes}
    (apart : after.head? ≠ some quote) :
    readInside noBackslashEscapes others (quote :: after) = some ([], after) := by
  cases after with
  | nil => rfl
  | cons c after =>
    have single : c ≠ quote := by simpa using apart
    have calm : quote ≠ backslash := by decide
    simp [readInside, calm, single]

/-- A byte that is neither a quote nor an escape stands for itself, if the string goes on. -/
theorem readInside_cons (noBackslashEscapes : Bool) {b : UInt8} {rest : Bytes}
    (slash : noBackslashEscapes = false → b ≠ backslash) (quotes : b ≠ quote) (some : rest ≠ []) :
    readInside noBackslashEscapes others (b :: rest) =
      (readInside noBackslashEscapes others rest).map fun (inside, after) => (b :: inside, after) := by
  obtain ⟨c, rest, rfl⟩ := List.exists_cons_of_ne_nil some
  have plain : (!noBackslashEscapes && b == backslash) = false := by
    cases noBackslashEscapes with
    | true => rfl
    | false => simpa using slash rfl
  simp [readInside, plain, quotes]

/-- Where a backslash escapes, a server reads what was written. -/
theorem readInside_escape (raw : Bytes) {after : Bytes} (apart : after.head? ≠ some quote) :
    readInside false others (raw.flatMap escape ++ quote :: after) = some (raw, after) := by
  induction raw with
  | nil => exact readInside_quote others false apart
  | cons b raw ih =>
    rw [List.flatMap_cons, List.append_assoc]
    obtain ⟨c, written⟩ | ⟨written, slash, quotes⟩ := escape_cases b
    · have meaning := escaped_of_escape others written
      rw [written]
      simp [readInside, ih, meaning]
    · rw [written, List.singleton_append,
        readInside_cons others false (fun _ => slash) quotes (by simp), ih]
      rfl

/-- Where a backslash is a backslash, a server reads what was written. -/
theorem readInside_doubleQuote (raw : Bytes) {after : Bytes} (apart : after.head? ≠ some quote) :
    readInside true others (raw.flatMap doubleQuote ++ quote :: after) = some (raw, after) := by
  induction raw with
  | nil => exact readInside_quote others true apart
  | cons b raw ih =>
    rw [List.flatMap_cons, List.append_assoc]
    by_cases quotes : b = quote
    · subst quotes
      simp [doubleQuote, readInside, ih]
    · have written : doubleQuote b = [b] := by simp [doubleQuote, quotes]
      have slash : true = false → b ≠ backslash := fun no => Bool.noConfusion no
      rw [written, List.singleton_append, readInside_cons others true slash quotes (by simp), ih]
      rfl

/-- A server reads the bytes of a string, and nothing of what follows. -/
theorem readString_quoted_append (noBackslashEscapes : Bool) (raw : Bytes) {after : Bytes}
    (apart : after.head? ≠ some quote) :
    readString noBackslashEscapes others (quoted noBackslashEscapes raw ++ after) =
      some (raw, after) := by
  cases noBackslashEscapes with
  | false => simpa [readString, quoted] using readInside_escape others raw apart
  | true => simpa [readString, quoted] using readInside_doubleQuote others raw apart

/-- A string is read back in the mode in which it was written: before anything but a quote it ends at its
last byte, and it stands for its bytes. Where a backslash escapes, the scanner of placeholders stops at
the same place. -/
theorem readString_quoted (noBackslashEscapes : Bool) (raw after : Bytes)
    (apart : after.head? ≠ some quote) :
    readString noBackslashEscapes others (quoted noBackslashEscapes raw ++ after) =
        some (raw, after) ∧
      (noBackslashEscapes = false →
        Token.splitQuoted true quote (quoted noBackslashEscapes raw ++ after).tail =
          ((quoted noBackslashEscapes raw).tail, after)) := by
  refine ⟨readString_quoted_append others noBackslashEscapes raw apart, ?_⟩
  rintro rfl
  have inside : (quoted false raw ++ after).tail = raw.flatMap escape ++ quote :: after := by
    simp [quoted]
  rw [inside]
  exact splitQuoted_escape raw apart

theorem readString_quoted_slashes :
    readString false (fun b => [b]) (quoted false [backslash, quote, 0x00, backslash] ++ [0x2C]) =
        some ([backslash, quote, 0x00, backslash], [0x2C]) ∧
      (false = false →
        Token.splitQuoted true quote (quoted false [backslash, quote, 0x00, backslash] ++ [0x2C]).tail =
          ((quoted false [backslash, quote, 0x00, backslash]).tail, [0x2C])) :=
  readString_quoted (fun b => [b]) false [backslash, quote, 0x00, backslash] [0x2C] (by decide)

/-- A quote behind a string would be taken for a part of it. -/
example : readString true (fun b => [b]) (quoted true [0x61] ++ [quote]) = none := by decide

end Literal

end SqlWire
