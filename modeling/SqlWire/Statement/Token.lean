import SqlWire.Bytes

/-! # Tokens of a statement

A statement is cut into tokens only as far as placeholders have to be told from everything else. A
quoted string, a quoted variable, a system variable and a comment are one token each, so that what
looks like a placeholder inside them is none. In a string a backslash hides the byte behind it,
except between backticks, and two quotes stand for one. What is not closed reaches to the end.

`Token.cut` loses no byte: the tokens of a text are the text.
-/

namespace SqlWire

inductive Token where
  /-- Bytes that stand for themselves. -/
  | plain (text : Bytes)
  /-- An at sign with the name behind it. -/
  | named (text : Bytes)
  /-- A question mark. -/
  | positional
deriving Repr, DecidableEq

namespace Token

def bytes : Token → Bytes
  | plain text => text
  | named text => text
  | positional => [0x3F]

/-- Whether a byte can be part of a name: an ASCII letter or digit, `_`, `.`, `$`, or a byte of any
character beyond ASCII. -/
def isNameByte (b : UInt8) : Bool :=
  (0x30 ≤ b && b ≤ 0x39) || (0x41 ≤ b && b ≤ 0x5A) || (0x61 ≤ b && b ≤ 0x7A) ||
    b == 0x5F || b == 0x2E || b == 0x24 || 0x80 ≤ b

/-- Whether a byte is one of the five ASCII blanks that end a comment mark. -/
def isGap (b : UInt8) : Bool := b == 0x20 || b == 0x09 || b == 0x0A || b == 0x0C || b == 0x0D

/-- Whether a byte opens and closes a string in which a backslash hides the next byte. -/
def isStringQuote (b : UInt8) : Bool := b == 0x27 || b == 0x22

/-- Whether a byte opens and closes a string of any kind. -/
def isQuote (b : UInt8) : Bool := isStringQuote b || b == 0x60

/-- A string behind its opening quote, up to and with the closing one, and what follows it. -/
def splitQuoted (escapes : Bool) (quote : UInt8) : Bytes → Bytes × Bytes
  | [] => ([], [])
  | [b] => ([b], [])
  | b :: c :: rest =>
    if (escapes && b == 0x5C) || (b == quote && c == quote) then
      let (inside, after) := splitQuoted escapes quote rest
      (b :: c :: inside, after)
    else if b == quote then ([b], c :: rest)
    else
      let (inside, after) := splitQuoted escapes quote (c :: rest)
      (b :: inside, after)

/-- A comment up to and with the end of its line, and what follows it. -/
def splitLine : Bytes → Bytes × Bytes
  | [] => ([], [])
  | b :: rest =>
    if b == 0x0A then ([b], rest)
    else
      let (inside, after) := splitLine rest
      (b :: inside, after)

/-- A comment behind its opening mark, up to and with the closing one, and what follows it. -/
def splitComment : Bytes → Bytes × Bytes
  | [] => ([], [])
  | [b] => ([b], [])
  | b :: c :: rest =>
    if b == 0x2A && c == 0x2F then ([b, c], rest)
    else
      let (inside, after) := splitComment (c :: rest)
      (b :: inside, after)

/-- Whether two dashes are a comment mark by what follows them. -/
def endsDashes : Bytes → Bool
  | [] => true
  | b :: _ => isGap b

/-- The token that starts with a dash, by what follows the dash, and what follows the token. -/
def afterDash : Bytes → Token × Bytes
  | [] => (plain [0x2D], [])
  | b :: rest =>
    if b == 0x2D && endsDashes rest then
      let (inside, after) := splitLine rest
      (plain (0x2D :: b :: inside), after)
    else (plain [0x2D], b :: rest)

/-- The token that starts with a slash, by what follows the slash, and what follows the token. -/
def afterSlash : Bytes → Token × Bytes
  | [] => (plain [0x2F], [])
  | b :: rest =>
    if b == 0x2A then
      let (inside, after) := splitComment rest
      (plain (0x2F :: b :: inside), after)
    else (plain [0x2F], b :: rest)

/-- The token that starts with an at sign, by what follows the sign, and what follows the token. -/
def afterAt : Bytes → Token × Bytes
  | [] => (plain [0x40], [])
  | b :: rest =>
    if b == 0x40 then
      (plain (0x40 :: b :: rest.takeWhile isNameByte), rest.dropWhile isNameByte)
    else if isQuote b then
      let (inside, after) := splitQuoted (isStringQuote b) b rest
      (plain (0x40 :: b :: inside), after)
    else if isNameByte b then
      (named (0x40 :: b :: rest.takeWhile isNameByte), rest.dropWhile isNameByte)
    else (plain [0x40], b :: rest)

/-- The first token of a text, by its first byte and what follows it, and what follows the token. -/
def first (b : UInt8) (rest : Bytes) : Token × Bytes :=
  if isQuote b then
    let (inside, after) := splitQuoted (isStringQuote b) b rest
    (plain (b :: inside), after)
  else if b == 0x23 then
    let (inside, after) := splitLine rest
    (plain (b :: inside), after)
  else if b == 0x2D then afterDash rest
  else if b == 0x2F then afterSlash rest
  else if b == 0x3F then (positional, rest)
  else if b == 0x40 then afterAt rest
  else (plain [b], rest)

theorem splitQuoted_append (escapes : Bool) (quote : UInt8) (text : Bytes) :
    (splitQuoted escapes quote text).1 ++ (splitQuoted escapes quote text).2 = text := by
  fun_induction splitQuoted escapes quote text <;> simp_all

theorem splitLine_append (text : Bytes) : (splitLine text).1 ++ (splitLine text).2 = text := by
  fun_induction splitLine text <;> simp_all

theorem splitComment_append (text : Bytes) :
    (splitComment text).1 ++ (splitComment text).2 = text := by
  fun_induction splitComment text <;> simp_all

theorem afterDash_append (text : Bytes) :
    (afterDash text).1.bytes ++ (afterDash text).2 = 0x2D :: text := by
  fun_cases afterDash text with
  | case2 b rest _ inside after split =>
    have whole := splitLine_append rest
    simp_all [bytes]
  | _ => simp [bytes]

theorem afterSlash_append (text : Bytes) :
    (afterSlash text).1.bytes ++ (afterSlash text).2 = 0x2F :: text := by
  fun_cases afterSlash text with
  | case2 b rest _ inside after split =>
    have whole := splitComment_append rest
    simp_all [bytes]
  | _ => simp [bytes]

theorem afterAt_append (text : Bytes) :
    (afterAt text).1.bytes ++ (afterAt text).2 = 0x40 :: text := by
  fun_cases afterAt text with
  | case3 b rest _ _ inside after split =>
    have whole := splitQuoted_append (isStringQuote b) b rest
    simp_all [bytes]
  | _ => simp [bytes]

/-- The first token and what follows it are the text. -/
theorem first_append (b : UInt8) (rest : Bytes) :
    (first b rest).1.bytes ++ (first b rest).2 = b :: rest := by
  fun_cases first b rest with
  | case1 _ inside after split =>
    have whole := splitQuoted_append (isStringQuote b) b rest
    simp_all [bytes]
  | case2 _ _ inside after split =>
    have whole := splitLine_append rest
    simp_all [bytes]
  | case3 => simp_all [afterDash_append]
  | case4 => simp_all [afterSlash_append]
  | case5 => simp_all [bytes]
  | case6 => simp_all [afterAt_append]
  | case7 => simp [bytes]

theorem bytes_ne_nil_first (b : UInt8) (rest : Bytes) : (first b rest).1.bytes ≠ [] := by
  fun_cases first b rest with
  | case3 => fun_cases afterDash rest <;> simp [bytes]
  | case4 => fun_cases afterSlash rest <;> simp [bytes]
  | case6 => fun_cases afterAt rest <;> simp [bytes]
  | _ => simp [bytes]

/-- No token is empty, so what follows the first is shorter than the text. -/
theorem first_length (b : UInt8) (rest : Bytes) : (first b rest).2.length ≤ rest.length := by
  have whole := congrArg List.length (first_append b rest)
  have some := List.length_pos_iff.mpr (bytes_ne_nil_first b rest)
  simp only [List.length_append, List.length_cons] at whole
  omega

/-- A text cut into its tokens. -/
def cut : Bytes → List Token
  | [] => []
  | b :: rest => (first b rest).1 :: cut (first b rest).2
termination_by text => text.length
decreasing_by exact Nat.lt_succ_of_le (first_length b rest)

/-- Cutting a text loses nothing. -/
theorem flatMap_bytes_cut (text : Bytes) : (cut text).flatMap bytes = text := by
  fun_induction cut text with
  | case1 => rfl
  | case2 b rest ih => rw [List.flatMap_cons, ih, first_append]

end Token

end SqlWire
