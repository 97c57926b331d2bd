/-! # Blank characters

The characters with the Unicode property `White_Space`, and texts without blanks at their ends.
-/

namespace SqlWire

/-- Whether a character is white space. -/
def isBlank (c : Char) : Bool :=
  let n := c.toNat
  (9 ≤ n && n ≤ 13) || n == 0x20 || n == 0x85 || n == 0xA0 || n == 0x1680 ||
    (0x2000 ≤ n && n ≤ 0x200A) || n == 0x2028 || n == 0x2029 || n == 0x202F || n == 0x205F ||
    n == 0x3000

/-- The characters from the first that is not blank. -/
def trimStart (text : List Char) : List Char := text.dropWhile isBlank

/-- The characters up to the last that is not blank. -/
def trimEnd (text : List Char) : List Char := (text.reverse.dropWhile isBlank).reverse

/-- The characters between the blanks at both ends. -/
def trim (text : List Char) : List Char := trimEnd (trimStart text)

/-- A text without the blanks at both ends. -/
def trimmed (text : String) : String := String.ofList (trim text.toList)

end SqlWire
