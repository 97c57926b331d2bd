/-! # Letters without case

Comparisons that take the letters `A` to `Z` and `a` to `z` as equal and every other character as
itself.
-/

namespace SqlWire

namespace Ascii

/-- A letter from `A` to `Z` in lower case; any other character as it is. -/
def lower (c : Char) : Char := if 'A' ≤ c && c ≤ 'Z' then Char.ofNat (c.toNat + 32) else c

/-- A text with its letters from `A` to `Z` in lower case. -/
def lowered (text : List Char) : List Char := text.map lower

/-- Whether a text has ASCII characters alone. -/
def isText (text : String) : Bool := text.toList.all fun c => c.toNat < 0x80

/-- Whether two texts differ in the case of their ASCII letters at most. -/
def sameLetters (a b : String) : Bool := lowered a.toList == lowered b.toList

end Ascii

end SqlWire
