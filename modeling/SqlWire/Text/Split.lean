/-! # Splitting text

A text is split at every place where a character stands, or at the first one.
-/

namespace SqlWire

/-- The pieces of a text between separators: one more than there are separators. -/
def splitAll (separator : Char) : List Char → List (List Char)
  | [] => [[]]
  | c :: rest =>
    if c == separator then [] :: splitAll separator rest
    else
      match splitAll separator rest with
      | [] => [[c]]
      | piece :: others => (c :: piece) :: others

/-- What stands before and after the first separator, if there is one. -/
def splitFirst? (separator : Char) : List Char → Option (List Char × List Char)
  | [] => none
  | c :: rest =>
    if c == separator then some ([], rest)
    else (splitFirst? separator rest).map fun (before, after) => (c :: before, after)

end SqlWire
