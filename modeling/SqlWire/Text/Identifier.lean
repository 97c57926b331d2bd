/-! # Quoted identifiers

An identifier stands between backticks, and a backtick inside it is written twice.
-/

namespace SqlWire

namespace Identifier

/-- The characters of an identifier with each backtick written twice. -/
def doubled : List Char → List Char
  | [] => []
  | c :: rest => if c == '\x60' then c :: c :: doubled rest else c :: doubled rest

/-- An identifier between backticks. -/
def quoteChars (name : List Char) : List Char := '\x60' :: doubled name ++ ['\x60']

def quote (name : String) : String := String.ofList (quoteChars name.toList)

/-- Two identifiers with a dot between them. -/
def quotePair (outer inner : String) : String := quote outer ++ "." ++ quote inner

/-- Reads an identifier behind its opening backtick; gives it with what follows the closing one. -/
def unquote? : List Char → Option (List Char × List Char)
  | [] => none
  | [c] => if c == '\x60' then some ([], []) else none
  | c :: d :: rest =>
    if c == '\x60' then
      if d == '\x60' then (unquote? rest).map fun (name, after) => (c :: name, after)
      else some ([], d :: rest)
    else (unquote? (d :: rest)).map fun (name, after) => (c :: name, after)

theorem length_of_unquote? {text name after : List Char} (h : unquote? text = some (name, after)) :
    after.length < text.length := by
  fun_induction unquote? text generalizing name after with
  | case1 => simp at h
  | case2 => simp_all
  | case3 => simp at h
  | case4 _ _ rest _ _ ih =>
    obtain ⟨⟨_, _⟩, found, same⟩ := Option.map_eq_some_iff.mp h
    have := ih found
    simp only [Prod.mk.injEq] at same
    simp only [List.length_cons, ← same.2]
    omega
  | case5 => simp_all
  | case6 _ _ rest _ ih =>
    obtain ⟨⟨_, _⟩, found, same⟩ := Option.map_eq_some_iff.mp h
    have := ih found
    simp only [Prod.mk.injEq] at same
    simp only [List.length_cons, ← same.2] at this ⊢
    omega

end Identifier

end SqlWire
