import SqlWire.Client.Error
import SqlWire.Text.Blank
import SqlWire.Text.Identifier

/-! # Names of routines

A routine is named by a schema and a component, or by a component alone in the schema that is
selected. Each part stands between backticks or reaches to the next dot; blanks around an unquoted
part do not count, and no part is empty.
-/

namespace SqlWire

structure RoutineName where
  schema : String
  component : String
deriving Repr, DecidableEq

namespace RoutineName

def qualified (n : RoutineName) : String := Identifier.quotePair n.schema n.component

/-- The first part of a name and what follows it. -/
def part? : List Char → Option (List Char × List Char)
  | [] => some ([], [])
  | c :: rest =>
    if c == '\x60' then Identifier.unquote? rest
    else some (trim ((c :: rest).takeWhile (· != '.')), (c :: rest).dropWhile (· != '.'))

theorem length_of_part? {text part after : List Char} (h : part? text = some (part, after)) :
    after.length ≤ text.length := by
  fun_cases part? text with
  | case1 => simp_all [part?]
  | case2 c rest quoted =>
    simp only [part?, quoted, ↓reduceIte] at h
    have := Identifier.length_of_unquote? h
    simp only [List.length_cons]
    omega
  | case3 c rest bare =>
    simp only [part?, bare, Bool.false_eq_true, ↓reduceIte, Option.some.injEq, Prod.mk.injEq] at h
    rw [← h.2]
    exact (List.dropWhile_sublist _).length_le

/-- The parts of a name, which stand between dots. -/
def parts? (text : List Char) : Option (List (List Char)) :=
  match h : part? text with
  | none => none
  | some (part, []) => if part.isEmpty then none else some [part]
  | some (part, c :: rest) =>
    have : rest.length < text.length := length_of_part? h
    if part.isEmpty || c != '.' then none else (parts? rest).map (part :: ·)
termination_by text.length

/-- The routine that a text names while a schema is selected. -/
def ofText (selected : Option String) (text : String) : Except BindingError RoutineName :=
  match parts? (trim text.toList) with
  | some [component] =>
    match selected.filter fun schema => !schema.isEmpty with
    | some schema => .ok ⟨schema, String.ofList component⟩
    | none => .error (.unknownSchema text)
  | some [schema, component] => .ok ⟨String.ofList schema, String.ofList component⟩
  | _ => .error (.malformedRoutine text)

end RoutineName

end SqlWire
