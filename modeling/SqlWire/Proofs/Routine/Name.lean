import SqlWire.Proofs.Text.Trimming
import SqlWire.Routine.Name

/-! # Names of routines and their written forms

An identifier between backticks is read back whatever its characters are (`unquote?_doubled`). So the
written form of a name tells it from every other name (`qualified_injective`), also where the parts hold
backticks and dots, and a written form is one of the spellings of its name, whatever schema is selected
(`ofText_qualified`). What is read has no empty part (`filled_of_ofText`), so that each name that a text
can have is read back from its written form, and no other name is (`ofText_round_trip`).
-/

namespace SqlWire

namespace Identifier

/-- An identifier ends at the first backtick that is not doubled. -/
theorem unquote?_doubled (name : List Char) {after : List Char} (apart : after.head? ≠ some '\x60') :
    unquote? (doubled name ++ '\x60' :: after) = some (name, after) := by
  induction name with
  | nil =>
    cases after with
    | nil => rfl
    | cons d rest =>
      have other : d ≠ '\x60' := fun same => apart (congrArg some same)
      simp [doubled, unquote?, other]
  | cons c name ih =>
    by_cases tick : c = '\x60'
    · simp [doubled, unquote?, tick, ih]
    · have closes : doubled name ++ '\x60' :: after ≠ [] := by simp
      obtain ⟨d, rest, more⟩ := List.exists_cons_of_ne_nil closes
      have step : doubled (c :: name) ++ '\x60' :: after = c :: d :: rest := by
        simp [doubled, tick, more]
      rw [step, unquote?]
      simp [tick, ← more, ih]

end Identifier

namespace RoutineName

/-- The characters of a written form behind its first backtick. -/
def quotedTail (n : RoutineName) : List Char :=
  Identifier.doubled n.schema.toList ++
    '\x60' :: '.' :: '\x60' :: (Identifier.doubled n.component.toList ++ ['\x60'])

theorem toList_qualified (n : RoutineName) : n.qualified.toList = '\x60' :: n.quotedTail := by
  simp [qualified, quotedTail, Identifier.quotePair, Identifier.quote, Identifier.quoteChars]

theorem qualified_injective {n m : RoutineName} (same : n.qualified = m.qualified) : n = m := by
  have tails : n.quotedTail = m.quotedTail := by
    have lists := congrArg String.toList same
    rw [toList_qualified, toList_qualified] at lists
    exact List.tail_eq_of_cons_eq lists
  have schemas := congrArg Identifier.unquote? tails
  rw [quotedTail, quotedTail, Identifier.unquote?_doubled _ (by simp),
    Identifier.unquote?_doubled _ (by simp), Option.some.injEq, Prod.mk.injEq] at schemas
  obtain ⟨schema, rest⟩ := schemas
  have components := congrArg (fun rest => Identifier.unquote? (rest.drop 2)) rest
  simp only [List.drop_succ_cons, List.drop_zero] at components
  rw [Identifier.unquote?_doubled _ (by simp), Identifier.unquote?_doubled _ (by simp),
    Option.some.injEq, Prod.mk.injEq] at components
  obtain ⟨component, -⟩ := components
  cases n
  cases m
  simp_all [String.toList_inj]

/-- A part between backticks is read up to the closing one. -/
theorem part?_quoted (name : List Char) {after : List Char} (apart : after.head? ≠ some '\x60') :
    part? ('\x60' :: (Identifier.doubled name ++ '\x60' :: after)) = some (name, after) := by
  rw [part?, beq_self_eq_true, if_pos rfl]
  exact Identifier.unquote?_doubled name apart

theorem parts?_last {text part : List Char} (read : part? text = some (part, []))
    (filled : part ≠ []) : parts? text = some [part] := by
  rw [parts?]
  split <;> simp_all

theorem parts?_dot {text part rest : List Char} (read : part? text = some (part, '.' :: rest))
    (filled : part ≠ []) : parts? text = (parts? rest).map (part :: ·) := by
  rw [parts?]
  split <;> simp_all

/-- A name is read from its written form, whatever schema is selected. -/
theorem ofText_qualified {n : RoutineName} (schema : n.schema ≠ "") (component : n.component ≠ "")
    (selected : Option String) : ofText selected n.qualified = .ok n := by
  have bare : IsTrim n.qualified.toList := by
    constructor
    · intro c first
      obtain rfl : '\x60' = c := by simpa [toList_qualified] using first
      rfl
    · intro c last
      have ends : n.qualified.toList =
          ('\x60' :: Identifier.doubled n.schema.toList ++
            '\x60' :: '.' :: '\x60' :: Identifier.doubled n.component.toList) ++ ['\x60'] := by
        simp [toList_qualified, quotedTail]
      rw [ends, List.getLast?_concat] at last
      cases last
      rfl
  have second : parts? ('\x60' :: (Identifier.doubled n.component.toList ++ ['\x60'])) =
      some [n.component.toList] :=
    parts?_last (part?_quoted _ (by simp)) (by simpa using component)
  have whole : parts? n.qualified.toList = some [n.schema.toList, n.component.toList] := by
    rw [toList_qualified, quotedTail,
      parts?_dot (part?_quoted _ (by simp)) (by simpa using schema), second]
    rfl
  rw [ofText, bare.trim_eq, whole]
  simp

/-- No part of a name that has been read is empty. -/
theorem ne_nil_of_parts? {text : List Char} {parts : List (List Char)}
    (read : parts? text = some parts) : ∀ part ∈ parts, part ≠ [] := by
  fun_induction parts? text generalizing parts with
  | case1 | case2 | case4 => cases read
  | case3 text part last filled =>
    cases read
    simpa using filled
  | case5 text part c rest next shorter dotted ih =>
    obtain ⟨others, behind, rfl⟩ := Option.map_eq_some_iff.mp read
    have filled : part ≠ [] := by
      rintro rfl
      simp at dotted
    exact List.forall_mem_cons.mpr ⟨filled, ih behind⟩

theorem filled_of_ofText {selected : Option String} {text : String} {n : RoutineName}
    (named : ofText selected text = .ok n) : n.schema ≠ "" ∧ n.component ≠ "" := by
  unfold ofText at named
  split at named
  · next component read =>
    have filled := ne_nil_of_parts? read component (by simp)
    split at named
    · next schema default =>
      obtain ⟨-, given⟩ := Option.filter_eq_some_iff.mp default
      cases named
      exact ⟨by simpa using given, by simpa using filled⟩
    · cases named
  · next schema component read =>
    have filled := ne_nil_of_parts? read
    cases named
    exact ⟨by simpa using filled schema (by simp), by simpa using filled component (by simp)⟩
  · cases named

/-- A name is read back from its written form just if no part of it is empty, whatever schema is
selected; the written form tells each name from every other; and what is read from any text has no
empty part, so that its written form stands for it while any schema is selected. -/
theorem ofText_round_trip :
    (∀ (n : RoutineName) (selected : Option String),
      ofText selected n.qualified = .ok n ↔ n.schema ≠ "" ∧ n.component ≠ "") ∧
    Function.Injective qualified ∧
    ∀ (n : RoutineName) (selected : Option String) (text : String),
      ofText selected text = .ok n →
        (n.schema ≠ "" ∧ n.component ≠ "") ∧ ∀ other, ofText other n.qualified = .ok n := by
  refine ⟨?_, fun _ _ same => qualified_injective same, ?_⟩
  · intro n selected
    exact ⟨filled_of_ofText, fun ⟨schema, component⟩ => ofText_qualified schema component selected⟩
  · intro n selected text named
    have filled := filled_of_ofText named
    exact ⟨filled, ofText_qualified filled.1 filled.2⟩

/-- A schema of blanks and backticks, a component that is a dot. -/
theorem ofText_round_trip_ticks :
    ofText none "` ``  `` `.`.`" = .ok ⟨" `  ` ", "."⟩ ∧
      ofText (some "shop") "top" = .ok ⟨"shop", "top"⟩ ∧
      ofText none "`shop`.`top`" = .ok ⟨"shop", "top"⟩ := by
  have read : parts? (trim "top".toList) = some ["top".toList] :=
    parts?_last (by decide) (by decide)
  have top : ofText (some "shop") "top" = .ok ⟨"shop", "top"⟩ := by
    rw [ofText, read]
    rfl
  exact ⟨(ofText_round_trip.1 ⟨" `  ` ", "."⟩ none).mpr (by decide), top,
    (ofText_round_trip.2.2 _ _ _ top).2 none⟩

end RoutineName

end SqlWire
