import Mathlib.Data.List.Infix
import SqlWire.Text.Blank
import SqlWire.Text.Split

/-! # Cutting text at separators and at markers

A text that was joined from pieces can be cut into them again if the cut is found by looking at the
text alone. For a separator of one character that is so as long as no piece has it inside. A marker
of several characters is looked for from the front: two texts with a marker between a first and a
second part are cut alike if no first part has a marker inside and no marker can begin inside another
one (`Marking.append_inj`). Every text with a marker inside has a first one
(`Marking.exists_first`).
-/

namespace SqlWire

/-- The pieces of a text are those of the library's way to split a list. -/
theorem splitAll_eq_splitOn (separator : Char) (text : List Char) :
    splitAll separator text = text.splitOn separator := by
  induction text with
  | nil => rfl
  | cons c rest ih =>
    rw [splitAll, List.splitOn_cons_eq_if_modifyHead, ih]
    split
    · rfl
    · obtain ⟨piece, others, pieces⟩ := List.exists_cons_of_ne_nil (List.splitOn_ne_nil separator rest)
      simp [pieces]

theorem splitOn_injective {separator : Char} {s t : List Char}
    (same : s.splitOn separator = t.splitOn separator) : s = t := by
  have joined (text : List Char) : [separator].intercalate (text.splitOn separator) = text :=
    List.intercalate_splitOn separator
  rw [← joined s, same, joined]

/-- A piece has no separator inside, and nothing that the text does not have. -/
theorem mem_of_mem_splitOn {separator : Char} {text piece : List Char}
    (member : piece ∈ text.splitOn separator) {c : Char} (inside : c ∈ piece) :
    c ∈ text ∧ c ≠ separator := by
  induction text generalizing piece with
  | nil =>
    obtain rfl : piece = [] := by simpa using member
    simp at inside
  | cons first rest ih =>
    rw [List.splitOn_cons_eq_if_modifyHead] at member
    split at member
    · rcases List.mem_cons.mp member with rfl | member
      · simp at inside
      · exact (ih member inside).imp_left (List.mem_cons_of_mem _)
    · next other =>
      obtain ⟨head, others, pieces⟩ := List.exists_cons_of_ne_nil (List.splitOn_ne_nil separator rest)
      rw [pieces, List.modifyHead_cons] at member
      rw [pieces] at ih
      rcases List.mem_cons.mp member with rfl | member
      · rcases List.mem_cons.mp inside with rfl | inside
        · exact ⟨List.mem_cons_self, by simpa using other⟩
        · exact (ih List.mem_cons_self inside).imp_left (List.mem_cons_of_mem _)
      · exact (ih (List.mem_cons_of_mem _ member) inside).imp_left (List.mem_cons_of_mem _)

/-- Joining texts adds nothing but the separator. -/
theorem mem_intercalate {separator : Char} {texts : List (List Char)} {c : Char}
    (inside : c ∈ [separator].intercalate texts) : c = separator ∨ ∃ text ∈ texts, c ∈ text := by
  by_cases empty : texts = []
  · simp [empty] at inside
  · by_cases other : c = separator
    · exact .inl other
    · right
      induction texts with
      | nil => exact (empty rfl).elim
      | cons text rest ih =>
        cases rest with
        | nil => exact ⟨text, by simp, by simpa using inside⟩
        | cons next rest =>
          rw [List.intercalate_cons_cons, List.append_assoc, List.singleton_append] at inside
          rcases List.mem_append.mp inside with here | later
          · exact ⟨text, by simp, here⟩
          · have later := (List.mem_cons.mp later).resolve_left other
            obtain ⟨found, member, here⟩ := ih later (List.cons_ne_nil _ _)
            exact ⟨found, List.mem_cons_of_mem _ member, here⟩

theorem mem_of_mem_trim {text : List Char} {c : Char} (inside : c ∈ trim text) : c ∈ text := by
  simp only [trim, trimEnd, trimStart, List.mem_reverse] at inside
  have inside := (List.dropWhile_sublist _).subset inside
  exact (List.dropWhile_sublist _).subset (List.mem_reverse.mp inside)

theorem mem_of_splitFirst? {separator : Char} {text before after : List Char}
    (cut : splitFirst? separator text = some (before, after)) :
    text = before ++ separator :: after := by
  induction text generalizing before with
  | nil => simp [splitFirst?] at cut
  | cons c rest ih =>
    rw [splitFirst?] at cut
    split at cut
    · next here =>
      cases cut
      rw [beq_iff_eq.mp here, List.nil_append]
    · obtain ⟨⟨front, back⟩, found, same⟩ := Option.map_eq_some_iff.mp cut
      cases same
      rw [ih found, List.cons_append]

theorem splitFirst?_append {separator : Char} {before : List Char} (absent : separator ∉ before)
    (after : List Char) :
    splitFirst? separator (before ++ separator :: after) = some (before, after) := by
  induction before with
  | nil => simp [splitFirst?]
  | cons c rest ih =>
    obtain ⟨other, later⟩ := not_or.mp (List.mem_cons.not.mp absent)
    have here : (c == separator) = false := beq_false_of_ne (Ne.symm other)
    rw [List.cons_append, splitFirst?, here, ih later]
    rfl

/-- Texts that mark a place. None of them begins inside another one, and none is another one with
something behind it. -/
structure Marking (IsMarker : List Char → Prop) : Prop where
  visible : ∀ m, IsMarker m → m ≠ []
  apart : ∀ m n, IsMarker m → IsMarker n → ∀ front back before behind, front ≠ [] → back ≠ [] →
    m = front ++ back → back ++ before ≠ n ++ behind
  whole : ∀ m n, IsMarker m → IsMarker n → ∀ before behind, m ++ before = n ++ behind → m = n

namespace Marking

variable {IsMarker : List Char → Prop}

/-- Whether no marker stands inside a text. -/
def IsFree (IsMarker : List Char → Prop) (text : List Char) : Prop :=
  ∀ m, IsMarker m → ¬ m <:+: text

theorem not_isFree_append {m a b : List Char} (marker : IsMarker m) :
    ¬ IsFree IsMarker (a ++ m ++ b) := by
  intro free
  exact free m marker ⟨a, b, rfl⟩

/-- Of two equal texts with a marker behind a first part, neither first part is the longer one. -/
private theorem eq_of_append_eq (marking : Marking IsMarker) {m n a e x y : List Char}
    (here : IsMarker m) (there : IsMarker n) (free : IsFree IsMarker (a ++ e))
    (same : m ++ x = e ++ (n ++ y)) : e = [] := by
  by_contra some
  obtain ⟨rest, rfl, _⟩ | ⟨back, whole, behind⟩ := List.append_eq_append_iff.mp same
  · exact not_isFree_append (a := a) here (by rwa [List.append_assoc])
  · by_cases none : back = []
    · rw [none, List.append_nil] at whole
      rw [← whole, ← List.append_nil (a ++ m)] at free
      exact not_isFree_append here free
    · exact marking.apart m n here there e back x y some none whole behind.symm

/-- A text is cut at its first marker in one way. -/
theorem append_inj (marking : Marking IsMarker) {m n a b x y : List Char}
    (here : IsMarker m) (there : IsMarker n) (free : IsFree IsMarker a) (free' : IsFree IsMarker b)
    (same : a ++ (m ++ x) = b ++ (n ++ y)) : a = b ∧ m = n ∧ x = y := by
  obtain rfl : a = b := by
    obtain ⟨e, rfl, more⟩ | ⟨e, rfl, more⟩ := List.append_eq_append_iff.mp same
    · rw [eq_of_append_eq marking here there free' more, List.append_nil]
    · rw [eq_of_append_eq marking there here free more, List.append_nil]
  have behind := List.append_cancel_left same
  obtain rfl := marking.whole m n here there x y behind
  exact ⟨rfl, rfl, List.append_cancel_left behind⟩

/-- A text with a marker inside has a first one. -/
theorem exists_first (marking : Marking IsMarker) {text : List Char} (marked : ¬ IsFree IsMarker text) :
    ∃ a m b, text = a ++ (m ++ b) ∧ IsMarker m ∧ IsFree IsMarker a := by
  induction length : text.length using Nat.strong_induction_on generalizing text with
  | _ count ih =>
    have found : ∃ a m b, text = a ++ (m ++ b) ∧ IsMarker m := by
      simp only [IsFree, not_forall, not_not] at marked
      obtain ⟨m, marker, a, b, whole⟩ := marked
      exact ⟨a, m, b, by rw [← whole, List.append_assoc], marker⟩
    obtain ⟨a, m, b, rfl, marker⟩ := found
    by_cases free : IsFree IsMarker a
    · exact ⟨a, m, b, rfl, marker, free⟩
    · have visible := List.length_pos_of_ne_nil (marking.visible m marker)
      have shorter : a.length < count := by
        rw [← length]
        simp only [List.length_append]
        omega
      obtain ⟨a', m', b', rfl, marker', free'⟩ := ih a.length shorter free rfl
      exact ⟨a', m', b' ++ (m ++ b), by simp, marker', free'⟩

/-- The first marker of a text with a marker before `rest` also stands before `rest`. -/
theorem exists_first_append (marking : Marking IsMarker) {m : List Char} (marker : IsMarker m)
    (text rest : List Char) :
    ∃ a n b, text ++ (m ++ rest) = a ++ (n ++ (b ++ rest)) ∧ IsMarker n ∧ IsFree IsMarker a := by
  by_cases free : IsFree IsMarker text
  · exact ⟨text, m, [], rfl, marker, free⟩
  · obtain ⟨a, n, b, rfl, marker', free'⟩ := marking.exists_first free
    exact ⟨a, n, b ++ m, by simp only [List.append_assoc], marker', free'⟩

end Marking

end SqlWire
