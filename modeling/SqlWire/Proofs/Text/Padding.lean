import Mathlib.Data.List.Forall2
import Mathlib.Data.List.TakeWhile
import SqlWire.Proofs.Text.Splitting

/-! # Texts with blanks around them

Blanks in front of a text and behind it do not count for what is trimmed (`IsPadded.trim_eq`). A text
that is cut at a separator may have them around each of its pieces: around the whole they are around its
first and its last piece (`IsPadded.isSpaced`), and a pair that is trimmed as a whole is cut into the same
two texts but for blanks (`splitFirst?_trim`).
-/

namespace SqlWire

/-- Whether a text is another with blanks in front of it and behind it. -/
def IsPadded (text padded : List Char) : Prop :=
  ∃ before after, padded = before ++ text ++ after ∧ (∀ c ∈ before, isBlank c = true) ∧
    ∀ c ∈ after, isBlank c = true

theorem not_mem_of_blank {blanks : List Char} (blank : ∀ d ∈ blanks, isBlank d = true) {c : Char}
    (visible : isBlank c = false) : c ∉ blanks := by
  intro inside
  rw [blank c inside] at visible
  cases visible

theorem trimStart_append {before : List Char} (blank : ∀ c ∈ before, isBlank c = true)
    (text : List Char) : trimStart (before ++ text) = trimStart text :=
  List.dropWhile_append_of_pos blank

theorem trimEnd_append {after : List Char} (blank : ∀ c ∈ after, isBlank c = true)
    (text : List Char) : trimEnd (text ++ after) = trimEnd text := by
  rw [trimEnd, trimEnd, List.reverse_append, List.dropWhile_append_of_pos (by simpa using blank)]

/-- A text of blanks is nothing when it is trimmed. -/
theorem trim_eq_nil {text : List Char} (blank : ∀ c ∈ text, isBlank c = true) : trim text = [] := by
  rw [trim, trimStart, List.dropWhile_eq_nil_iff.mpr blank]
  rfl

/-- In front of something that is no blank a text is trimmed at its start alone. -/
theorem trimStart_append_cons (text : List Char) {c : Char} (visible : isBlank c = false)
    (rest : List Char) : trimStart (text ++ c :: rest) = trimStart text ++ c :: rest := by
  induction text with
  | nil => simp [trimStart, visible]
  | cons d others ih =>
    by_cases blank : isBlank d = true
    · simpa only [trimStart, List.cons_append, List.dropWhile_cons_of_pos blank] using ih
    · simp only [trimStart, List.cons_append, List.dropWhile_cons_of_neg blank]

/-- Behind something that is no blank a text is trimmed at its end alone. -/
theorem trimEnd_append_cons (text : List Char) {c : Char} (visible : isBlank c = false)
    (rest : List Char) : trimEnd (text ++ c :: rest) = text ++ c :: trimEnd rest := by
  have mirrored := trimStart_append_cons rest.reverse visible text.reverse
  rw [trimStart, trimStart] at mirrored
  simp [trimEnd, mirrored]

namespace IsPadded

variable {text padded : List Char}

theorem refl (text : List Char) : IsPadded text text := ⟨[], [], by simp, nofun, nofun⟩

theorem trim_eq (pads : IsPadded text padded) : trim padded = trim text := by
  obtain ⟨before, after, rfl, front, back⟩ := pads
  rw [List.append_assoc, trim, trimStart_append front, trim]
  by_cases empty : trimStart text = []
  · have blank : ∀ c ∈ text ++ after, isBlank c = true := by
      intro c member
      rcases List.mem_append.mp member with inside | behind
      · exact List.dropWhile_eq_nil_iff.mp empty c inside
      · exact back c behind
    rw [empty, trimStart, List.dropWhile_eq_nil_iff.mpr blank]
  · have same : trimStart (text ++ after) = trimStart text ++ after := by
      rw [trimStart, List.dropWhile_append, if_neg (by simpa [trimStart] using empty), trimStart]
    rw [same, trimEnd_append back]

/-- Padding has no character inside that is no blank, but for what it is around. -/
theorem not_mem (pads : IsPadded text padded) {c : Char} (visible : isBlank c = false)
    (absent : c ∉ text) : c ∉ padded := by
  obtain ⟨before, after, rfl, front, back⟩ := pads
  exact List.not_mem_append (List.not_mem_append (not_mem_of_blank front visible) absent)
    (not_mem_of_blank back visible)

theorem trimStart (text : List Char) : IsPadded (trimStart text) text :=
  ⟨text.takeWhile isBlank, [], by simp [SqlWire.trimStart], fun _ => List.mem_takeWhile_imp, nofun⟩

theorem trimEnd (text : List Char) : IsPadded (trimEnd text) text := by
  refine ⟨[], (text.reverse.takeWhile isBlank).reverse, ?_, nofun, ?_⟩
  · rw [List.nil_append, SqlWire.trimEnd, ← List.reverse_append, List.takeWhile_append_dropWhile,
      List.reverse_reverse]
  · intro c member
    exact List.mem_takeWhile_imp (List.mem_reverse.mp member)

theorem trans {more : List Char} (inner : IsPadded text padded) (outer : IsPadded padded more) :
    IsPadded text more := by
  obtain ⟨before, after, rfl, front, back⟩ := inner
  obtain ⟨earlier, later, rfl, first, last⟩ := outer
  refine ⟨earlier ++ before, after ++ later, by simp only [List.append_assoc], ?_, ?_⟩
  · exact List.forall_mem_append.mpr ⟨first, front⟩
  · exact List.forall_mem_append.mpr ⟨back, last⟩

theorem trim (text : List Char) : IsPadded (trim text) text :=
  (trimEnd (SqlWire.trimStart text)).trans (trimStart text)

end IsPadded

/-- A pair that is trimmed as a whole is cut into its two texts but for blanks. -/
theorem splitFirst?_trim {separator : Char} (visible : isBlank separator = false) {key : List Char}
    (absent : separator ∉ key) (value : List Char) :
    splitFirst? separator (trim (key ++ separator :: value)) =
      some (trimStart key, trimEnd value) := by
  have whole : separator ∉ trimStart key := fun inside => absent ((List.dropWhile_sublist _).subset inside)
  rw [trim, trimStart_append_cons key visible, trimEnd_append_cons _ visible, splitFirst?_append whole]

/-- Whether a text is another with blanks around its separators. -/
def IsSpaced (separator : Char) (text spaced : List Char) : Prop :=
  List.Forall₂ IsPadded (splitAll separator text) (splitAll separator spaced)

namespace IsSpaced

variable {separator : Char} {text spaced : List Char}

theorem map_trim_eq (spaces : IsSpaced separator text spaced) :
    (splitAll separator spaced).map trim = (splitAll separator text).map trim := by
  unfold IsSpaced at spaces
  generalize splitAll separator text = pieces, splitAll separator spaced = others at spaces
  induction spaces with
  | nil => rfl
  | cons pads _ ih => rw [List.map_cons, List.map_cons, pads.trim_eq, ih]

theorem not_mem (spaces : IsSpaced separator text spaced) {c : Char} (visible : isBlank c = false)
    (other : c ≠ separator) (absent : c ∉ text) : c ∉ spaced := by
  have apart : ∀ piece ∈ splitAll separator text, c ∉ piece := by
    intro piece member inside
    rw [splitAll_eq_splitOn] at member
    exact absent (mem_of_mem_splitOn member inside).1
  have spacedApart : ∀ piece ∈ splitAll separator spaced, c ∉ piece := by
    unfold IsSpaced at spaces
    generalize splitAll separator text = pieces, splitAll separator spaced = others at spaces apart
    induction spaces with
    | nil => nofun
    | cons pads _ ih =>
      obtain ⟨first, later⟩ := List.forall_mem_cons.mp apart
      exact List.forall_mem_cons.mpr ⟨pads.not_mem visible first, ih later⟩
  intro inside
  have joined : [separator].intercalate (splitAll separator spaced) = spaced := by
    rw [splitAll_eq_splitOn, List.intercalate_splitOn]
  rw [← joined] at inside
  obtain same | ⟨piece, member, within⟩ := mem_intercalate inside
  · exact other same
  · exact spacedApart piece member within

end IsSpaced

section whole

variable {separator : Char} (visible : isBlank separator = false)
include visible

/-- Blanks behind a text are behind its last piece. -/
private theorem forall₂_append {after : List Char} (blank : ∀ c ∈ after, isBlank c = true)
    (text : List Char) :
    List.Forall₂ (fun piece longer => ∃ more, longer = piece ++ more ∧ ∀ c ∈ more, isBlank c = true)
      (splitAll separator text) (splitAll separator (text ++ after)) := by
  simp only [splitAll_eq_splitOn]
  induction text with
  | nil =>
    rw [List.nil_append, List.splitOn_eq_singleton (not_mem_of_blank blank visible)]
    exact .cons ⟨after, rfl, blank⟩ .nil
  | cons c rest ih =>
    rw [List.cons_append, List.splitOn_cons_eq_if_modifyHead, List.splitOn_cons_eq_if_modifyHead]
    split
    · exact .cons ⟨[], rfl, nofun⟩ ih
    · generalize rest.splitOn separator = pieces, (rest ++ after).splitOn separator = others at ih
      cases ih with
      | nil => exact .nil
      | cons first later =>
        obtain ⟨more, rfl, blanks⟩ := first
        exact .cons ⟨more, rfl, blanks⟩ later

/-- Blanks around a text are around its first and its last piece. -/
theorem IsPadded.isSpaced {text padded : List Char} (pads : IsPadded text padded) :
    IsSpaced separator text padded := by
  obtain ⟨before, after, rfl, front, back⟩ := pads
  rw [List.append_assoc]
  induction before with
  | nil =>
    refine (forall₂_append visible back text).imp ?_
    rintro piece _ ⟨more, rfl, blanks⟩
    exact ⟨[], more, rfl, nofun, blanks⟩
  | cons c rest ih =>
    obtain ⟨blank, others⟩ := List.forall_mem_cons.mp front
    have pieces := ih others
    have other : (c == separator) = false := by
      rw [beq_eq_false_iff_ne]
      rintro rfl
      exact not_mem_of_blank front visible List.mem_cons_self
    simp only [IsSpaced, splitAll_eq_splitOn] at pieces ⊢
    rw [List.cons_append, List.splitOn_cons_eq_if_modifyHead, other]
    generalize text.splitOn separator = pieces, (rest ++ (text ++ after)).splitOn separator = longer
      at pieces
    cases pieces with
    | nil => exact .nil
    | cons first later =>
      obtain ⟨ahead, behind, rfl, blanks, others⟩ := first
      exact .cons ⟨c :: ahead, behind, rfl, List.forall_mem_cons.mpr ⟨blank, blanks⟩, others⟩ later

end whole

end SqlWire
