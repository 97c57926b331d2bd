import SqlWire.Proofs.Text.Lower
import SqlWire.Statement.Parameter

/-! # Looking parameters up by their names

The signs, quotes and blanks that are taken off a name are the same in its lower case
(`Name.normalChars_text`), so names that are equal in lower case have normal forms that are
(`Name.sameIgnoringCase_normal`) and mean the same parameter (`Parameters.flexibleIndexOf?_congr`). That is
the first with the name as it is written, and only where there is none the first with its normal form
(`Parameters.flexibleIndexOf?_eq_some_iff`).
-/

namespace SqlWire

namespace Name

open Lower (IsSeparator)

theorem withoutSign_cons {c : Char} {rest : List Char} (commercial : c ≠ '@') (question : c ≠ '?') :
    withoutSign (c :: rest) = c :: rest := by
  unfold withoutSign
  split
  · next same => exact (commercial (List.cons.inj same).1).elim
  · next same => exact (question (List.cons.inj same).1).elim
  · rfl

/-- The sign of a placeholder is in front of a name if it is in front of its lower case. -/
theorem withoutSign_text (name : List Char) :
    withoutSign (Lower.text name) = Lower.text (withoutSign name) := by
  have commercial : IsSeparator '@' := by decide
  have question : IsSeparator '?' := by decide
  cases name with
  | nil => rfl
  | cons c rest =>
    by_cases signed : c = '@' ∨ c = '?'
    · rcases signed with rfl | rfl
      · rw [Lower.text_cons commercial]
        rfl
      · rw [Lower.text_cons question]
        rfl
    · obtain ⟨other, another⟩ := not_or.mp signed
      rw [withoutSign_cons other another]
      obtain ⟨d, more, letters, apart⟩ := Lower.exists_text_cons c rest
      rw [letters, withoutSign_cons (apart commercial other) (apart question another)]

variable {quote : Char} (separates : IsSeparator quote)
include separates

/-- A name is between quotes if its lower case is. -/
theorem between?_text (name : List Char) :
    between? quote (Lower.text name) = (between? quote name).map Lower.text := by
  cases name with
  | nil => rfl
  | cons c rest =>
    by_cases opened : c = quote
    · subst opened
      have ends := Lower.getLast?_text separates rest
      rw [Lower.text_cons separates, between?, between?]
      by_cases closed : rest.getLast? = some c
      · simp [closed, ends.mpr closed, Lower.dropLast_text separates closed]
      · simp [closed, mt ends.mp closed]
    · obtain ⟨d, more, letters, apart⟩ := Lower.exists_text_cons c rest
      rw [letters, between?, between?]
      simp [opened, apart separates opened]

omit separates

/-- The normal form of a name in lower case is that of the name, in lower case. -/
theorem normalChars_text (name : List Char) :
    normalChars (Lower.text name) = Lower.text (normalChars name) := by
  simp only [normalChars, Lower.trim_text, withoutSign_text]
  generalize withoutSign (trim name) = bare
  have tick : IsSeparator '\x60' := by decide
  have single : IsSeparator '\'' := by decide
  have double : IsSeparator '"' := by decide
  simp only [List.findSome?_cons, List.findSome?_nil, between?_text tick, between?_text single,
    between?_text double]
  cases between? '\x60' bare with
  | some inner => rfl
  | none =>
    cases between? '\'' bare with
    | some inner => rfl
    | none => cases between? '"' bare <;> rfl

theorem sameIgnoringCase_normal {n m : String} (same : sameIgnoringCase n m = true) :
    sameIgnoringCase (normal n) (normal m) = true := by
  rw [sameIgnoringCase_iff] at same ⊢
  rw [normal, normal, String.toList_ofList, String.toList_ofList, ← normalChars_text, same,
    normalChars_text]

end Name

/-- Whether a parameter has a name as it is written, whatever the case of its letters. -/
def Parameter.IsNamed (p : Parameter) (name : String) : Prop :=
  Lower.text p.name.toList = Lower.text name.toList

/-- Whether a parameter has the normal form of a name, whatever the case of its letters. -/
def Parameter.IsNormallyNamed (p : Parameter) (name : String) : Prop :=
  Lower.text p.normalName.toList = Lower.text (Name.normal name).toList

namespace Parameters

/-- Whether the parameter at a place is the first that meets a condition. -/
structure IsFirst (ps : Parameters) (meets : Parameter → Prop) (place : Nat) : Prop where
  here : ∃ p, ps[place]? = some p ∧ meets p
  first : ∀ earlier < place, ∀ q, ps[earlier]? = some q → ¬ meets q

section search

variable {ps : Parameters} {meets : Parameter → Prop} {test : Parameter → Bool}
  (tests : ∀ p, test p = true ↔ meets p)
include tests

theorem findIdx?_eq_some_iff {place : Nat} : ps.findIdx? test = some place ↔ ps.IsFirst meets place := by
  rw [List.findIdx?_eq_some_iff_getElem]
  constructor
  · rintro ⟨inside, found, others⟩
    refine ⟨⟨ps[place], List.getElem?_eq_getElem inside, (tests _).mp found⟩, ?_⟩
    intro earlier less q there
    obtain ⟨_, rfl⟩ := List.getElem?_eq_some_iff.mp there
    exact fun meets => others earlier less ((tests _).mpr meets)
  · rintro ⟨⟨p, here, found⟩, others⟩
    obtain ⟨inside, rfl⟩ := List.getElem?_eq_some_iff.mp here
    refine ⟨inside, (tests _).mpr found, fun earlier less there => ?_⟩
    exact others earlier less _ (List.getElem?_eq_getElem (Nat.lt_trans less inside)) ((tests _).mp there)

theorem findIdx?_eq_none_iff : ps.findIdx? test = none ↔ ∀ p ∈ ps, ¬ meets p := by
  simp only [List.findIdx?_eq_none_iff, ← Bool.not_eq_true, tests]

end search

variable {ps : Parameters} {n m : String}

theorem indexOf?_eq_some_iff {place : Nat} :
    ps.indexOf? n = some place ↔ ps.IsFirst (·.IsNamed n) place :=
  findIdx?_eq_some_iff fun _ => sameIgnoringCase_iff

theorem indexOf?_eq_none_iff : ps.indexOf? n = none ↔ ∀ p ∈ ps, ¬ p.IsNamed n :=
  findIdx?_eq_none_iff fun _ => sameIgnoringCase_iff

theorem normalIndexOf?_eq_some_iff {place : Nat} :
    ps.normalIndexOf? n = some place ↔ ps.IsFirst (·.IsNormallyNamed n) place :=
  findIdx?_eq_some_iff fun _ => sameIgnoringCase_iff

theorem normalIndexOf?_eq_none_iff : ps.normalIndexOf? n = none ↔ ∀ p ∈ ps, ¬ p.IsNormallyNamed n :=
  findIdx?_eq_none_iff fun _ => sameIgnoringCase_iff

/-- The parameter that is meant is the first with the name as it is written, else the first with its
normal form. -/
theorem flexibleIndexOf?_eq_some_iff {place : Nat} :
    ps.flexibleIndexOf? n = some place ↔
      ps.IsFirst (·.IsNamed n) place ∨
        (∀ p ∈ ps, ¬ p.IsNamed n) ∧ ps.IsFirst (·.IsNormallyNamed n) place := by
  rw [flexibleIndexOf?, Option.or_eq_some_iff, indexOf?_eq_some_iff, indexOf?_eq_none_iff,
    normalIndexOf?_eq_some_iff]

theorem flexibleIndexOf?_eq_none_iff :
    ps.flexibleIndexOf? n = none ↔ ∀ p ∈ ps, ¬ p.IsNamed n ∧ ¬ p.IsNormallyNamed n := by
  rw [flexibleIndexOf?, Option.or_eq_none_iff, indexOf?_eq_none_iff, normalIndexOf?_eq_none_iff,
    ← forall₂_and]

/-- Names that are equal in lower case mean the same parameter. -/
theorem flexibleIndexOf?_congr (same : sameIgnoringCase n m = true) :
    ps.flexibleIndexOf? n = ps.flexibleIndexOf? m := by
  have normal := Name.sameIgnoringCase_normal same
  rw [sameIgnoringCase_iff] at same normal
  apply Option.ext
  intro place
  simp only [flexibleIndexOf?_eq_some_iff, Parameter.IsNamed, Parameter.IsNormallyNamed, same, normal]

/-- Two names are the same just if they are equal in lower case, however they are compared; names that are
the same mean the same parameter. This is the first whose name is the same as it is written, and only where
there is none the first whose normal form is. -/
theorem lookup_ignores_case :
    (∀ a b, sameIgnoringCase a b = true ↔ Lower.text a.toList = Lower.text b.toList) ∧
      (Equivalence fun a b => sameIgnoringCase a b = true) ∧
      (∀ (ps : Parameters) (n m : String), sameIgnoringCase n m = true →
        ps.flexibleIndexOf? n = ps.flexibleIndexOf? m) ∧
      ∀ (ps : Parameters) (n : String),
        (∀ place, ps.flexibleIndexOf? n = some place ↔
          ps.IsFirst (·.IsNamed n) place ∨
            (∀ p ∈ ps, ¬ p.IsNamed n) ∧ ps.IsFirst (·.IsNormallyNamed n) place) ∧
        (ps.flexibleIndexOf? n = none ↔ ∀ p ∈ ps, ¬ p.IsNamed n ∧ ¬ p.IsNormallyNamed n) :=
  ⟨fun _ _ => sameIgnoringCase_iff, equivalence_sameIgnoringCase, fun _ _ _ => flexibleIndexOf?_congr,
    fun _ _ => ⟨fun _ => flexibleIndexOf?_eq_some_iff, flexibleIndexOf?_eq_none_iff⟩⟩

/-- The kelvin sign is a letter K beyond ASCII. The name with `@` in front of it means the parameter that
is written so, though the one before that has the same normal form. -/
theorem lookup_ignores_case_kelvin :
    let ps : Parameters := [⟨"key", .null, none, none⟩, ⟨"@KEY", .null, none, none⟩]
    sameIgnoringCase "@\u212Aey" "@key" = true ∧
      ps.flexibleIndexOf? "@\u212Aey" = ps.flexibleIndexOf? "@key" ∧
      ps.flexibleIndexOf? "@key" = some 1 := by
  intro ps
  have same : sameIgnoringCase "@\u212Aey" "@key" = true := by decide +kernel
  exact ⟨same, lookup_ignores_case.2.2.1 ps _ _ same, by decide⟩

end Parameters

end SqlWire
