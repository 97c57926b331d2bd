import Mathlib.Data.List.Forall2
import SqlWire.Client.Error

/-! # Outcomes

What can fail in several steps has succeeded if each step has, and fails as the first step does that
fails. -/

namespace SqlWire

namespace Outcome

theorem bind_eq_ok {ε α β : Type} {x : Except ε α} {f : α → Except ε β} {b : β}
    (given : x >>= f = .ok b) : ∃ a, x = .ok a ∧ f a = .ok b := by
  cases x with
  | error e => cases given
  | ok a => exact ⟨a, rfl, given⟩

theorem bind_eq_error {ε α β : Type} {x : Except ε α} {f : α → Except ε β} {e : ε}
    (failed : x >>= f = .error e) : x = .error e ∨ ∃ a, x = .ok a ∧ f a = .error e := by
  cases x with
  | error cause =>
    cases failed
    exact .inl rfl
  | ok a => exact .inr ⟨a, rfl, failed⟩

/-- What can be done with each of several things can be done with all of them. -/
theorem mapM_eq_ok {ε α β : Type} {f : α → Except ε β} {Fits : α → β → Prop} {as : List α}
    (each : ∀ a ∈ as, ∃ b, f a = .ok b ∧ Fits a b) :
    ∃ bs, as.mapM f = .ok bs ∧ List.Forall₂ Fits as bs := by
  induction as with
  | nil => exact ⟨[], rfl, .nil⟩
  | cons a rest ih =>
    obtain ⟨first, later⟩ := List.forall_mem_cons.mp each
    obtain ⟨b, done, fits⟩ := first
    obtain ⟨bs, others, fit⟩ := ih later
    refine ⟨b :: bs, ?_, .cons fits fit⟩
    rw [List.mapM_cons, done, others]
    rfl

/-- What is done with all of several things is done with each of them. -/
theorem mapM_eq_ok_iff {ε α β : Type} {f : α → Except ε β} {as : List α} {bs : List β} :
    as.mapM f = .ok bs ↔ List.Forall₂ (fun a b => f a = .ok b) as bs := by
  constructor
  · intro done
    induction as generalizing bs with
    | nil =>
      cases done
      exact .nil
    | cons a rest ih =>
      rw [List.mapM_cons] at done
      obtain ⟨b, first, later⟩ := bind_eq_ok done
      obtain ⟨others, behind, both⟩ := bind_eq_ok later
      cases both
      exact .cons first (ih behind)
  · intro each
    induction each with
    | nil => rfl
    | cons first _ ih =>
      rw [List.mapM_cons, first, ih]
      rfl

/-- What cannot be done with several things fails as it does with the first of them with which it
cannot be done. -/
theorem mapM_eq_error_iff {ε α β : Type} {f : α → Except ε β} {as : List α} {e : ε} :
    as.mapM f = .error e ↔ ∃ before a after, as = before ++ a :: after ∧
      (∀ b ∈ before, ∃ c, f b = .ok c) ∧ f a = .error e := by
  constructor
  · intro failed
    induction as with
    | nil => cases failed
    | cons a rest ih =>
      rw [List.mapM_cons] at failed
      obtain first | ⟨b, first, later⟩ := bind_eq_error failed
      · exact ⟨[], a, rest, rfl, by simp, first⟩
      · obtain behind | ⟨bs, _, impossible⟩ := bind_eq_error later
        · obtain ⟨before, last, after, rfl, done, cause⟩ := ih behind
          exact ⟨a :: before, last, after, rfl, List.forall_mem_cons.mpr ⟨⟨b, first⟩, done⟩, cause⟩
        · cases impossible
  · rintro ⟨before, last, after, rfl, done, cause⟩
    induction before with
    | nil =>
      rw [List.nil_append, List.mapM_cons, cause]
      rfl
    | cons a rest ih =>
      obtain ⟨⟨b, first⟩, others⟩ := List.forall_mem_cons.mp done
      rw [List.cons_append, List.mapM_cons, first, ih others]
      rfl

/-- What was made of a message was made of one that could be read. -/
theorem of_read {α β : Type} {read : Except ProtocolError α} {next : α → Except ClientError β} {b : β}
    (given : read.mapError .protocol >>= next = .ok b) : ∃ a, read = .ok a ∧ next a = .ok b := by
  cases read with
  | error cause => cases given
  | ok a => exact ⟨a, rfl, given⟩

end Outcome

end SqlWire
