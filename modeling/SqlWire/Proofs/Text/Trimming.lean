import Mathlib.Data.List.DropRight
import SqlWire.Text.Blank

/-! # Texts without blanks at their ends

To trim a text leaves one without blanks at its ends (`isTrim_trim`), and a text of this kind stays as
it is (`IsTrim.trim_eq`). Such texts can be put together (`IsTrim.append`), also with a separator between
them (`IsTrim.intercalate`).
-/

namespace SqlWire

theorem isBlank_of_isDigit {c : Char} (digit : c.isDigit = true) : isBlank c = false := by
  simp only [Char.isDigit, Bool.and_eq_true, decide_eq_true_eq, UInt32.le_iff_toNat_le] at digit
  obtain ⟨low, high⟩ : 48 ≤ c.toNat ∧ c.toNat ≤ 57 := digit
  simp only [isBlank, Bool.or_eq_false_iff, Bool.and_eq_false_iff, decide_eq_false_iff_not,
    beq_eq_false_iff_ne]
  omega

theorem trimStart_eq {text : List Char} (first : ∀ c ∈ text.head?, isBlank c = false) :
    trimStart text = text := by
  rw [trimStart, List.dropWhile_eq_self_iff]
  intro some
  rw [first text[0] (by simp [List.head?_eq_getElem?])]
  decide

/-- Whether a text neither begins nor ends with a blank. -/
structure IsTrim (text : List Char) : Prop where
  first : ∀ c ∈ text.head?, isBlank c = false
  last : ∀ c ∈ text.getLast?, isBlank c = false

theorem isTrim_iff {text : List Char} : IsTrim text ↔
    text.head?.all (!isBlank ·) = true ∧ text.getLast?.all (!isBlank ·) = true := by
  simp only [Option.all_eq_true, Bool.not_eq_true']
  exact ⟨fun bare => ⟨bare.first, bare.last⟩, fun ⟨first, last⟩ => ⟨first, last⟩⟩

instance (text : List Char) : Decidable (IsTrim text) := decidable_of_iff _ isTrim_iff.symm

theorem isTrim_nil : IsTrim [] := ⟨nofun, nofun⟩

theorem isTrim_trim (text : List Char) : IsTrim (trim text) where
  first := by
    have start := List.head?_dropWhile_not isBlank text
    intro c first
    obtain ⟨behind, whole⟩ := List.rdropWhile_prefix isBlank (trimStart text)
    have same : (List.dropWhile isBlank text).head? = some c := by
      change (trimStart text).head? = some c
      rw [← whole, List.head?_append]
      exact congrArg (Option.or · _) first
    rw [same] at start
    exact start
  last := by
    intro c last
    obtain ⟨some, rfl⟩ := List.mem_getLast?_eq_getLast last
    exact Bool.eq_false_iff.mpr (List.rdropWhile_last_not isBlank (trimStart text) some)

namespace IsTrim

variable {text a b : List Char}

theorem trim_eq (bare : IsTrim text) : trim text = text := by
  have start : trimStart text = text := trimStart_eq bare.first
  have stop : text.rdropWhile isBlank = text := by
    rw [List.rdropWhile_eq_self_iff]
    intro some
    rw [bare.last _ (List.getLast?_eq_some_getLast some)]
    decide
  rw [trim, start]
  exact stop

theorem append (left : IsTrim a) (right : IsTrim b) : IsTrim (a ++ b) where
  first := by
    intro c first
    rw [List.head?_append] at first
    obtain first | ⟨-, first⟩ := Option.or_eq_some_iff.mp first
    · exact left.first c first
    · exact right.first c first
  last := by
    intro c last
    rw [List.getLast?_append] at last
    obtain last | ⟨-, last⟩ := Option.or_eq_some_iff.mp last
    · exact right.last c last
    · exact left.last c last

theorem intercalate {separator : List Char} (between : IsTrim separator) {texts : List (List Char)}
    (each : ∀ text ∈ texts, IsTrim text) : IsTrim (separator.intercalate texts) := by
  induction texts with
  | nil => exact isTrim_nil
  | cons text rest ih =>
    obtain ⟨here, others⟩ := List.forall_mem_cons.mp each
    cases rest with
    | nil => simpa using here
    | cons next rest =>
      rw [List.intercalate_cons_cons]
      exact (here.append between).append (ih others)

end IsTrim

end SqlWire
