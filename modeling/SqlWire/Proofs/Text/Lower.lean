import Mathlib.Data.List.Basic
import SqlWire.Proofs.Text.Utf8
import SqlWire.Text.Blank
import SqlWire.Text.Lower

/-! # Texts that are equal in lower case

Two ASCII texts are compared letter by letter, all others through the table of lower cases. The table
has for an ASCII character its small letter alone, so that both ways say the same: whether two texts
have one lower case (`sameIgnoringCase_iff`), so that this is an equivalence
(`equivalence_sameIgnoringCase`).

A blank, the sign of a placeholder or a quote is its own lower case and stands in no other
(`Lower.eq_of_mem_char`). So what is cut off at such characters is cut off from the lower case as well
(`Lower.trim_text`).
-/

namespace SqlWire

namespace Lower

theorem char_of_ascii {c : Char} (ascii : c.toNat < 0x80) : char c = [Ascii.lower c] := if_pos ascii

theorem text_of_ascii {t : String} (ascii : Ascii.isText t = true) :
    text t.toList = Ascii.lowered t.toList := by
  rw [text, Ascii.lowered, List.map_eq_flatMap]
  apply List.flatMap_congr
  intro c member
  exact char_of_ascii (by simpa using List.all_eq_true.mp ascii c member)

end Lower

theorem sameIgnoringCase_iff {a b : String} :
    sameIgnoringCase a b = true ↔ Lower.text a.toList = Lower.text b.toList := by
  unfold sameIgnoringCase
  split
  · next ascii =>
    obtain ⟨left, right⟩ := Bool.and_eq_true_iff.mp ascii
    rw [Lower.text_of_ascii left, Lower.text_of_ascii right, Ascii.sameLetters, beq_iff_eq]
  · exact beq_iff_eq

theorem equivalence_sameIgnoringCase : Equivalence fun a b => sameIgnoringCase a b = true where
  refl _ := sameIgnoringCase_iff.mpr rfl
  symm same := sameIgnoringCase_iff.mpr (sameIgnoringCase_iff.mp same).symm
  trans first second :=
    sameIgnoringCase_iff.mpr ((sameIgnoringCase_iff.mp first).trans (sameIgnoringCase_iff.mp second))

namespace Lower

/-! ## Characters that part a text -/

/-- The numbers of the blanks, of the signs of placeholders and of the quotes, in ranges. -/
def separators : List (Nat × Nat) :=
  [(0x9, 0xD), (0x20, 0x20), (0x22, 0x22), (0x27, 0x27), (0x3F, 0x40), (0x60, 0x60), (0x85, 0x85),
    (0xA0, 0xA0), (0x1680, 0x1680), (0x2000, 0x200A), (0x2028, 0x2029), (0x202F, 0x202F),
    (0x205F, 0x205F), (0x3000, 0x3000)]

/-- Whether a character is a blank, the sign of a placeholder or a quote. -/
def IsSeparator (c : Char) : Prop := ∃ range ∈ separators, range.1 ≤ c.toNat ∧ c.toNat ≤ range.2

instance (c : Char) : Decidable (IsSeparator c) :=
  inferInstanceAs (Decidable (∃ range ∈ separators, range.1 ≤ c.toNat ∧ c.toNat ≤ range.2))

theorem isSeparator_of_isBlank {c : Char} (blank : isBlank c = true) : IsSeparator c := by
  simp only [isBlank, Bool.or_eq_true, Bool.and_eq_true, decide_eq_true_eq, beq_iff_eq] at blank
  simp only [IsSeparator, separators, List.exists_mem_cons_iff]
  omega

theorem lower_ofNat : ∀ n < 0x80,
    IsSeparator (Ascii.lower (Char.ofNat n)) ∨ IsSeparator (Char.ofNat n) →
      Ascii.lower (Char.ofNat n) = Char.ofNat n := by
  decide +kernel

/-- No run of the table has such a character in it, or as a lower case. -/
theorem separators_runs : ∀ run ∈ runs, ∀ range ∈ separators,
    (range.2 < run.1 ∨ run.2.1 < range.1) ∧
      (range.2 < run.2.2.2 ∨ run.2.2.2 + (run.2.1 - run.1) < range.1) := by
  decide +kernel

theorem lower_eq {c : Char} (ascii : c.toNat < 0x80)
    (separates : IsSeparator (Ascii.lower c) ∨ IsSeparator c) : Ascii.lower c = c := by
  have here := lower_ofNat c.toNat ascii
  rw [Char.ofNat_toNat] at here
  exact here separates

/-- The table leads neither from such a character nor to one. -/
theorem number_eq {c : Char} (separates : IsSeparator (Char.ofNat (number c.toNat)) ∨ IsSeparator c) :
    number c.toNat = c.toNat := by
  unfold number at separates ⊢
  split
  · next first last step target found =>
    exfalso
    have inside := List.mem_of_find?_eq_some found
    have holds := List.find?_some found
    simp only [Bool.and_eq_true, decide_eq_true_eq] at holds
    simp only [found] at separates
    rcases separates with ⟨range, member, least, most⟩ | ⟨range, member, least, most⟩
    · have apart := separators_runs _ inside range member
      have positive : ∀ range ∈ separators, 0 < range.1 := by decide
      have aboveZero := positive range member
      dsimp only at apart
      rw [toNat_ofNat] at least most
      split at least
      · next valid =>
        rw [if_pos valid] at most
        omega
      · omega
    · have apart := separators_runs _ inside range member
      dsimp only at apart
      omega
  · rfl

/-- Such a character is its own lower case. -/
theorem char_eq {s : Char} (separates : IsSeparator s) : char s = [s] := by
  unfold char
  split
  · next ascii => rw [lower_eq ascii (.inr separates)]
  · split
    · next dotted =>
      rw [beq_iff_eq.mp dotted] at separates
      exact absurd separates (by decide)
    · rw [number_eq (.inr separates), Char.ofNat_toNat]

/-- Such a character stands in no lower case but its own. -/
theorem eq_of_mem_char {s c : Char} (separates : IsSeparator s) (member : s ∈ char c) : c = s := by
  unfold char at member
  split at member
  · next ascii =>
    rw [List.mem_singleton] at member
    subst member
    exact (lower_eq ascii (.inl separates)).symm
  · split at member
    · exfalso
      rw [List.mem_cons, List.mem_singleton] at member
      rcases member with rfl | rfl
      · exact absurd separates (by decide)
      · exact absurd separates (by decide)
    · rw [List.mem_singleton] at member
      subst member
      rw [number_eq (.inl separates), Char.ofNat_toNat]

theorem char_ne_nil (c : Char) : char c ≠ [] := by
  unfold char
  split
  · nofun
  · split <;> nofun

/-! ## Parts of a text -/

/-- What is dropped in front of a text's pieces is dropped in front of the text, where a character that is
dropped is a piece of its own and no other piece begins with one. -/
theorem dropWhile_flatMap {p : Char → Bool} {pieces : Char → List Char}
    (own : ∀ c, p c = true → pieces c = [c])
    (other : ∀ c, p c = false → ∃ d more, pieces c = d :: more ∧ p d = false) (s : List Char) :
    (s.flatMap pieces).dropWhile p = (s.dropWhile p).flatMap pieces := by
  induction s with
  | nil => rfl
  | cons c s ih =>
    rw [List.flatMap_cons, List.dropWhile_cons]
    cases dropped : p c with
    | true => rw [own c dropped, List.singleton_append, List.dropWhile_cons_of_pos dropped, ih, if_pos rfl]
    | false =>
      obtain ⟨d, more, piece, stays⟩ := other c dropped
      rw [piece, List.cons_append, List.dropWhile_cons_of_neg (by simp [stays]), if_neg nofun,
        List.flatMap_cons, piece, List.cons_append]

/-- No blank stands in the lower case of a character that is none. -/
theorem not_blank_of_mem_char {c d : Char} (visible : isBlank c = false) (member : d ∈ char c) :
    isBlank d = false := by
  by_contra blank
  rw [Bool.not_eq_false] at blank
  rw [eq_of_mem_char (isSeparator_of_isBlank blank) member, blank] at visible
  cases visible

theorem trimStart_text (s : List Char) : trimStart (text s) = text (trimStart s) := by
  refine dropWhile_flatMap (fun c blank => char_eq (isSeparator_of_isBlank blank)) ?_ s
  intro c visible
  obtain ⟨d, more, letters⟩ := List.exists_cons_of_ne_nil (char_ne_nil c)
  exact ⟨d, more, letters, not_blank_of_mem_char visible (by simp [letters])⟩

theorem trimEnd_text (s : List Char) : trimEnd (text s) = text (trimEnd s) := by
  have mirrored : ((text s).reverse).dropWhile isBlank =
      (s.reverse.dropWhile isBlank).flatMap (List.reverse ∘ char) := by
    rw [text, List.reverse_flatMap]
    apply dropWhile_flatMap
    · intro c blank
      rw [Function.comp_apply, char_eq (isSeparator_of_isBlank blank), List.reverse_singleton]
    · intro c visible
      have some : (char c).reverse ≠ [] := by simp [char_ne_nil]
      obtain ⟨d, more, letters⟩ := List.exists_cons_of_ne_nil some
      have member : d ∈ (char c).reverse := by simp only [letters, List.mem_cons_self]
      exact ⟨d, more, letters, not_blank_of_mem_char visible (List.mem_reverse.mp member)⟩
  rw [trimEnd, mirrored, List.reverse_flatMap, text, trimEnd]
  congr 1
  funext c
  simp

/-- The blanks at the ends of a text are those at the ends of its lower case. -/
theorem trim_text (s : List Char) : trim (text s) = text (trim s) := by
  rw [trim, trimStart_text, trimEnd_text, trim]

theorem text_cons {mark : Char} (separates : IsSeparator mark) (s : List Char) :
    text (mark :: s) = mark :: text s := by
  rw [text, List.flatMap_cons, char_eq separates]
  rfl

/-- The lower case of a text begins with such a character only where the text does. -/
theorem exists_text_cons (c : Char) (s : List Char) :
    ∃ d more, text (c :: s) = d :: more ∧ ∀ {mark}, IsSeparator mark → c ≠ mark → d ≠ mark := by
  obtain ⟨d, more, letters⟩ := List.exists_cons_of_ne_nil (char_ne_nil c)
  refine ⟨d, more ++ text s, by rw [text, List.flatMap_cons, letters]; rfl, ?_⟩
  rintro mark separates other rfl
  exact other (eq_of_mem_char separates (by simp [letters]))

/-- The lower case of a text ends with such a character only where the text does. -/
theorem getLast?_text {mark : Char} (separates : IsSeparator mark) (s : List Char) :
    (text s).getLast? = some mark ↔ s.getLast? = some mark := by
  rcases List.eq_nil_or_concat s with rfl | ⟨front, c, rfl⟩
  · rfl
  · rw [List.concat_eq_append, text, List.flatMap_append, List.flatMap_singleton, List.getLast?_concat,
      List.getLast?_append_of_ne_nil _ (char_ne_nil c)]
    constructor
    · intro last
      rw [eq_of_mem_char separates (List.mem_of_getLast? last)]
    · intro last
      rw [Option.some.inj last, char_eq separates, List.getLast?_singleton]

theorem dropLast_text {mark : Char} (separates : IsSeparator mark) {s : List Char}
    (last : s.getLast? = some mark) : (text s).dropLast = text s.dropLast := by
  obtain ⟨front, rfl⟩ := List.getLast?_eq_some_iff.mp last
  rw [text, List.flatMap_append, List.flatMap_singleton, char_eq separates, List.dropLast_concat,
    List.dropLast_concat, text]

end Lower

end SqlWire
