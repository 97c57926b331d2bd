import SqlWire.Number.IntegerType

/-! # Numbers in decimal digits

A text denotes a number if it is one digit or more with at most one sign in front (`Digits.Denotes`), and
it denotes no other one (`Digits.Denotes.unique`). An integer type reads exactly the texts that denote
one of its numbers, a minus sign being for the signed types (`IntegerType.ofText?_eq_some_iff`). What is
written for a number denotes it (`Digits.denotes_ofInt`), also with zeros up to a width
(`Digits.number_padded`).
-/

namespace SqlWire

namespace Digits

theorem isDigit_ofNat {n : Nat} {c : Char} (member : c ∈ ofNat n) : c.isDigit = true :=
  Nat.isDigit_of_mem_toDigits (by decide) (by decide) member

theorem ofNat_ne_nil (n : Nat) : ofNat n ≠ [] := Nat.toDigits_ne_nil

theorem number_eq (digits : List Char) : number digits = Nat.ofDigitChars 10 digits 0 := rfl

theorem number_ofNat (n : Nat) : number (ofNat n) = n := Nat.ofDigitChars_ten_toDigits

/-! ## Zeros in front -/

theorem isDigit_padded {width n : Nat} {c : Char} (member : c ∈ padded width n) :
    c.isDigit = true := by
  rcases List.mem_append.mp member with zero | digit
  · rw [List.eq_of_mem_replicate zero]
    decide
  · exact isDigit_ofNat digit

theorem padded_ne_nil (width n : Nat) : padded width n ≠ [] := by
  simp [padded, ofNat_ne_nil]

theorem length_padded {width n : Nat} (some : 0 < width) (fits : n < 10 ^ width) :
    (padded width n).length = width := by
  have short : (ofNat n).length ≤ width := (Nat.length_toDigits_le_iff (by decide) some).mpr fits
  simp only [padded, List.length_append, List.length_replicate]
  omega

theorem number_padded (width n : Nat) : number (padded width n) = n := by
  rw [number_eq, padded, Nat.ofDigitChars_append, Nat.ofDigitChars_replicate_zero, Nat.mul_zero]
  exact number_ofNat n

/-! ## What a text denotes -/

/-- Whether a text is a number in decimal digits, with or without one sign in front. -/
inductive Denotes : List Char → Int → Prop where
  | bare {digits : List Char} (some : digits ≠ []) (all : ∀ c ∈ digits, c.isDigit = true) :
      Denotes digits (Nat.ofDigitChars 10 digits 0)
  | plus {digits : List Char} (some : digits ≠ []) (all : ∀ c ∈ digits, c.isDigit = true) :
      Denotes ('+' :: digits) (Nat.ofDigitChars 10 digits 0)
  | minus {digits : List Char} (some : digits ≠ []) (all : ∀ c ∈ digits, c.isDigit = true) :
      Denotes ('-' :: digits) (-(Nat.ofDigitChars 10 digits 0 : Nat))

/-- A text of digits has no sign. -/
theorem head?_of_isDigit {digits : List Char} (all : ∀ c ∈ digits, c.isDigit = true) {sign : Char}
    (mark : sign.isDigit = false) : digits.head? ≠ some sign := by
  intro first
  rw [all sign (List.mem_of_mem_head? first)] at mark
  cases mark

theorem Denotes.unique {text : List Char} {m n : Int} (first : Denotes text m)
    (second : Denotes text n) : m = n := by
  cases first with
  | bare some all =>
    cases second with
    | bare => rfl
    | plus => exact (head?_of_isDigit all (by decide) rfl).elim
    | minus => exact (head?_of_isDigit all (by decide) rfl).elim
  | plus some all =>
    cases second with
    | bare _ every => exact (head?_of_isDigit every (by decide) rfl).elim
    | plus => rfl
  | minus some all =>
    cases second with
    | bare _ every => exact (head?_of_isDigit every (by decide) rfl).elim
    | minus => rfl

theorem denotes_ofInt (n : Int) : Denotes (ofInt n) n := by
  have whole : Nat.ofDigitChars 10 (ofNat n.natAbs) 0 = n.natAbs := number_ofNat n.natAbs
  unfold ofInt
  split
  · next negative =>
    have written := Denotes.minus (ofNat_ne_nil n.natAbs) fun _ => isDigit_ofNat
    rw [whole] at written
    rwa [show -(n.natAbs : Int) = n by omega] at written
  · next positive =>
    have written := Denotes.bare (ofNat_ne_nil n.natAbs) fun _ => isDigit_ofNat
    rw [whole] at written
    rwa [show (n.natAbs : Int) = n by omega] at written

/-! ## What is read -/

theorem toNatBelow?_eq_some_iff {bound : Nat} (room : 0 < bound) {text : List Char} {n : Nat} :
    toNatBelow? bound text = some n ↔
      (text ≠ [] ∧ ∀ c ∈ text, c.isDigit = true) ∧ Nat.ofDigitChars 10 text 0 = n ∧ n < bound := by
  have digits : (!text.isEmpty && text.all Char.isDigit) = true ↔
      text ≠ [] ∧ ∀ c ∈ text, c.isDigit = true := by
    rw [Bool.and_eq_true, Bool.not_eq_true', List.isEmpty_eq_false_iff, List.all_eq_true]
  rw [toNatBelow?, numberBelow?_eq room, ← digits, ← number_eq]
  by_cases valid : (!text.isEmpty && text.all Char.isDigit) = true
  · rw [if_pos valid]
    split
    · next below =>
      rw [Option.some_inj]
      exact ⟨fun same => ⟨valid, same, same ▸ below⟩, fun read => read.2.1⟩
    · next above =>
      refine ⟨nofun, fun read => ?_⟩
      obtain ⟨-, rfl, below⟩ := read
      exact (above below).elim
  · rw [if_neg valid]
    exact ⟨nofun, fun read => (valid read.1).elim⟩

/-- A bounded reading gives the number that a text denotes, if it has room for its digits and there is
no minus sign without need. -/
theorem toIntBelow?_eq_some_iff {bound : Nat} (room : 0 < bound) {signed : Bool} {text : List Char}
    {n : Int} :
    toIntBelow? bound signed text = some n ↔
      Denotes text n ∧ n.natAbs < bound ∧ (signed = false → text.head? ≠ some '-') := by
  constructor
  · intro read
    unfold toIntBelow? at read
    split at read
    · next digits =>
      obtain ⟨m, found, rfl⟩ := Option.map_eq_some_iff.mp read
      obtain ⟨⟨some, all⟩, rfl, below⟩ := (toNatBelow?_eq_some_iff room).mp found
      exact ⟨.plus some all, below, by simp⟩
    · next digits =>
      split at read
      · next sign =>
        obtain ⟨m, found, rfl⟩ := Option.map_eq_some_iff.mp read
        obtain ⟨⟨some, all⟩, rfl, below⟩ := (toNatBelow?_eq_some_iff room).mp found
        exact ⟨.minus some all, by simpa using below, by simp [sign]⟩
      · cases read
    · next digits =>
      obtain ⟨m, found, rfl⟩ := Option.map_eq_some_iff.mp read
      obtain ⟨⟨some, all⟩, rfl, below⟩ := (toNatBelow?_eq_some_iff room).mp found
      exact ⟨.bare some all, below, fun _ => head?_of_isDigit all (by decide)⟩
  · rintro ⟨denotes, below, sign⟩
    cases denotes with
    | bare some all =>
      have found := (toNatBelow?_eq_some_iff room).mpr ⟨⟨some, all⟩, rfl, below⟩
      unfold toIntBelow?
      split
      · exact (head?_of_isDigit all (by decide) rfl).elim
      · exact (head?_of_isDigit all (by decide) rfl).elim
      · rw [found]
        rfl
    | plus some all =>
      have found := (toNatBelow?_eq_some_iff room).mpr ⟨⟨some, all⟩, rfl, below⟩
      rw [toIntBelow?, found]
      rfl
    | minus some all =>
      have found := (toNatBelow?_eq_some_iff room).mpr ⟨⟨some, all⟩, rfl, by simpa using below⟩
      cases signed with
      | true =>
        rw [toIntBelow?, if_pos rfl, found]
        rfl
      | false => exact (sign rfl rfl).elim

end Digits

namespace IntegerType

/-- Whether a text denotes a number of a type; a minus sign is for the signed types only. -/
def Reads (t : IntegerType) (text : String) (n : Int) : Prop :=
  Digits.Denotes text.toList n ∧ t.holds n = true ∧
    (t.isSigned = false → text.toList.head? ≠ some '-')

/-- The digits of a number of a type are not too many. -/
theorem natAbs_lt_of_holds {t : IntegerType} {n : Int} (held : t.holds n = true) :
    n.natAbs < 2 ^ t.width := by
  cases t <;> simp [holds, low, bound, isSigned, width] at held ⊢ <;> omega

/-- A type reads the texts that denote one of its numbers. -/
theorem ofText?_eq_some_iff {t : IntegerType} {text : String} {n : Int} :
    t.ofText? text = some n ↔ t.Reads text n := by
  rw [ofText?, Option.filter_eq_some_iff, Digits.toIntBelow?_eq_some_iff (Nat.two_pow_pos _), Reads]
  constructor
  · rintro ⟨⟨denotes, -, sign⟩, held⟩
    exact ⟨denotes, held, sign⟩
  · rintro ⟨denotes, held, sign⟩
    exact ⟨⟨denotes, natAbs_lt_of_holds held, sign⟩, held⟩

/-- A type reads what is written for one of its numbers. -/
theorem ofText?_ofInt {t : IntegerType} {n : Int} (held : t.holds n = true) :
    t.ofText? (.ofList (Digits.ofInt n)) = some n := by
  rw [ofText?_eq_some_iff, Reads, String.toList_ofList]
  refine ⟨Digits.denotes_ofInt n, held, ?_⟩
  intro unsigned
  have positive : ¬ n < 0 := by
    simp only [holds, low, unsigned, Bool.and_eq_true, decide_eq_true_eq] at held
    simpa using held.1
  rw [Digits.ofInt, if_neg positive]
  exact Digits.head?_of_isDigit (fun _ => Digits.isDigit_ofNat) (by decide)

/-- An unsigned type reads what is written for a number that it has room for. -/
theorem ofText?_repr {t : IntegerType} {n : Nat} (unsigned : t.isSigned = false)
    (room : n < 2 ^ t.width) : t.ofText? (Nat.repr n) = some (n : Int) := by
  have held : t.holds n = true := by
    have above : (n : Int) < 2 ^ t.width := by exact_mod_cast room
    simp [holds, low, bound, unsigned, above]
  have digits : Nat.repr n = .ofList (Digits.ofInt n) := by
    rw [Digits.ofInt, if_neg (by omega)]
    exact Nat.repr_eq_ofList_toDigits
  rw [digits, ofText?_ofInt held]

end IntegerType

end SqlWire
