import Mathlib.Algebra.GroupWithZero.Nat
import SqlWire.Value.Uuid

/-! # Identifiers, read back

An identifier is written as hyphens and small hexadecimal digits (`Uuid.mem_format`), so its text has as
many bytes as characters. The digits of each byte are read as that byte (`Uuid.pairs?_lower`) and the
groups are put together again (`Uuid.ungroup?_join`), so the text is read as the identifier
(`Uuid.ofText_format`).
-/

namespace SqlWire

namespace Hex

theorem value?_digit : ∀ n < 16, value? (digit 'a' n) = some n := by decide

end Hex

namespace Uuid

/-- The bytes of their digits. -/
theorem pairs?_lower (bytes : Bytes) : pairs? (bytes.flatMap Hex.lower) = some bytes := by
  induction bytes with
  | nil => rfl
  | cons b rest ih =>
    have bound : b.toNat < 256 := b.toNat_lt
    have high := Hex.value?_digit (b.toNat / 16) (by omega)
    have low := Hex.value?_digit (b.toNat % 16) (by omega)
    have whole : 16 * (b.toNat / 16) + b.toNat % 16 = b.toNat := Nat.div_add_mod b.toNat 16
    have byte : UInt8.ofNat (16 * (b.toNat / 16) + b.toNat % 16) = b := by
      rw [whole, UInt8.ofNat_toNat]
    simp only [Hex.lower, List.flatMap_cons, List.cons_append, List.nil_append, pairs?, high, low, ih,
      Option.bind_eq_bind, Option.bind_some, byte, Option.pure_def]

theorem length_lower (bytes : Bytes) : (bytes.flatMap Hex.lower).length = 2 * bytes.length := by
  induction bytes with
  | nil => rfl
  | cons b rest ih =>
    rw [List.flatMap_cons, List.length_append, ih, List.length_cons, Hex.lower, List.length_cons,
      List.length_singleton]
    omega

/-! ## Groups -/

/-- There are only hyphens between the digits. -/
theorem mem_join {sizes : List Nat} {digits : List Char} {c : Char} (member : c ∈ join sizes digits) :
    c = '-' ∨ c ∈ digits := by
  fun_induction join sizes digits with
  | case1 => cases member
  | case2 size digits => exact .inr (List.mem_of_mem_take member)
  | case3 size sizes digits _ ih =>
    rcases List.mem_append.mp member with here | later
    · exact .inr (List.mem_of_mem_take here)
    · rcases List.mem_cons.mp later with hyphen | behind
      · exact .inl hyphen
      · exact (ih behind).imp id List.mem_of_mem_drop

/-- The digits that were cut into groups. -/
theorem ungroup?_join {sizes : List Nat} {digits : List Char} (whole : digits.length = sizes.sum) :
    ungroup? sizes (join sizes digits) = some digits := by
  fun_induction join sizes digits with
  | case1 digits =>
    obtain rfl := List.length_eq_zero_iff.mp whole
    rfl
  | case2 size digits =>
    have all : digits.take size = digits := List.take_of_length_le (by simp [whole])
    simp [ungroup?, all, whole]
  | case3 size sizes digits more ih =>
    rw [List.sum_cons] at whole
    have front : (digits.take size).length = size := by
      rw [List.length_take]
      omega
    have later := ih (by rw [List.length_drop]; omega)
    have rest : (digits.take size ++ '-' :: join sizes (digits.drop size)).drop size =
        '-' :: join sizes (digits.drop size) := List.drop_left' front
    have first : (digits.take size ++ '-' :: join sizes (digits.drop size)).take size =
        digits.take size := List.take_left' front
    cases sizes with
    | nil => exact (more rfl).elim
    | cons next sizes =>
      simp only [ungroup?, rest, first, later, Option.map_some, List.take_append_drop]

theorem length_join {size : Nat} {sizes : List Nat} {digits : List Char}
    (whole : digits.length = (size :: sizes).sum) :
    (join (size :: sizes) digits).length = digits.length + sizes.length := by
  induction sizes generalizing size digits with
  | nil =>
    rw [join, List.length_take]
    simp only [List.sum_cons, List.sum_nil, List.length_nil] at whole ⊢
    omega
  | cons next sizes ih =>
    rw [List.sum_cons] at whole
    have shorter : (digits.drop size).length = (next :: sizes).sum := by
      rw [List.length_drop]
      omega
    have later := ih shorter
    rw [join, List.length_append, List.length_cons, later, List.length_take, List.length_drop,
      List.length_cons]
    · omega
    · simp

/-! ## Texts -/

/-- A text of characters of one byte each. -/
theorem utf8ByteSize_ofList {text : List Char} (single : ∀ c ∈ text, c.utf8Size = 1) :
    (String.ofList text).utf8ByteSize = text.length := by
  induction text with
  | nil => rfl
  | cons c rest ih =>
    obtain ⟨first, later⟩ := List.forall_mem_cons.mp single
    have parts : String.ofList (c :: rest) = String.singleton c ++ String.ofList rest := by
      rw [String.singleton_eq_ofList, ← String.ofList_append, List.singleton_append]
    rw [parts, String.utf8ByteSize_append, ih later, String.utf8ByteSize_singleton, first,
      List.length_cons, Nat.add_comm]

theorem length_digits (u : Uuid) : (u.bytes.flatMap Hex.lower).length = groups.sum := by
  rw [length_lower, u.length_eq]
  rfl

theorem length_format (u : Uuid) : u.format.length = 36 := by
  rw [format, groups, length_join u.length_digits, length_digits]
  rfl

/-- An identifier is written as hyphens and small digits. -/
theorem mem_format {u : Uuid} {c : Char} (member : c ∈ u.format) :
    c = '-' ∨ ∃ n < 16, c = Hex.digit 'a' n := by
  refine (mem_join member).imp id fun digit => ?_
  obtain ⟨b, -, here⟩ := List.mem_flatMap.mp digit
  have bound : b.toNat < 256 := b.toNat_lt
  simp only [Hex.lower, List.mem_cons, List.not_mem_nil, or_false] at here
  rcases here with high | low
  · exact ⟨b.toNat / 16, by omega, high⟩
  · exact ⟨b.toNat % 16, by omega, low⟩

/-- The text of an identifier has one byte for each character. -/
theorem utf8ByteSize_format (u : Uuid) : (String.ofList u.format).utf8ByteSize = 36 := by
  have single : ∀ c ∈ u.format, c.utf8Size = 1 := by
    intro c member
    obtain rfl | ⟨n, small, rfl⟩ := mem_format member
    · decide
    · have all : ∀ n < 16, (Hex.digit 'a' n).utf8Size = 1 := by decide
      exact all n small
  rw [utf8ByteSize_ofList single, length_format]

theorem ofBytes_bytes (u : Uuid) : ofBytes u.bytes = .ok u := by
  simp [ofBytes, ofBytes?, u.length_eq]

/-- The text of an identifier is read as that identifier. -/
theorem ofText_format (u : Uuid) : ofText (.ofList u.format) = .ok u := by
  have read : readGroups? u.format = some u.bytes := by
    rw [readGroups?, format, ungroup?_join u.length_digits, Option.bind_some, pairs?_lower]
  have bytes : readBytes u.format 36 = .ok u.bytes := by
    simp [readBytes, grouped?, read]
  rw [ofText, utf8ByteSize_format, String.toList_ofList, bytes]
  exact ofBytes_bytes u

end Uuid

end SqlWire
