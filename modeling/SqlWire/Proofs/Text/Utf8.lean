import SqlWire.Text.Utf8

/-! # Reading UTF-8 back

The bytes of a character are taken off the front of a byte string again, whatever follows them
(`Utf8.head_encodeChar`), so a text that was written is what both readers find (`Utf8.decode_encode`
and `Utf8.decodeLossy_encode`). No other bytes are taken off as that character (`Utf8.eq_of_head_char`),
so the bytes of a text that was read are those for which it is written (`Utf8.encode_of_decode?`).
-/

namespace SqlWire

/-- The number of the character that has a number, or zero where none has. -/
theorem toNat_ofNat (n : Nat) : (Char.ofNat n).toNat = if n.isValidChar then n else 0 := by
  by_cases valid : n.isValidChar
  · rw [Char.ofNat, dif_pos valid, if_pos valid]
    rfl
  · rw [Char.ofNat, dif_neg valid, if_neg valid]
    rfl

namespace Utf8

theorem isContinuation_ofNat (n : Nat) : isContinuation (UInt8.ofNat (n % 64 + 0x80)) = true := by
  have tails : ∀ k < 64, isContinuation (UInt8.ofNat (k + 0x80)) = true := by decide
  exact tails (n % 64) (Nat.mod_lt n (by decide))

theorem low6_ofNat (n : Nat) : low6 (UInt8.ofNat (n % 64 + 0x80)) = n % 64 := by
  rw [low6, UInt8.toNat_ofNat']
  omega

theorem head_one {a : UInt8} (rest : Bytes) (ascii : a.toNat < 0x80) :
    head (a :: rest) = .char (Char.ofNat a.toNat) rest := by
  rw [head.eq_def]
  exact if_pos (UInt8.lt_iff_toNat_lt.mpr ascii)

theorem head_two {a b : UInt8} (rest : Bytes) (least : 0xC2 ≤ a.toNat) (most : a.toNat < 0xE0)
    (second : isContinuation b = true) :
    head (a :: b :: rest) = .char (Char.ofNat (a.toNat % 32 * 64 + low6 b)) rest := by
  have one : ¬ a < 0x80 := by simp only [UInt8.lt_iff_toNat_lt, UInt8.toNat_ofNat]; omega
  have none : ¬ a < 0xC2 := by simp only [UInt8.lt_iff_toNat_lt, UInt8.toNat_ofNat]; omega
  have two : a < 0xE0 := UInt8.lt_iff_toNat_lt.mpr most
  simp only [head.eq_def, one, none, two, second, if_true, if_false]

theorem head_three {a b c : UInt8} (rest : Bytes) (least : 0xE0 ≤ a.toNat) (most : a.toNat < 0xF0)
    (second : secondOfThree a b = true) (third : isContinuation c = true) :
    head (a :: b :: c :: rest) =
      .char (Char.ofNat ((a.toNat % 16 * 64 + low6 b) * 64 + low6 c)) rest := by
  have one : ¬ a < 0x80 := by simp only [UInt8.lt_iff_toNat_lt, UInt8.toNat_ofNat]; omega
  have none : ¬ a < 0xC2 := by simp only [UInt8.lt_iff_toNat_lt, UInt8.toNat_ofNat]; omega
  have two : ¬ a < 0xE0 := by simp only [UInt8.lt_iff_toNat_lt, UInt8.toNat_ofNat]; omega
  have three : a < 0xF0 := UInt8.lt_iff_toNat_lt.mpr most
  simp only [head.eq_def, one, none, two, three, second, third, if_true, if_false]

theorem head_four {a b c d : UInt8} (rest : Bytes) (least : 0xF0 ≤ a.toNat) (most : a.toNat < 0xF5)
    (second : secondOfFour a b = true) (third : isContinuation c = true)
    (fourth : isContinuation d = true) :
    head (a :: b :: c :: d :: rest) =
      .char (Char.ofNat (((a.toNat % 8 * 64 + low6 b) * 64 + low6 c) * 64 + low6 d)) rest := by
  have one : ¬ a < 0x80 := by simp only [UInt8.lt_iff_toNat_lt, UInt8.toNat_ofNat]; omega
  have none : ¬ a < 0xC2 := by simp only [UInt8.lt_iff_toNat_lt, UInt8.toNat_ofNat]; omega
  have two : ¬ a < 0xE0 := by simp only [UInt8.lt_iff_toNat_lt, UInt8.toNat_ofNat]; omega
  have three : ¬ a < 0xF0 := by simp only [UInt8.lt_iff_toNat_lt, UInt8.toNat_ofNat]; omega
  have four : a < 0xF5 := UInt8.lt_iff_toNat_lt.mpr most
  simp only [head.eq_def, one, none, two, three, four, second, third, fourth, if_true, if_false]

theorem secondOfThree_ofNat : ∀ lead < 16, ∀ second < 64, (lead = 0 → 0x20 ≤ second) →
    (lead = 0xD → second < 0x20) →
    secondOfThree (UInt8.ofNat (lead + 0xE0)) (UInt8.ofNat (second + 0x80)) = true := by
  decide +kernel

theorem secondOfFour_ofNat : ∀ lead < 8, ∀ second < 64, (lead = 0 → 0x10 ≤ second) →
    (lead = 4 → second < 0x10) →
    secondOfFour (UInt8.ofNat (lead + 0xF0)) (UInt8.ofNat (second + 0x80)) = true := by
  decide +kernel

/-- The bytes of a character are taken off the front of a byte string. -/
theorem head_encodeChar (c : Char) (rest : Bytes) :
    head (String.utf8EncodeChar c ++ rest) = .char c rest := by
  have valid : c.val.toNat < 0xD800 ∨ 0xDFFF < c.val.toNat ∧ c.val.toNat < 0x110000 := c.valid
  have back : Char.ofNat c.val.toNat = c := Char.ofNat_toNat c
  simp only [String.utf8EncodeChar]
  generalize c.val.toNat = n at valid back
  rw [← back]
  split
  · next one =>
    rw [List.cons_append, head_one] <;> rw [UInt8.toNat_ofNat']
    · congr 2
      omega
    · omega
  · split
    · next two =>
      simp only [List.cons_append, List.nil_append]
      rw [head_two rest _ _ (isContinuation_ofNat n), low6_ofNat] <;> rw [UInt8.toNat_ofNat']
      · congr 2
        omega
      · omega
      · omega
    · split
      · next three =>
        simp only [List.cons_append, List.nil_append]
        have second := secondOfThree_ofNat (n / 4096 % 16) (by omega) (n / 64 % 64) (by omega)
          (by omega) (by omega)
        rw [head_three rest _ _ second (isContinuation_ofNat n), low6_ofNat, low6_ofNat] <;>
          rw [UInt8.toNat_ofNat']
        · congr 2
          omega
        · omega
        · omega
      · simp only [List.cons_append, List.nil_append]
        have second := secondOfFour_ofNat (n / 262144 % 8) (by omega) (n / 4096 % 64) (by omega)
          (by omega) (by omega)
        rw [head_four rest _ _ second (isContinuation_ofNat (n / 64)) (isContinuation_ofNat n),
          low6_ofNat, low6_ofNat, low6_ofNat] <;> rw [UInt8.toNat_ofNat']
        · congr 2
          omega
        · omega
        · omega

theorem decodeOnto_encodeChar (c : Char) (rest : Bytes) (start : Nat) (seen : List Char) :
    decodeOnto (String.utf8EncodeChar c ++ rest) start seen =
      decodeOnto rest (start + (String.utf8EncodeChar c).length) (c :: seen) := by
  rw [decodeOnto]
  split
  · next none => simp [head_encodeChar] at none
  · next taken =>
    rw [head_encodeChar] at taken
    cases taken
    rfl
  · next bad => simp [head_encodeChar] at bad
  · next cut => simp [head_encodeChar] at cut

theorem decodeOnto_flatMap (text : List Char) (start : Nat) (seen : List Char) :
    decodeOnto (text.flatMap String.utf8EncodeChar) start seen = .ok (seen.reverse ++ text) := by
  induction text generalizing start seen with
  | nil =>
    rw [List.flatMap_nil, decodeOnto]
    simp [head]
  | cons c rest ih =>
    rw [List.flatMap_cons, decodeOnto_encodeChar, ih]
    simp

/-- The text that was written is read. -/
@[simp] theorem decode_encode (text : String) : decode (encode text) = .ok text := by
  rw [decode, encode, decodeOnto_flatMap]
  simp [Except.map]

@[simp] theorem decode?_encode (text : String) : decode? (encode text) = some text := by
  rw [decode?, decode_encode]
  rfl

theorem decodeLossyOnto_encodeChar (c : Char) (rest : Bytes) (seen : List Char) :
    decodeLossyOnto (String.utf8EncodeChar c ++ rest) seen = decodeLossyOnto rest (c :: seen) := by
  rw [decodeLossyOnto]
  split
  · next none => simp [head_encodeChar] at none
  · next taken =>
    rw [head_encodeChar] at taken
    cases taken
    rfl
  · next bad => simp [head_encodeChar] at bad
  · next cut => simp [head_encodeChar] at cut

theorem decodeLossyOnto_flatMap (text seen : List Char) :
    decodeLossyOnto (text.flatMap String.utf8EncodeChar) seen = seen.reverse ++ text := by
  induction text generalizing seen with
  | nil =>
    rw [List.flatMap_nil, decodeLossyOnto]
    simp [head]
  | cons c rest ih =>
    rw [List.flatMap_cons, decodeLossyOnto_encodeChar, ih]
    simp

/-- Nothing of a text that was written is replaced. -/
@[simp] theorem decodeLossy_encode (text : String) : decodeLossy (encode text) = text := by
  rw [decodeLossy, encode, decodeLossyOnto_flatMap]
  simp

/-! ## Writing back what was read -/

theorem toNat_of_isContinuation {b : UInt8} (tail : isContinuation b = true) :
    0x80 ≤ b.toNat ∧ b.toNat < 0xC0 := by
  have tails : ∀ n < 0x100, isContinuation (UInt8.ofNat n) = true → 0x80 ≤ n ∧ n < 0xC0 := by
    decide +kernel
  have here := tails b.toNat b.toNat_lt
  rw [UInt8.ofNat_toNat] at here
  exact here tail

theorem toNat_of_secondOfThree {a b : UInt8} (second : secondOfThree a b = true) :
    (0x80 ≤ b.toNat ∧ b.toNat < 0xC0) ∧ (a.toNat = 0xE0 → 0xA0 ≤ b.toNat) ∧
      (a.toNat = 0xED → b.toNat < 0xA0) := by
  unfold secondOfThree at second
  simp only [beq_iff_eq, ← UInt8.toNat_inj, UInt8.toNat_ofNat] at second
  split at second
  · simp only [Bool.and_eq_true, decide_eq_true_eq, UInt8.le_iff_toNat_le, UInt8.toNat_ofNat] at second
    omega
  · split at second
    · simp only [Bool.and_eq_true, decide_eq_true_eq, UInt8.le_iff_toNat_le, UInt8.toNat_ofNat] at second
      omega
    · have := toNat_of_isContinuation second
      omega

theorem toNat_of_secondOfFour {a b : UInt8} (second : secondOfFour a b = true) :
    (0x80 ≤ b.toNat ∧ b.toNat < 0xC0) ∧ (a.toNat = 0xF0 → 0x90 ≤ b.toNat) ∧
      (a.toNat = 0xF4 → b.toNat < 0x90) := by
  unfold secondOfFour at second
  simp only [beq_iff_eq, ← UInt8.toNat_inj, UInt8.toNat_ofNat] at second
  split at second
  · simp only [Bool.and_eq_true, decide_eq_true_eq, UInt8.le_iff_toNat_le, UInt8.toNat_ofNat] at second
    omega
  · split at second
    · simp only [Bool.and_eq_true, decide_eq_true_eq, UInt8.le_iff_toNat_le, UInt8.toNat_ofNat] at second
      omega
    · have := toNat_of_isContinuation second
      omega

/-- A byte whose number is known. -/
theorem ofNat_eq {b : UInt8} {n : Nat} (same : n = b.toNat) : UInt8.ofNat n = b := by
  rw [same, UInt8.ofNat_toNat]

/-- What is taken off the front of a byte string as a character is what the character is written as. -/
theorem eq_of_head_char {bytes rest : Bytes} {c : Char} (taken : head bytes = .char c rest) :
    bytes = String.utf8EncodeChar c ++ rest := by
  have scalar {n : Nat} (valid : n.isValidChar) : (Char.ofNat n).val.toNat = n := by
    rw [Char.toNat_val, toNat_ofNat, if_pos valid]
  revert taken
  fun_cases head bytes
  all_goals
    intro taken
    cases taken
  all_goals simp only [UInt8.lt_iff_toNat_lt, UInt8.toNat_ofNat] at *
  · next a one =>
    simp only [String.utf8EncodeChar]
    rw [scalar (.inl (by omega)), if_pos (by omega), ofNat_eq rfl, List.singleton_append]
  · next a b second one none two =>
    have second := toNat_of_isContinuation second
    simp only [low6]
    simp only [String.utf8EncodeChar]
    rw [scalar (.inl (by omega)), if_neg (by omega), if_pos (by omega), ofNat_eq (b := a) (by omega),
      ofNat_eq (b := b) (by omega)]
    rfl
  · next a b second c third one none two three =>
    have second := toNat_of_secondOfThree second
    have third := toNat_of_isContinuation third
    simp only [low6]
    simp only [String.utf8EncodeChar]
    rw [scalar (by unfold Nat.isValidChar; omega), if_neg (by omega), if_neg (by omega), if_pos (by omega),
      ofNat_eq (b := a) (by omega), ofNat_eq (b := b) (by omega), ofNat_eq (b := c) (by omega)]
    rfl
  · next a b second c third d fourth one none two three four =>
    have second := toNat_of_secondOfFour second
    have third := toNat_of_isContinuation third
    have fourth := toNat_of_isContinuation fourth
    simp only [low6]
    simp only [String.utf8EncodeChar]
    rw [scalar (by unfold Nat.isValidChar; omega), if_neg (by omega), if_neg (by omega), if_neg (by omega),
      ofNat_eq (b := a) (by omega), ofNat_eq (b := b) (by omega), ofNat_eq (b := c) (by omega),
      ofNat_eq (b := d) (by omega)]
    rfl

theorem eq_nil_of_head_done {bytes : Bytes} (done : head bytes = .done) : bytes = [] := by
  revert done
  fun_cases head bytes
  case case1 => exact fun _ => rfl
  all_goals
    intro done
    cases done

theorem eq_of_decodeOnto {bytes : Bytes} {start : Nat} {seen text : List Char}
    (read : decodeOnto bytes start seen = .ok text) :
    seen.reverse.flatMap String.utf8EncodeChar ++ bytes = text.flatMap String.utf8EncodeChar := by
  fun_induction decodeOnto bytes start seen with
  | case1 bytes start seen done =>
    cases read
    rw [eq_nil_of_head_done done, List.append_nil]
  | case2 bytes start seen c rest taken shorter ih =>
    rw [← ih read, eq_of_head_char taken]
    simp
  | case3 | case4 => cases read

/-- What is read is what the bytes were written for. -/
theorem encode_of_decode? {bytes : Bytes} {text : String} (read : decode? bytes = some text) :
    encode text = bytes := by
  rw [decode?, decode] at read
  cases found : decodeOnto bytes 0 [] with
  | error cause => simp [found, Except.map, Except.toOption] at read
  | ok chars =>
    have same := eq_of_decodeOnto found
    simp only [found, Except.map, Except.toOption, Option.some.injEq] at read
    rw [encode, ← read, String.toList_ofList, ← same]
    rfl

end Utf8

end SqlWire
