import SqlWire.Proofs.Text.Utf8

/-! # Parts of a text

An offset counts bytes, and a text can only be cut between its characters. A byte below `0x80` is a
character of its own wherever it stands, so a text can be cut on both sides of it (`exists_split` and
`exists_split_behind`). `Utf8.IsSlice` says that some bytes of a text are themselves a text, and
`Utf8.cut?` cuts a text at an offset where that is between two characters (`Utf8.cut?_eq_some_iff`).
-/

namespace SqlWire

namespace Utf8

/-- The bytes of two texts follow one another. -/
theorem encode_append (a b : String) : encode (a ++ b) = encode a ++ encode b := by
  simp [encode]

/-- Whether the bytes of a text from an offset on are a text for some length, with nothing but whole
characters before and behind it. -/
def IsSlice (text : String) (start length : Nat) (part : String) : Prop :=
  ∃ front back, text = front ++ part ++ back ∧ (encode front).length = start ∧
    (encode part).length = length

/-- The bytes of a slice. -/
theorem IsSlice.bytes {text part : String} {start length : Nat}
    (slice : IsSlice text start length part) :
    ((encode text).drop start).take length = encode part := by
  obtain ⟨front, back, rfl, rfl, rfl⟩ := slice
  rw [encode_append, encode_append, List.append_assoc, List.drop_left, List.take_left]

/-- What is in front of an offset in a text and what is behind it; nothing if the offset is inside a
character or behind the end. -/
def cut? : Nat → List Char → Option (List Char × List Char)
  | 0, text => some ([], text)
  | _ + 1, [] => none
  | offset + 1, c :: text =>
    if c.utf8Size ≤ offset + 1 then
      (cut? (offset + 1 - c.utf8Size) text).map fun (front, back) => (c :: front, back)
    else none

theorem cut?_append (front back : List Char) :
    cut? (front.flatMap String.utf8EncodeChar).length (front ++ back) = some (front, back) := by
  induction front with
  | nil => exact cut?.eq_1 back
  | cons c front ih =>
    have wide : 0 < c.utf8Size := c.utf8Size_pos
    rw [List.flatMap_cons, List.length_append, String.length_utf8EncodeChar]
    generalize (front.flatMap String.utf8EncodeChar).length = offset at ih
    obtain ⟨more, width⟩ : ∃ more, c.utf8Size + offset = more + 1 := ⟨c.utf8Size + offset - 1, by omega⟩
    have left : more + 1 - c.utf8Size = offset := by omega
    rw [width, List.cons_append, cut?, if_pos (by omega), left, ih]
    rfl

/-- A text is cut into two parts of it, the first of which has as many bytes as the offset says. -/
theorem cut?_eq_some_iff {offset : Nat} {text front back : List Char} :
    cut? offset text = some (front, back) ↔
      text = front ++ back ∧ (front.flatMap String.utf8EncodeChar).length = offset := by
  constructor
  · intro found
    fun_induction cut? offset text generalizing front with
    | case1 => cases found; exact ⟨rfl, rfl⟩
    | case2 => cases found
    | case3 offset c text fits ih =>
      obtain ⟨⟨before, behind⟩, part, same⟩ := Option.map_eq_some_iff.mp found
      cases same
      obtain ⟨rfl, width⟩ := ih part
      rw [List.flatMap_cons, List.length_append, String.length_utf8EncodeChar, width]
      exact ⟨rfl, by omega⟩
    | case4 => cases found
  · rintro ⟨rfl, rfl⟩
    exact cut?_append front back

/-- Whether a byte is a whole character. -/
def isAscii (b : UInt8) : Bool := b < 0x80

theorem toNat_lt_of_isAscii {b : UInt8} (ascii : isAscii b = true) : b.toNat < 0x80 :=
  UInt8.lt_iff_toNat_lt.mp (of_decide_eq_true ascii)

/-- A character that starts with an ASCII byte has no other byte. -/
theorem encodeChar_eq_singleton {c : Char} {b : UInt8} {rest : Bytes} (ascii : isAscii b = true)
    (bytes : String.utf8EncodeChar c = b :: rest) : rest = [] := by
  have taken := head_encodeChar c []
  rw [List.append_nil, bytes, head_one rest (toNat_lt_of_isAscii ascii)] at taken
  exact (Head.char.inj taken).2

theorem isUTF8FirstByte_of_isAscii {b : UInt8} (ascii : isAscii b = true) : b.IsUTF8FirstByte := by
  have leads : ∀ n < 0x80, (UInt8.ofNat n).IsUTF8FirstByte := by decide
  have here := leads b.toNat (toNat_lt_of_isAscii ascii)
  rwa [UInt8.ofNat_toNat] at here

/-- No byte of a character but its first is ASCII. -/
theorem eq_nil_of_encodeChar {c : Char} {b : UInt8} {before rest : Bytes} (ascii : isAscii b = true)
    (bytes : String.utf8EncodeChar c = before ++ b :: rest) : before = [] := by
  have within : before.length < (String.utf8EncodeChar c).length := by simp [bytes]
  have here : (String.utf8EncodeChar c)[before.length] = b := by simp [bytes]
  have leads : (String.utf8EncodeChar c)[before.length].IsUTF8FirstByte := by
    rw [here]
    exact isUTF8FirstByte_of_isAscii ascii
  exact List.length_eq_zero_iff.mp (UInt8.isUTF8FirstByte_getElem_utf8EncodeChar.mp leads)

/-- Characters can be parted before an ASCII byte. -/
theorem exists_chars {text : List Char} {front back : Bytes} {b : UInt8} (ascii : isAscii b = true)
    (whole : text.flatMap String.utf8EncodeChar = front ++ b :: back) :
    ∃ before later, text = before ++ later ∧ before.flatMap String.utf8EncodeChar = front ∧
      later.flatMap String.utf8EncodeChar = b :: back := by
  induction text generalizing front with
  | nil => simp at whole
  | cons c text ih =>
    rw [List.flatMap_cons] at whole
    rcases List.append_eq_append_iff.mp whole with ⟨inside, rfl, later⟩ | ⟨inside, first, later⟩
    · obtain ⟨before, behind, rfl, bytes, rest⟩ := ih later
      exact ⟨c :: before, behind, rfl, by rw [List.flatMap_cons, bytes], rest⟩
    · cases inside with
      | nil =>
        rw [List.append_nil] at first
        exact ⟨[c], text, rfl, by simp [first], later.symm⟩
      | cons d inside =>
        obtain ⟨rfl, _⟩ := List.cons.inj later
        obtain rfl := eq_nil_of_encodeChar ascii first
        exact ⟨[], c :: text, rfl, rfl, whole⟩

/-- A text can be cut where an ASCII byte or nothing follows. -/
theorem exists_split {text : String} {front back : Bytes} (whole : encode text = front ++ back)
    (ascii : ∀ b ∈ back.head?, isAscii b = true) :
    ∃ before later, text = before ++ later ∧ encode before = front ∧ encode later = back := by
  cases back with
  | nil => exact ⟨text, "", by simp, by simp [whole], rfl⟩
  | cons b back =>
    obtain ⟨before, later, parts, bytes, rest⟩ := exists_chars (ascii b rfl) whole
    refine ⟨.ofList before, .ofList later, ?_, by simpa [encode] using bytes,
      by simpa [encode] using rest⟩
    rw [← String.ofList_append, ← parts, String.ofList_toList]

/-- A text that starts with an ASCII byte can be cut behind it. -/
theorem exists_split_behind {text : String} {b : UInt8} {back : Bytes} (ascii : isAscii b = true)
    (whole : encode text = b :: back) :
    ∃ before later, text = before ++ later ∧ encode before = [b] ∧ encode later = back := by
  cases chars : text.toList with
  | nil => simp [encode, chars] at whole
  | cons c rest =>
    rw [encode, chars, List.flatMap_cons] at whole
    cases bytes : String.utf8EncodeChar c with
    | nil => exact (String.utf8EncodeChar_ne_nil bytes).elim
    | cons d more =>
      rw [bytes, List.cons_append] at whole
      obtain ⟨rfl, behind⟩ := List.cons.inj whole
      obtain rfl := encodeChar_eq_singleton ascii bytes
      refine ⟨.ofList [c], .ofList rest, ?_, by simp [encode, bytes], by simpa [encode] using behind⟩
      rw [← String.ofList_append, List.singleton_append, ← chars, String.ofList_toList]

/-- The bytes from an ASCII byte on are a text where they are that byte alone, or where an ASCII byte
or nothing follows. -/
theorem exists_isSlice {text : String} {front back part : Bytes} {b : UInt8}
    (whole : encode text = front ++ (b :: part ++ back)) (ascii : isAscii b = true)
    (ends : part = [] ∨ ∀ c ∈ back.head?, isAscii c = true) :
    ∃ name, IsSlice text front.length (b :: part).length name ∧ encode name = b :: part := by
  obtain ⟨before, rest, rfl, rfl, behind⟩ :=
    exists_split whole (by simpa using ascii)
  have parted : ∃ name later, rest = name ++ later ∧ encode name = b :: part ∧
      encode later = back := by
    rcases ends with rfl | follows
    · exact exists_split_behind ascii behind
    · exact exists_split behind follows
  obtain ⟨name, later, rfl, bytes, -⟩ := parted
  exact ⟨name, ⟨before, later, by rw [String.append_assoc], rfl, by rw [bytes]⟩, bytes⟩

end Utf8

end SqlWire
