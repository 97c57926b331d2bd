import Mathlib.Data.List.Basic
import Mathlib.Data.List.TakeDrop
import Mathlib.Data.Prod.Lex
import SqlWire.Message.ServerVersion
import SqlWire.Proofs.Text.Numerals
import SqlWire.Proofs.Text.Slices

/-! # Reading server versions

A number is found in a version's text whatever zeros are in front of it, and what is behind the numbers
counts for nothing unless it could belong to them (`ServerVersion.components_dot` and
`ServerVersion.components_end`). Versions are ordered as their numbers are, the first one that differs
deciding (`ServerVersion.isAtLeast_iff`).

The digits of a number can also be counted as bytes and the text cut behind as many. No such cut is inside
a character, since a digit is a byte of its own, so this reading finds the same numbers
(`ServerVersion.parseBytes?_eq`).
-/

namespace SqlWire

namespace ServerVersion

/-! ## Numbers in a text -/

/-- A number in a version's text, with zeros in front up to a width. -/
def group (width : Nat) (n : UInt32) : String := String.ofList (Digits.padded width n.toNat)

theorem toList_group (width : Nat) (n : UInt32) :
    (group width n).toList = Digits.padded width n.toNat := String.toList_ofList

/-- Zeros in front of a number do not count. -/
theorem component_group (width : Nat) (n : UInt32) : component (group width n).toList = n.toNat := by
  rw [component, Digits.numberBelow?_eq (by decide), toList_group, Digits.number_padded,
    if_pos n.toNat_lt]
  rfl

/-- The digits at the start of a text are the number there, if no digit is behind it. -/
theorem span_group (width : Nat) (n : UInt32) {rest : List Char}
    (ends : ∀ c ∈ rest.head?, c.isDigit = false) :
    ((group width n).toList ++ rest).span Char.isDigit = ((group width n).toList, rest) := by
  have all : ∀ c ∈ (group width n).toList, c.isDigit = true := by
    rw [toList_group]
    exact fun _ => Digits.isDigit_padded
  rw [List.span_eq_takeWhile_dropWhile, List.takeWhile_append_of_pos all,
    List.dropWhile_append_of_pos all]
  cases rest with
  | nil => simp
  | cons c rest => simp [ends c rfl]

/-- Behind a number and a dot the next number is sought. -/
theorem components_dot (count width : Nat) (n : UInt32) (rest : List Char) :
    components (count + 1) ((group width n).toList ++ '.' :: rest) =
      n.toNat :: components count rest := by
  obtain ⟨c, others, digits⟩ := List.exists_cons_of_ne_nil (Digits.padded_ne_nil width n.toNat)
  rw [components, span_group width n (by simp)]
  dsimp only
  rw [component_group, toList_group, digits]
  rfl

/-- Without a dot behind a number the others are zero. -/
theorem components_end (count width : Nat) (n : UInt32) {rest : List Char}
    (ends : ∀ c ∈ rest.head?, c.isDigit = false) (last : count = 0 ∨ rest.head? ≠ some '.') :
    components (count + 1) ((group width n).toList ++ rest) = n.toNat :: List.replicate count 0 := by
  rw [components, span_group width n ends]
  dsimp only
  rw [component_group]
  split
  · next next =>
    rcases last with rfl | dot
    · rfl
    · exact (dot rfl).elim
  · rfl

/-! ## The order of versions -/

/-- Three numbers in the order in which the first that differs decides. -/
def triple (major minor patch : Nat) : Nat ×ₗ Nat ×ₗ Nat := toLex (major, toLex (minor, patch))

def numbers (v : ServerVersion) : Nat ×ₗ Nat ×ₗ Nat := triple v.major v.minor v.patch

theorem numbers_parse {raw : String} {major minor patch : Nat}
    (found : components 3 raw.toList = [major, minor, patch]) :
    (parse raw).numbers = triple major minor patch := by
  rw [parse, found]
  rfl

theorem raw_parse (raw : String) : (parse raw).raw = raw := by
  unfold parse
  split <;> rfl

theorem isAtLeast_iff (v : ServerVersion) (major minor patch : Nat) :
    v.isAtLeast major minor patch = true ↔ triple major minor patch ≤ v.numbers := by
  simp only [isAtLeast, numbers, triple, Prod.Lex.toLex_le_toLex, Bool.or_eq_true, Bool.and_eq_true,
    decide_eq_true_eq, beq_iff_eq]
  grind

/-! ## Cuts behind bytes -/

def isDigitByte (b : UInt8) : Bool := 0x30 ≤ b && b ≤ 0x39

theorem isDigitByte_ofNat {n : Nat} (small : n < 0x100) :
    isDigitByte (UInt8.ofNat n) = decide (0x30 ≤ n ∧ n ≤ 0x39) := by
  simp only [isDigitByte, UInt8.le_iff_toNat_le, UInt8.toNat_ofNat, UInt8.toNat_ofNat', Bool.decide_and]
  rw [Nat.mod_eq_of_lt small]

theorem isDigit_eq (c : Char) : c.isDigit = decide (0x30 ≤ c.val.toNat ∧ c.val.toNat ≤ 0x39) := by
  simp only [Char.isDigit, ge_iff_le, UInt32.le_iff_toNat_le, Bool.decide_and]
  rfl

/-- A digit is one byte that is a digit; no other character starts with such a byte. -/
theorem exists_encodeChar (c : Char) :
    ∃ b more, String.utf8EncodeChar c = b :: more ∧ isDigitByte b = c.isDigit ∧
      (c.isDigit = true → more = []) := by
  rw [isDigit_eq, String.utf8EncodeChar]
  generalize c.val.toNat = n
  split
  · next ascii => exact ⟨_, _, rfl, isDigitByte_ofNat (by omega), fun _ => rfl⟩
  · next beyond =>
    have other : ¬ (0x30 ≤ n ∧ n ≤ 0x39) := by omega
    have high {lead : Nat} (least : 0x39 < lead) (most : lead < 0x100) :
        isDigitByte (UInt8.ofNat lead) = false := by
      rw [isDigitByte_ofNat most, decide_eq_false (by omega)]
    rw [decide_eq_false other]
    split
    · exact ⟨_, _, rfl, high (by omega) (by omega), nofun⟩
    · split
      · exact ⟨_, _, rfl, high (by omega) (by omega), nofun⟩
      · exact ⟨_, _, rfl, high (by omega) (by omega), nofun⟩

/-- The bytes that are digits at the start of a text are its characters that are digits. -/
theorem takeWhile_encode (text : List Char) :
    (text.flatMap String.utf8EncodeChar).takeWhile isDigitByte =
      (text.takeWhile Char.isDigit).flatMap String.utf8EncodeChar := by
  induction text with
  | nil => rfl
  | cons c text ih =>
    obtain ⟨b, more, bytes, first, whole⟩ := exists_encodeChar c
    rw [List.flatMap_cons, bytes, List.cons_append, List.takeWhile_cons, List.takeWhile_cons, first]
    split
    · next digit =>
      rw [whole digit, List.nil_append, ih, List.flatMap_cons, bytes, whole digit]
      rfl
    · rfl

/-- How many bytes are digits at the start of a text. -/
def digitBytes (text : List Char) : Nat :=
  ((text.flatMap String.utf8EncodeChar).takeWhile isDigitByte).length

/-- The first `count` numbers of a text that is cut behind as many bytes as are digits; nothing if a cut
is inside a character. -/
def componentsBytes? : Nat → List Char → Option (List Nat)
  | 0, _ => some []
  | count + 1, text =>
    (Utf8.cut? (digitBytes text) text).bind fun (digits, rest) =>
      match rest with
      | '.' :: next =>
        if 0 < digitBytes text then (componentsBytes? count next).map (component digits :: ·)
        else some (component digits :: List.replicate count 0)
      | _ => some (component digits :: List.replicate count 0)

/-- Reads a version from a text that is cut behind bytes. -/
def parseBytes? (raw : String) : Option ServerVersion :=
  (componentsBytes? 3 raw.toList).bind fun
    | [major, minor, patch] => some ⟨major, minor, patch, raw⟩
    | _ => none

theorem cut?_digitBytes (text : List Char) :
    Utf8.cut? (digitBytes text) text = some (text.span Char.isDigit) := by
  rw [digitBytes, takeWhile_encode, List.span_eq_takeWhile_dropWhile, Utf8.cut?_eq_some_iff,
    List.takeWhile_append_dropWhile]
  exact ⟨rfl, rfl⟩

theorem digitBytes_pos_iff (text : List Char) :
    0 < digitBytes text ↔ text.takeWhile Char.isDigit ≠ [] := by
  rw [digitBytes, takeWhile_encode, List.length_pos_iff, ne_eq, List.flatMap_eq_nil_iff]
  cases text.takeWhile Char.isDigit with
  | nil => simp
  | cons c digits => exact ⟨nofun, fun _ none => String.utf8EncodeChar_ne_nil (none c List.mem_cons_self)⟩

/-- No cut is inside a character. -/
theorem componentsBytes?_eq (count : Nat) (text : List Char) :
    componentsBytes? count text = some (components count text) := by
  induction count generalizing text with
  | zero => rfl
  | succ count ih =>
    have begun := digitBytes_pos_iff text
    rw [componentsBytes?, cut?_digitBytes, components, List.span_eq_takeWhile_dropWhile,
      Option.bind_some]
    dsimp only
    generalize text.takeWhile Char.isDigit = digits, text.dropWhile Char.isDigit = rest at begun
    split
    · next next =>
      cases digits with
      | nil => rw [if_neg (by simp [begun])]
      | cons c digits =>
        rw [if_pos (by simp [begun]), ih]
        rfl
    · next other =>
      split
      · next next => exact (other next rfl).elim
      · rfl

theorem length_components (count : Nat) (text : List Char) : (components count text).length = count := by
  induction count generalizing text with
  | zero => rfl
  | succ count ih =>
    rw [components]
    dsimp only
    rw [List.length_cons]
    split
    · rw [ih]
    · rw [List.length_replicate]

theorem parseBytes?_eq (raw : String) : parseBytes? raw = some (parse raw) := by
  obtain ⟨major, minor, patch, found⟩ := List.length_eq_three.mp (length_components 3 raw.toList)
  rw [parseBytes?, componentsBytes?_eq, parse, found]
  rfl

/-! ## What is read -/

/-- Three numbers with dots between them are the version, whatever is behind them but a digit. -/
theorem numbers_three (i j k : Nat) (a b c : UInt32) {suffix : String}
    (ends : ∀ d ∈ suffix.toList.head?, d.isDigit = false) :
    (parse (group i a ++ "." ++ group j b ++ "." ++ group k c ++ suffix)).numbers =
      triple a.toNat b.toNat c.toNat := by
  apply numbers_parse
  simp only [String.toList_append, String.reduceToList, List.append_assoc, List.cons_append,
    List.nil_append]
  rw [components_dot, components_dot, components_end 0 k c ends (.inl rfl)]
  rfl

/-- Behind two numbers without a dot the third is zero. -/
theorem numbers_two (i j : Nat) (a b : UInt32) {suffix : String}
    (ends : ∀ d ∈ suffix.toList.head?, d.isDigit = false) (last : suffix.toList.head? ≠ some '.') :
    (parse (group i a ++ "." ++ group j b ++ suffix)).numbers = triple a.toNat b.toNat 0 := by
  apply numbers_parse
  simp only [String.toList_append, String.reduceToList, List.append_assoc, List.cons_append,
    List.nil_append]
  rw [components_dot, components_end 1 j b ends (.inr last)]
  rfl

/-- Behind one number without a dot the others are zero. -/
theorem numbers_one (i : Nat) (a : UInt32) {suffix : String}
    (ends : ∀ d ∈ suffix.toList.head?, d.isDigit = false) (last : suffix.toList.head? ≠ some '.') :
    (parse (group i a ++ suffix)).numbers = triple a.toNat 0 0 := by
  apply numbers_parse
  rw [String.toList_append, components_end 2 i a ends (.inr last)]
  rfl

/-- A later version can do what an earlier one can. -/
theorem supportsReset_mono {v w : ServerVersion} (later : v.numbers ≤ w.numbers)
    (able : v.supportsReset = true) : w.supportsReset = true :=
  (isAtLeast_iff w 5 7 3).mpr (((isAtLeast_iff v 5 7 3).mp able).trans later)

/-- The numbers of a version are read from its text, with zeros for those that are left out; every text
is read without a cut inside a character, and kept. One version is at least another if its numbers are
not less where they first differ, so later versions can be reset if an earlier one can. -/
theorem parse_numbers_ordered :
    (∀ (i j k : Nat) (a b c : UInt32) (suffix : String),
      (∀ d ∈ suffix.toList.head?, d.isDigit = false) →
        (parse (group i a ++ "." ++ group j b ++ "." ++ group k c ++ suffix)).numbers =
            triple a.toNat b.toNat c.toNat ∧
          (suffix.toList.head? ≠ some '.' →
            (parse (group i a ++ "." ++ group j b ++ suffix)).numbers = triple a.toNat b.toNat 0 ∧
              (parse (group i a ++ suffix)).numbers = triple a.toNat 0 0)) ∧
      (∀ raw, parseBytes? raw = some (parse raw) ∧ (parse raw).raw = raw) ∧
      (∀ (v : ServerVersion) (major minor patch : Nat),
        v.isAtLeast major minor patch = true ↔ triple major minor patch ≤ v.numbers) ∧
      ∀ v w : ServerVersion, v.numbers ≤ w.numbers → v.supportsReset = true →
        w.supportsReset = true := by
  refine ⟨fun i j k a b c suffix ends => ⟨numbers_three i j k a b c ends, fun last => ?_⟩,
    fun raw => ⟨parseBytes?_eq raw, raw_parse raw⟩, isAtLeast_iff, fun v w => supportsReset_mono⟩
  exact ⟨numbers_two i j a b ends last, numbers_one i a ends last⟩

/-- Zeros and a name around the numbers of a version, and a version before it. -/
theorem parse_numbers_ordered_vendor :
    ((∀ d ∈ "-log".toList.head?, d.isDigit = false) ∧ "-log".toList.head? ≠ some '.') ∧
      (parse "08.0.036-log").numbers = triple 8 0 36 ∧ (parse "08.0-log").numbers = triple 8 0 0 ∧
      (parse "08-log").numbers = triple 8 0 0 ∧
      ((parse "5.7.3").numbers ≤ (parse "08.0.036-log").numbers ∧ (parse "5.7.3").supportsReset = true) ∧
      (parse "08.0.036-log").supportsReset = true := by
  have ends : ∀ d ∈ "-log".toList.head?, d.isDigit = false := by
    rintro _ ⟨⟩
    rfl
  have last : "-log".toList.head? ≠ some '.' := by decide
  obtain ⟨written, _, _, mono⟩ := parse_numbers_ordered
  obtain ⟨three, fewer⟩ := written 2 1 3 8 0 36 "-log" ends
  obtain ⟨two, one⟩ := fewer last
  have before : (parse "5.7.3").numbers ≤ (parse "08.0.036-log").numbers := by decide
  have able : (parse "5.7.3").supportsReset = true := by decide
  exact ⟨⟨ends, last⟩, three, two, one, ⟨before, able⟩, mono _ _ before able⟩

end ServerVersion

end SqlWire
