import SqlWire.Proofs.Statement.Scanning
import SqlWire.Proofs.Text.Numerals
import SqlWire.Proofs.Value.Uuid
import SqlWire.Value.Literal

/-! # Literals hold no placeholders

A literal of any value is bare or quoted. A bare one is made of letters, digits and points, and of
dashes each of which has one of these behind it, so that its bytes are tokens of their own whatever
follows. A quoted one is one token, because every quote in it and every backslash has a backslash in
front, as long as no further quote follows it.

`Literal.IsOpaque` is what both have in common, and `Literal.isOpaque_ofValue` proves it of what is
written for a value where a backslash escapes.
-/

namespace SqlWire

namespace Token

/-- The byte of a name is no token of another kind. -/
theorem first_of_isNameByte {b : UInt8} (name : isNameByte b = true) (rest : Bytes) :
    first b rest = (plain [b], rest) := by
  have other : ∀ c : UInt8, isNameByte c = false → b ≠ c := by
    rintro c no rfl
    simp [name] at no
  have quote := other 0x27 (by decide)
  have double := other 0x22 (by decide)
  have back := other 0x60 (by decide)
  have line := other 0x23 (by decide)
  have dash := other 0x2D (by decide)
  have slash := other 0x2F (by decide)
  have mark := other 0x3F (by decide)
  have sign := other 0x40 (by decide)
  simp [first, isQuote, isStringQuote, *]

/-- A dash before the byte of a name is a token of its own. -/
theorem first_dash {b : UInt8} (name : isNameByte b = true) (rest : Bytes) :
    first 0x2D (b :: rest) = (plain [0x2D], b :: rest) := by
  have other : b ≠ 0x2D := by
    rintro rfl
    exact absurd name (by decide)
  simp [first, isQuote, isStringQuote, afterDash, other]

theorem isGap_of_isNameByte {b : UInt8} (name : isNameByte b = true) : isGap b = false := by
  have other : ∀ c : UInt8, isNameByte c = false → b ≠ c := by
    rintro c no rfl
    simp [name] at no
  simp [isGap, other 0x20 (by decide), other 0x09 (by decide), other 0x0A (by decide),
    other 0x0C (by decide), other 0x0D (by decide)]

theorem isGap_of_startsLiteral {b : UInt8} (starts : startsLiteral b = true) : isGap b = false := by
  simp only [startsLiteral, Bool.or_eq_true, beq_iff_eq] at starts
  obtain (name | rfl) | rfl := starts
  · exact isGap_of_isNameByte name
  · decide
  · decide

end Token

namespace Literal

/-- A text that starts with the byte of a name. -/
def startsName (text : Bytes) : Bool := text.head?.any Token.isNameByte

/-- A text of bytes of names and of dashes that each have one of these behind them. -/
def isBare : Bytes → Bool
  | [] => true
  | b :: rest => (Token.isNameByte b || b == 0x2D && startsName rest) && isBare rest

theorem startsName_append {a : Bytes} (starts : startsName a = true) (b : Bytes) :
    startsName (a ++ b) = true := by
  cases a with
  | nil => simp [startsName] at starts
  | cons c a => exact starts

theorem isBare_append {a b : Bytes} (first : isBare a = true) (last : isBare b = true) :
    isBare (a ++ b) = true := by
  induction a with
  | nil => exact last
  | cons c a ih =>
    simp only [isBare, Bool.and_eq_true, Bool.or_eq_true] at first
    obtain ⟨name | ⟨dash, starts⟩, bare⟩ := first
    · simp [isBare, name, ih bare]
    · simp [isBare, dash, startsName_append starts, ih bare]

/-- What a literal has to be so that no placeholder is seen in it. -/
structure IsOpaque (text : Bytes) : Prop where
  starts : ∃ b rest, text = b :: rest ∧ Token.startsLiteral b = true
  calm : ∀ after, Token.marksDash (text ++ after) = false
  hidden : ∀ start after, after.head? ≠ some quote →
    Placeholder.ofTokens start (Token.cut (text ++ after)) =
      Placeholder.ofTokens (start + text.length) (Token.cut after)

/-- The bytes of a bare text are tokens of their own. -/
theorem ofTokens_cut_bare {text : Bytes} (bare : isBare text = true) (start : Nat) (after : Bytes) :
    Placeholder.ofTokens start (Token.cut (text ++ after)) =
      Placeholder.ofTokens (start + text.length) (Token.cut after) := by
  induction text generalizing start with
  | nil => rfl
  | cons b rest ih =>
    simp only [isBare, Bool.and_eq_true, Bool.or_eq_true] at bare
    obtain ⟨alone, bare⟩ := bare
    have head : Token.first b (rest ++ after) = (.plain [b], rest ++ after) := by
      rcases alone with name | ⟨dash, starts⟩
      · exact Token.first_of_isNameByte name _
      · cases rest with
        | nil => simp [startsName] at starts
        | cons c rest =>
          obtain rfl : b = 0x2D := by simpa using dash
          exact Token.first_dash starts _
    rw [List.cons_append, Token.cut, head]
    simp only [Placeholder.ofTokens, Token.bytes, List.length_cons, List.length_nil, ih bare]
    congr 1
    omega

theorem isOpaque_of_isBare {text : Bytes} (bare : isBare text = true) (some : text ≠ []) :
    IsOpaque text := by
  cases text with
  | nil => exact (some rfl).elim
  | cons b rest =>
    have kind := bare
    simp only [isBare, Bool.and_eq_true, Bool.or_eq_true] at kind
    refine ⟨⟨b, rest, rfl, ?starts⟩, fun after => ?calm, fun start after _ => ?hidden⟩
    case hidden => exact ofTokens_cut_bare bare start after
    case starts =>
      rcases kind.1 with name | ⟨dash, _⟩
      · simp [Token.startsLiteral, name]
      · simp [Token.startsLiteral, eq_of_beq dash]
    case calm =>
      rcases kind.1 with name | ⟨_, starts⟩
      · have other : b ≠ 0x2D := by
          rintro rfl
          exact absurd name (by decide)
        simp [Token.marksDash, other]
      · cases rest with
        | nil => simp [startsName] at starts
        | cons c rest => simp [Token.marksDash, Token.endsDashes, Token.isGap_of_isNameByte starts]

/-- A byte in a string is written behind a backslash, or needs none. -/
theorem escape_cases (b : UInt8) :
    (∃ c, escape b = [backslash, c]) ∨ escape b = [b] ∧ b ≠ backslash ∧ b ≠ quote := by
  unfold escape
  split_ifs with slash quotes
  · exact .inl ⟨_, rfl⟩
  · exact .inl ⟨_, rfl⟩
  · exact .inl ⟨_, rfl⟩
  · exact .inl ⟨_, rfl⟩
  · exact .inl ⟨_, rfl⟩
  · exact .inl ⟨_, rfl⟩
  · exact .inr ⟨rfl, by simpa using slash, by simpa using quotes⟩

/-- A string is split off with its quote, if no other quote follows it. -/
theorem splitQuoted_escape (raw : Bytes) {after : Bytes} (ends : after.head? ≠ some quote) :
    Token.splitQuoted true quote (raw.flatMap escape ++ quote :: after) =
      (raw.flatMap escape ++ [quote], after) := by
  induction raw with
  | nil =>
    cases after with
    | nil => rfl
    | cons c after =>
      have other : c ≠ 0x27 := by simpa [quote] using ends
      simp [Token.splitQuoted, quote, other]
  | cons b raw ih =>
    rw [List.flatMap_cons, List.append_assoc, List.append_assoc]
    obtain ⟨c, written⟩ | ⟨written, slash, quotes⟩ := escape_cases b
    · simp [written, Token.splitQuoted, backslash, ih]
    · obtain ⟨c, rest, some⟩ :
          ∃ c rest, raw.flatMap escape ++ quote :: after = c :: rest :=
        List.exists_cons_of_ne_nil (by simp)
      rw [some] at ih ⊢
      simp [written, Token.splitQuoted, show b ≠ 0x5C from slash, quotes, ih]

theorem isOpaque_quoted (raw : Bytes) : IsOpaque (quoted false raw) := by
  refine ⟨⟨quote, _, rfl, rfl⟩, fun after => rfl, ?_⟩
  intro start after ends
  have text : quoted false raw ++ after = quote :: (raw.flatMap escape ++ quote :: after) := by
    simp [quoted]
  have head : Token.first quote (raw.flatMap escape ++ quote :: after) =
      (.plain (quoted false raw), after) := by
    have closed := splitQuoted_escape raw ends
    unfold Token.first
    rw [if_pos (show Token.isQuote quote = true from rfl),
      show Token.isStringQuote quote = true from rfl, closed]
    simp [quoted]
  rw [text, Token.cut, head]
  simp only [Placeholder.ofTokens, Token.bytes]

/-- Bytes of names before an opaque text. -/
theorem IsOpaque.append {a b : Bytes} (bare : isBare a = true) (some : a ≠ [])
    (opaqueText : IsOpaque b) : IsOpaque (a ++ b) := by
  obtain ⟨⟨c, rest, rfl, starts⟩, calm, -⟩ := isOpaque_of_isBare bare some
  refine ⟨⟨c, rest ++ b, rfl, starts⟩, ?_, ?_⟩
  · intro after
    rw [List.append_assoc]
    exact calm (b ++ after)
  · intro start after ends
    rw [List.append_assoc, ofTokens_cut_bare bare, opaqueText.hidden _ _ ends, List.length_append,
      Nat.add_assoc]

theorem isOpaque_binary (raw : Bytes) : IsOpaque (binary false raw) :=
  .append (by decide) (by decide) (isOpaque_quoted raw)

/-! ## Characters of literals -/

/-- Whether no byte of a character is escaped. -/
def isHarmless (c : Char) : Bool := (String.utf8EncodeChar c).all fun b => escape b == [b]

/-- Whether a character can stand in a number besides a dash. -/
def isNumeral (c : Char) : Bool := c.isDigit || c == '.' || c == 'e'

theorem plain_eq (text : List Char) : plain text = text.flatMap String.utf8EncodeChar := by
  simp [plain, Utf8.encode]

theorem plain_append (a b : List Char) : plain (a ++ b) = plain a ++ plain b := by
  simp [plain_eq]

theorem digit_eq {c : Char} (digit : c.isDigit = true) :
    ∃ k, k < 10 ∧ c = Char.ofNat (48 + k) := by
  obtain ⟨low, high⟩ : 48 ≤ c.toNat ∧ c.toNat ≤ 57 := by
    simpa [Char.isDigit, UInt32.le_iff_toNat_le] using digit
  refine ⟨c.toNat - 48, by omega, ?_⟩
  rw [show 48 + (c.toNat - 48) = c.toNat by omega, Char.ofNat_toNat]

theorem isHarmless_of_isDigit {c : Char} (digit : c.isDigit = true) : isHarmless c = true := by
  obtain ⟨k, small, rfl⟩ := digit_eq digit
  have all : ∀ k < 10, isHarmless (Char.ofNat (48 + k)) = true := by decide
  exact all k small

/-- A numeral is written as one byte, which can be part of a name. -/
theorem encode_numeral {c : Char} (numeral : isNumeral c = true) :
    ∃ b, String.utf8EncodeChar c = [b] ∧ Token.isNameByte b = true := by
  simp only [isNumeral, Bool.or_eq_true, beq_iff_eq] at numeral
  obtain (digit | rfl) | rfl := numeral
  · obtain ⟨k, small, rfl⟩ := digit_eq digit
    have all : ∀ k < 10, (String.utf8EncodeChar (Char.ofNat (48 + k))).length = 1 ∧
        (String.utf8EncodeChar (Char.ofNat (48 + k))).all Token.isNameByte = true := by decide
    obtain ⟨one, name⟩ := all k small
    obtain ⟨b, written⟩ := List.length_eq_one_iff.mp one
    exact ⟨b, written, by simpa [written] using name⟩
  · exact ⟨0x2E, by decide, by decide⟩
  · exact ⟨0x65, by decide, by decide⟩

theorem isBare_numerals {text : List Char} (numerals : ∀ c ∈ text, isNumeral c = true) :
    isBare (plain text) = true := by
  rw [plain_eq]
  induction text with
  | nil => rfl
  | cons c text ih =>
    obtain ⟨b, written, name⟩ := encode_numeral (numerals c (by simp))
    have rest := ih fun c member => numerals c (by simp [member])
    simp [written, isBare, name, rest]

theorem startsName_numerals {text : List Char} (numerals : ∀ c ∈ text, isNumeral c = true)
    (some : text ≠ []) : startsName (plain text) = true := by
  cases text with
  | nil => exact (some rfl).elim
  | cons c text =>
    obtain ⟨b, written, name⟩ := encode_numeral (numerals c (by simp))
    simp [plain_eq, written, startsName, name]

/-- A sign in front of a bare text. -/
theorem isBare_signed (negative : Prop) [Decidable negative] {text : List Char}
    (bare : isBare (plain text) = true) (starts : startsName (plain text) = true) :
    isBare (plain ((if negative then ['-'] else []) ++ text)) = true := by
  split_ifs
  · have dash : plain ['-'] = [0x2D] := by decide
    rw [plain_append, dash]
    simp [isBare, bare, starts]
  · exact bare

theorem isNumeral_singleton {c : Char} (numeral : isNumeral c = true) :
    ∀ d ∈ [c], isNumeral d = true := by
  intro d member
  rwa [List.mem_singleton.mp member]

theorem isNumeral_of_isDigit {c : Char} (digit : c.isDigit = true) : isNumeral c = true := by
  simp [isNumeral, digit]

/-- Numerals with a point somewhere among them. -/
private theorem isNumeral_point {digits : List Char} (numerals : ∀ c ∈ digits, isNumeral c = true)
    (places : Nat) : ∀ c ∈ digits.take places ++
      (if (digits.drop places).isEmpty then [] else '.' :: digits.drop places),
        isNumeral c = true := by
  intro c member
  rcases List.mem_append.mp member with whole | part
  · exact numerals c (List.mem_of_mem_take whole)
  · split_ifs at part
    · cases part
    · rcases List.mem_cons.mp part with rfl | part
      · decide
      · exact numerals c (List.mem_of_mem_drop part)

end Literal

namespace Digits

open Literal in
theorem isBare_ofInt (n : Int) : isBare (plain (ofInt n)) = true := by
  have numerals : ∀ c ∈ ofNat n.natAbs, isNumeral c = true := by
    intro c member
    exact isNumeral_of_isDigit (isDigit_ofNat member)
  have signed := isBare_signed (n < 0) (isBare_numerals numerals)
    (startsName_numerals numerals (ofNat_ne_nil _))
  unfold ofInt
  split_ifs at signed ⊢ <;> exact signed

end Digits

namespace Scientific

open Literal

variable {s : Scientific}

theorem isDigit_ofGrid {n : Nat} {place : Int} {c : Char} (member : c ∈ (ofGrid n place).digits) :
    c.isDigit = true := by
  have kept : c ∈ (Digits.ofNat n).reverse :=
    (List.dropWhile_sublist _).subset (List.mem_reverse.mp member)
  exact Digits.isDigit_ofNat (List.mem_reverse.mp kept)

theorem isDigit_shortest {f : BinaryFormat} {m : Nat} {q : Int} {c : Char}
    (member : c ∈ (shortest f m q).digits) : c.isDigit = true := by
  unfold shortest at member
  exact isDigit_ofGrid member

private theorem isNumeral_pointed {whole part : List Char} (first : ∀ c ∈ whole, isNumeral c = true)
    (last : ∀ c ∈ part, isNumeral c = true) :
    ∀ c ∈ (if part.isEmpty then whole else whole ++ '.' :: part), isNumeral c = true := by
  split_ifs
  · exact first
  · intro c member
    simp only [List.mem_append, List.mem_cons] at member
    obtain member | rfl | member := member
    · exact first c member
    · decide
    · exact last c member

private theorem isNumeral_zeros (count : Nat) : ∀ c ∈ List.replicate count '0', isNumeral c = true := by
  intro c member
  rw [List.eq_of_mem_replicate member]
  decide

theorem isNumeral_positional (digits : ∀ c ∈ s.digits, isNumeral c = true) (places : Nat) :
    ∀ c ∈ s.positional places, isNumeral c = true := by
  by_cases small : s.exponent < 0
  · simp only [positional, small, ↓reduceIte]
    apply isNumeral_pointed
    · exact isNumeral_singleton (by decide)
    · rw [List.forall_mem_append, List.forall_mem_append]
      exact ⟨⟨isNumeral_zeros _, digits⟩, isNumeral_zeros _⟩
  · simp only [positional, small, ↓reduceIte]
    apply isNumeral_pointed
    · rw [List.forall_mem_append]
      exact ⟨fun c member => digits c (List.mem_of_mem_take member), isNumeral_zeros _⟩
    · rw [List.forall_mem_append]
      exact ⟨fun c member => digits c (List.mem_of_mem_drop member), isNumeral_zeros _⟩

theorem positional_ne_nil (places : Nat) : s.positional places ≠ [] := by
  by_cases small : s.exponent < 0
  · simp only [positional, small, ↓reduceIte]
    split_ifs <;> simp
  · simp only [positional, small, ↓reduceIte]
    have some : s.digits.take (s.exponent.toNat + 1) ++
        List.replicate (s.exponent.toNat + 1 - s.digits.length) '0' ≠ [] := by
      rw [← List.length_pos_iff]
      simp only [List.length_append, List.length_take, List.length_replicate]
      omega
    split_ifs
    · exact some
    · simp

/-- A number with an exponent is bare. -/
theorem isBare_exponential (digits : ∀ c ∈ s.digits, isNumeral c = true) :
    isBare (plain s.exponential) = true ∧ startsName (plain s.exponential) = true := by
  have numerals : ∀ c ∈ s.digits.take 1 ++ (if (s.digits.drop 1).isEmpty then [] else
      '.' :: s.digits.drop 1) ++ ['e'], isNumeral c = true :=
    List.forall_mem_append.mpr ⟨isNumeral_point digits 1, isNumeral_singleton (by decide)⟩
  have parts : s.exponential = (s.digits.take 1 ++ (if (s.digits.drop 1).isEmpty then [] else
      '.' :: s.digits.drop 1) ++ ['e']) ++ Digits.ofInt s.exponent := by
    simp [exponential]
  rw [parts, plain_append]
  constructor
  · exact isBare_append (isBare_numerals numerals) (Digits.isBare_ofInt _)
  · exact startsName_append (startsName_numerals numerals (by simp)) _

end Scientific

namespace FloatStyle

open Literal

theorem isBare_write (style : FloatStyle) {s : Scientific}
    (digits : ∀ c ∈ s.digits, isNumeral c = true) :
    isBare (Literal.plain (style.write s)) = true ∧
      startsName (Literal.plain (style.write s)) = true := by
  unfold write
  simp only
  split_ifs
  · exact s.isBare_exponential digits
  · have numerals := s.isNumeral_positional digits style.places
    exact ⟨isBare_numerals numerals, startsName_numerals numerals (s.positional_ne_nil _)⟩

/-- A finite number is bare. -/
theorem isBare_format (style : FloatStyle) {f : BinaryFormat} {bits : Nat}
    (finite : f.isFinite bits = true) : isBare (Literal.plain (style.format f bits)) = true := by
  have number : f.isNaN bits = false := by
    simp only [BinaryFormat.isFinite, bne_iff_ne, ne_eq] at finite
    simp [BinaryFormat.isNaN, finite]
  have written : ∀ s : Scientific, (∀ c ∈ s.digits, isNumeral c = true) →
      isBare (Literal.plain ((if f.isNegative bits then ['-'] else []) ++ style.write s)) = true := by
    intro s digits
    obtain ⟨bare, starts⟩ := style.isBare_write digits
    exact isBare_signed _ bare starts
  simp only [format, number, finite, Bool.false_eq_true, ↓reduceIte, Bool.not_true]
  by_cases zero : ((f.magnitude bits).1 == 0) = true
  · simp only [zero, ↓reduceIte]
    exact written ⟨['0'], 0⟩ (isNumeral_singleton (by decide))
  · simp only [zero, Bool.false_eq_true, ↓reduceIte]
    exact written (Scientific.shortest f (f.magnitude bits).1 (f.magnitude bits).2)
      fun c member => isNumeral_of_isDigit (Scientific.isDigit_shortest member)

end FloatStyle

namespace Literal

theorem plain_ne_nil {text : List Char} (some : text ≠ []) : plain text ≠ [] := by
  cases text with
  | nil => exact (some rfl).elim
  | cons c text => simp [plain_eq, String.utf8EncodeChar_ne_nil]

private theorem isOpaque_plain {text : List Char} (bare : isBare (plain text) = true)
    (some : text ≠ []) : IsOpaque (plain text) :=
  isOpaque_of_isBare bare (plain_ne_nil some)

theorem isOpaque_ofNat (n : Nat) : IsOpaque (plain (Digits.ofNat n)) :=
  isOpaque_plain (isBare_numerals fun _ member => isNumeral_of_isDigit (Digits.isDigit_ofNat member))
    (Digits.ofNat_ne_nil n)

theorem isOpaque_ofInt (n : Int) : IsOpaque (plain (Digits.ofInt n)) := by
  refine isOpaque_plain (Digits.isBare_ofInt n) ?_
  unfold Digits.ofInt
  split_ifs
  · simp
  · exact Digits.ofNat_ne_nil _

private theorem point_ne_nil {digits : List Char} (some : digits ≠ []) (places : Nat) :
    digits.take places ++
      (if (digits.drop places).isEmpty then [] else '.' :: digits.drop places) ≠ [] := by
  split_ifs with empty
  · have whole := List.take_append_drop places digits
    rw [List.isEmpty_iff.mp empty] at whole
    rwa [whole]
  · simp

theorem isOpaque_decimal (d : Decimal) : IsOpaque (plain d.format) := by
  have digits : ∀ c ∈ Digits.padded (d.scale + 1) d.coefficient, isNumeral c = true := by
    intro c member
    exact isNumeral_of_isDigit (Digits.isDigit_padded member)
  have some := Digits.padded_ne_nil (d.scale + 1) d.coefficient
  have numerals := isNumeral_point digits
    ((Digits.padded (d.scale + 1) d.coefficient).length - d.scale)
  have filled := point_ne_nil some ((Digits.padded (d.scale + 1) d.coefficient).length - d.scale)
  have bare := isBare_signed (d.negative = true) (isBare_numerals numerals)
    (startsName_numerals numerals filled)
  unfold Decimal.format
  rw [List.append_assoc]
  exact isOpaque_plain bare (List.append_ne_nil_of_right_ne_nil _ filled)

theorem isOpaque_float {f : BinaryFormat} {bits : Nat} {text : Bytes}
    (written : float f bits = .ok text) : IsOpaque text := by
  unfold float at written
  split_ifs at written with finite
  obtain rfl := Except.ok.inj written
  have bare := FloatStyle.literal.isBare_format finite
  split_ifs with exponent
  · refine isOpaque_plain bare ?_
    rintro empty
    simp [empty] at exponent
  · refine isOpaque_plain ?_ (by simp)
    rw [plain_append]
    exact isBare_append bare (by decide)

private theorem flatMap_eq_self {raw : Bytes} {write : UInt8 → Bytes}
    (same : ∀ b ∈ raw, write b = [b]) : raw.flatMap write = raw := by
  induction raw with
  | nil => rfl
  | cons b raw ih =>
    rw [List.flatMap_cons, same b (by simp), ih fun c member => same c (by simp [member])]
    rfl

/-- Harmless characters in quotes are a string in either mode. -/
theorem bare_eq_quoted (noBackslashEscapes : Bool) {text : List Char}
    (harmless : ∀ c ∈ text, isHarmless c = true) : bare text = quoted noBackslashEscapes (plain text) := by
  have same : ∀ b ∈ plain text, escape b = [b] := by
    intro b member
    rw [plain_eq] at member
    obtain ⟨c, inText, inChar⟩ := List.mem_flatMap.mp member
    have whole := harmless c inText
    simp only [isHarmless, List.all_eq_true, beq_iff_eq] at whole
    exact whole b inChar
  cases noBackslashEscapes with
  | false => simp [bare, quoted, flatMap_eq_self same]
  | true =>
    have single : ∀ b ∈ plain text, doubleQuote b = [b] := by
      intro b member
      obtain ⟨c, written⟩ | ⟨-, -, quotes⟩ := escape_cases b
      · simp [same b member] at written
      · simp [doubleQuote, quotes]
    simp [bare, quoted, flatMap_eq_self single]

/-- A text of harmless characters in quotes. -/
theorem isOpaque_bare {text : List Char} (harmless : ∀ c ∈ text, isHarmless c = true) :
    IsOpaque (bare text) := by
  rw [bare_eq_quoted false harmless]
  exact isOpaque_quoted _

private theorem harmless_padded (width n : Nat) :
    ∀ c ∈ Digits.padded width n, isHarmless c = true := by
  intro c member
  exact isHarmless_of_isDigit (Digits.isDigit_padded member)

/-- A field of a date or of a time, behind a mark. -/
private theorem harmless_field {mark : Char} (harmless : isHarmless mark = true) (width n : Nat) :
    ∀ c ∈ mark :: Digits.padded width n, isHarmless c = true :=
  List.forall_mem_cons.mpr ⟨harmless, harmless_padded width n⟩

theorem harmless_date (d : Date) : ∀ c ∈ d.format, isHarmless c = true := by
  have year : ∀ c ∈ Date.formatYear d.year, isHarmless c = true := by
    unfold Date.formatYear
    split_ifs
    · exact harmless_padded _ _
    · exact harmless_field (by decide) _ _
    · exact harmless_field (by decide) _ _
  have dash : isHarmless '-' = true := by decide
  unfold Date.format
  rw [List.forall_mem_append, List.forall_mem_append]
  exact ⟨⟨year, harmless_field dash _ _⟩, harmless_field dash _ _⟩

theorem harmless_time (t : TimeOfDay) : ∀ c ∈ t.format, isHarmless c = true := by
  have colon : isHarmless ':' = true := by decide
  have point : isHarmless '.' = true := by decide
  unfold TimeOfDay.format
  rw [List.forall_mem_append, List.forall_mem_append, List.forall_mem_append]
  exact ⟨⟨⟨harmless_padded _ _, harmless_field colon _ _⟩, harmless_field colon _ _⟩,
    harmless_field point _ _⟩

theorem harmless_dateTime (t : DateTime) : ∀ c ∈ t.format, isHarmless c = true := by
  unfold DateTime.format
  rw [List.forall_mem_append, List.forall_mem_cons]
  exact ⟨harmless_date _, by decide, harmless_time _⟩

theorem harmless_uuid (u : Uuid) : ∀ c ∈ u.format, isHarmless c = true := by
  intro c member
  obtain rfl | ⟨n, small, rfl⟩ := Uuid.mem_format member
  · decide
  · have all : ∀ n < 16, isHarmless (Hex.digit 'a' n) = true := by decide
    exact all n small

/-- What is written for a value where a backslash escapes holds no placeholder. -/
theorem isOpaque_ofValue {options : LiteralOptions} (escaping : options.noBackslashEscapes = false)
    {v : Value} {text : Bytes} (written : ofValue options v = .ok text) : IsOpaque text := by
  unfold ofValue at written
  split at written
  case h_7 v => exact isOpaque_float written
  case h_6 v => exact isOpaque_float written
  all_goals obtain rfl := Except.ok.inj written
  · exact isOpaque_of_isBare (by decide) (by decide)
  · exact isOpaque_of_isBare (by decide) (by decide)
  · exact isOpaque_of_isBare (by decide) (by decide)
  · exact isOpaque_ofInt _
  · exact isOpaque_ofNat _
  · rw [escaping]
    exact isOpaque_quoted _
  · rw [escaping]
    exact isOpaque_binary _
  · exact isOpaque_decimal _
  · split_ifs
    · rw [escaping]
      exact isOpaque_binary _
    · exact isOpaque_bare (harmless_uuid _)
  · exact isOpaque_bare (harmless_date _)
  · exact isOpaque_bare (harmless_time _)
  · exact isOpaque_bare (harmless_dateTime _)

end Literal

end SqlWire
