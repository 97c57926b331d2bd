import Mathlib.Data.List.Infix
import SqlWire.Proofs.Statement.Scanning
import SqlWire.Proofs.Text.Slices

/-! # The grammar of tokens

Which bytes can be a token is said here without a scanner. `Lexeme` has a rule for each kind of token,
`IsLongest` asks that no longer token starts at the same place, and `IsCut` cuts a text into longest
tokens from left to right. The end of a text closes what is open in it, so a rule also looks at the
bytes behind the token.

The scanner and the grammar agree: what the scanner takes off a text is a token (`lexeme_first`), no
token is longer (`length_le_first`), and no other token has the same bytes (`Lexeme.eq_of_bytes`). So
a text has one cut, which is the scanner's (`isCut_iff`). `ofText_grammar` draws the conclusion for
placeholders and says that each of them is a part of the text between two characters.
-/

namespace SqlWire

namespace Token

/-! ## The rules -/

/-- What can stand between the quotes of a string. -/
inductive Inside (escapes : Bool) (quote : UInt8) : Bytes → Prop
  | nil : Inside escapes quote []
  | byte {b : UInt8} {rest : Bytes} (other : b ≠ quote) (loud : escapes = true → b ≠ 0x5C)
      (later : Inside escapes quote rest) : Inside escapes quote (b :: rest)
  /-- A backslash and the byte that it hides. -/
  | escaped {b : UInt8} {rest : Bytes} (escaping : escapes = true)
      (later : Inside escapes quote rest) : Inside escapes quote (0x5C :: b :: rest)
  /-- Two quotes that stand for one. -/
  | doubled {rest : Bytes} (later : Inside escapes quote rest) :
      Inside escapes quote (quote :: quote :: rest)

/-- How a string ends before some text: with its quote, or with the text. -/
inductive Closing (escapes : Bool) (quote : UInt8) : Bytes → Bytes → Prop
  | quote {after : Bytes} : Closing escapes quote [quote] after
  | nothing : Closing escapes quote [] []
  /-- A backslash that has nothing to hide. -/
  | backslash (escaping : escapes = true) : Closing escapes quote [0x5C] []

/-- A string with its quotes before some text. -/
inductive Quoted : Bytes → Bytes → Prop
  | intro {quote : UInt8} {inside closing after : Bytes} (quotes : isQuote quote = true)
      (within : Inside (isStringQuote quote) quote inside)
      (ends : Closing (isStringQuote quote) quote closing after) :
      Quoted (quote :: (inside ++ closing)) after

/-- The rest of a line before some text, with the byte that ends the line. -/
inductive Line : Bytes → Bytes → Prop
  | ended {text after : Bytes} (whole : 0x0A ∉ text) : Line (text ++ [0x0A]) after
  | last {text : Bytes} (whole : 0x0A ∉ text) : Line text []

/-- The two bytes that close a comment. -/
def commentEnd : Bytes := [0x2A, 0x2F]

/-- A comment behind its opening mark and before some text, up to the first closing mark. -/
inductive Comment : Bytes → Bytes → Prop
  | closed {text after : Bytes} (first : ¬ commentEnd <:+: text ++ [0x2A]) :
      Comment (text ++ commentEnd) after
  | unclosed {text : Bytes} (none : ¬ commentEnd <:+: text) : Comment text []

/-- The tokens that can stand before some text. -/
inductive Lexeme : Token → Bytes → Prop
  | quoted {text after : Bytes} (string : Quoted text after) : Lexeme (.plain text) after
  | quotedName {text after : Bytes} (string : Quoted text after) :
      Lexeme (.plain (0x40 :: text)) after
  | system {name after : Bytes} (bytes : ∀ b ∈ name, isNameByte b = true) :
      Lexeme (.plain (0x40 :: 0x40 :: name)) after
  | hash {text after : Bytes} (line : Line text after) : Lexeme (.plain (0x23 :: text)) after
  | dashes {text after : Bytes} (line : Line text after) (gap : ∀ b ∈ text.head?, isGap b = true) :
      Lexeme (.plain (0x2D :: 0x2D :: text)) after
  | block {text after : Bytes} (comment : Comment text after) :
      Lexeme (.plain (0x2F :: 0x2A :: text)) after
  | named {b : UInt8} {name after : Bytes} (bytes : ∀ c ∈ b :: name, isNameByte c = true) :
      Lexeme (.named (0x40 :: b :: name)) after
  | positional {after : Bytes} : Lexeme .positional after
  | other {b : UInt8} {after : Bytes} (noMark : b ≠ 0x3F) : Lexeme (.plain [b]) after

/-- Whether a token can stand before some text, and no longer one has the same start. -/
structure IsLongest (t : Token) (after : Bytes) : Prop where
  lexeme : Lexeme t after
  longest : ∀ u later, Lexeme u later → u.bytes ++ later = t.bytes ++ after →
    u.bytes.length ≤ t.bytes.length

/-- The cut of a text into longest tokens, from left to right. -/
inductive IsCut : Bytes → List Token → Prop
  | nil : IsCut [] []
  | cons {t : Token} {after : Bytes} {others : List Token} (first : IsLongest t after)
      (later : IsCut after others) : IsCut (t.bytes ++ after) (t :: others)

/-! ## Strings -/

/-- A string is gone through byte by byte, or by two bytes. -/
theorem Inside.splitQuoted_append {escapes : Bool} {quote : UInt8} {inside : Bytes}
    (within : Inside escapes quote inside) (tail : Bytes) :
    splitQuoted escapes quote (inside ++ tail) =
      (inside ++ (splitQuoted escapes quote tail).1, (splitQuoted escapes quote tail).2) := by
  induction within with
  | nil => rfl
  | @byte b rest other loud later ih =>
    have calm : (escapes && b == 0x5C) = false := by simpa using loud
    cases more : rest ++ tail with
    | nil =>
      obtain ⟨rfl, rfl⟩ := List.append_eq_nil_iff.mp more
      rfl
    | cons c text =>
      rw [more] at ih
      simp [splitQuoted, more, calm, other, ih]
  | escaped escaping later ih =>
    subst escaping
    simp [splitQuoted, ih]
  | doubled later ih => simp [splitQuoted, ih]

/-- What is split off as a string is the inside of one, with its end. -/
theorem exists_inside (escapes : Bool) (quote : UInt8) (text : Bytes) :
    ∃ inside closing, (splitQuoted escapes quote text).1 = inside ++ closing ∧
      Inside escapes quote inside ∧
      Closing escapes quote closing (splitQuoted escapes quote text).2 := by
  fun_induction splitQuoted escapes quote text with
  | case1 => exact ⟨[], [], rfl, .nil, .nothing⟩
  | case2 b =>
    by_cases closing : b = quote
    · exact ⟨[], [b], rfl, .nil, closing ▸ .quote⟩
    · by_cases hides : escapes = true ∧ b = 0x5C
      · obtain ⟨escaping, rfl⟩ := hides
        exact ⟨[], [0x5C], rfl, .nil, .backslash escaping⟩
      · exact ⟨[b], [], rfl, .byte closing (not_and.mp hides) .nil, .nothing⟩
  | case3 b c rest hidden inside after split ih =>
    rw [split] at ih
    obtain ⟨first, closing, whole, within, ends⟩ := ih
    refine ⟨b :: c :: first, closing, by simp_all, ?_, ends⟩
    simp only [Bool.or_eq_true, Bool.and_eq_true, beq_iff_eq] at hidden
    obtain ⟨escaping, rfl⟩ | ⟨rfl, rfl⟩ := hidden
    · exact .escaped escaping within
    · exact .doubled within
  | case4 b c rest hidden closing =>
    obtain rfl : b = quote := by simpa using closing
    exact ⟨[], [b], rfl, .nil, .quote⟩
  | case5 b c rest hidden closing inside after split ih =>
    rw [split] at ih
    obtain ⟨first, ending, whole, within, ends⟩ := ih
    refine ⟨b :: first, ending, by simp_all, .byte (by simpa using closing) ?_ within, ends⟩
    intro escaping slash
    simp [escaping, slash] at hidden

/-- No end of a string is further behind than the scanner's. -/
theorem length_le_splitQuoted {escapes : Bool} {quote : UInt8} {inside closing after : Bytes}
    (within : Inside escapes quote inside) (ends : Closing escapes quote closing after) :
    (inside ++ closing).length ≤
      (splitQuoted escapes quote (inside ++ closing ++ after)).1.length := by
  rw [List.append_assoc, within.splitQuoted_append, List.length_append, List.length_append]
  apply Nat.add_le_add_left
  cases ends with
  | quote => exact List.length_pos_iff.mpr (splitQuoted_cons_ne_nil escapes quote quote after)
  | nothing => exact Nat.zero_le _
  | backslash escaping => exact Nat.le_refl 1

theorem quoted_splitQuoted {b : UInt8} (quotes : isQuote b = true) (rest : Bytes) :
    Quoted (b :: (splitQuoted (isStringQuote b) b rest).1)
      (splitQuoted (isStringQuote b) b rest).2 := by
  obtain ⟨inside, closing, whole, within, ends⟩ := exists_inside (isStringQuote b) b rest
  rw [whole]
  exact .intro quotes within ends

/-! ## Comments -/

theorem Line.cons {b : UInt8} {text after : Bytes} (line : Line text after) (inside : b ≠ 0x0A) :
    Line (b :: text) after := by
  cases line with
  | @ended text _ whole =>
    have longer : 0x0A ∉ b :: text := List.not_mem_cons_of_ne_of_not_mem inside.symm whole
    exact .ended longer
  | last whole => exact .last (List.not_mem_cons_of_ne_of_not_mem inside.symm whole)

theorem line_splitLine (text : Bytes) : Line (splitLine text).1 (splitLine text).2 := by
  fun_induction splitLine text with
  | case1 => exact .last List.not_mem_nil
  | case2 b rest ended =>
    obtain rfl : b = 0x0A := by simpa using ended
    have none : 0x0A ∉ ([] : Bytes) := List.not_mem_nil
    exact .ended none
  | case3 b rest ended inside after split ih =>
    rw [split] at ih
    exact ih.cons (by simpa using ended)

theorem splitLine_append_of_notMem {text : Bytes} (whole : 0x0A ∉ text) (tail : Bytes) :
    splitLine (text ++ tail) = (text ++ (splitLine tail).1, (splitLine tail).2) := by
  induction text with
  | nil => rfl
  | cons b rest ih =>
    have inside : b ≠ 0x0A := (List.ne_of_not_mem_cons whole).symm
    simp [splitLine, inside, ih (List.not_mem_of_not_mem_cons whole)]

theorem Line.length_le_splitLine {text after : Bytes} (line : Line text after) :
    text.length ≤ (splitLine (text ++ after)).1.length := by
  cases line with
  | ended whole =>
    rw [List.append_assoc, splitLine_append_of_notMem whole]
    simp [splitLine]
  | last whole =>
    rw [splitLine_append_of_notMem whole]
    simp

theorem Comment.cons {b : UInt8} {text after : Bytes} (comment : Comment text after)
    (inside : ¬ commentEnd <+: b :: text) : Comment (b :: text) after := by
  cases comment with
  | @closed text _ first =>
    have longer : ¬ commentEnd <:+: (b :: text) ++ [0x2A] := by
      rw [List.cons_append, List.infix_cons_iff, not_or]
      refine ⟨fun starts => inside (starts.trans ?_), first⟩
      exact ⟨[0x2F], by simp [commentEnd]⟩
    exact .closed longer
  | unclosed none =>
    refine .unclosed ?_
    rw [List.infix_cons_iff, not_or]
    exact ⟨inside, none⟩

theorem comment_splitComment (text : Bytes) : Comment (splitComment text).1 (splitComment text).2 := by
  fun_induction splitComment text with
  | case1 => exact .unclosed (by decide)
  | case2 b =>
    refine .unclosed fun inside => ?_
    have short : 2 ≤ 1 := inside.length_le
    omega
  | case3 b c rest ended =>
    obtain ⟨rfl, rfl⟩ : b = 0x2A ∧ c = 0x2F := by simpa using ended
    have none : ¬ commentEnd <:+: ([] : Bytes) ++ [0x2A] := by decide
    exact .closed none
  | case4 b c rest ended inside after split ih =>
    have whole := splitComment_append (c :: rest)
    rw [split] at ih whole
    apply ih.cons
    rintro ⟨later, marks⟩
    simp only [commentEnd, List.cons_append, List.nil_append, List.cons.injEq] at marks
    obtain ⟨rfl, rfl⟩ := marks
    obtain ⟨rfl, -⟩ := List.cons.inj whole
    exact ended rfl

/-- A text without a closing mark is gone through, also if the mark would end with the next byte. -/
theorem splitComment_append_of_clear {text tail : Bytes}
    (clear : ¬ commentEnd <:+: text ++ tail.take 1) :
    splitComment (text ++ tail) = (text ++ (splitComment tail).1, (splitComment tail).2) := by
  induction text with
  | nil => rfl
  | cons b rest ih =>
    rw [List.cons_append, List.infix_cons_iff, not_or] at clear
    obtain ⟨here, later⟩ := clear
    have behind := ih later
    cases more : rest ++ tail with
    | nil =>
      obtain ⟨rfl, rfl⟩ := List.append_eq_nil_iff.mp more
      rfl
    | cons c text =>
      have next : rest ++ tail.take 1 = c :: (rest ++ tail.take 1).tail := by
        cases rest with
        | cons d rest => simp_all
        | nil => simp_all
      have unmarked : ¬ ((b == 0x2A && c == 0x2F) = true) := by
        intro mark
        obtain ⟨rfl, rfl⟩ : b = 0x2A ∧ c = 0x2F := by simpa using mark
        apply here
        rw [next]
        exact ⟨_, rfl⟩
      rw [more] at behind
      simp only [List.cons_append, more, splitComment, if_neg unmarked, behind]

theorem Comment.length_le_splitComment {text after : Bytes} (comment : Comment text after) :
    text.length ≤ (splitComment (text ++ after)).1.length := by
  cases comment with
  | closed first =>
    rw [List.append_assoc, splitComment_append_of_clear (by simpa [commentEnd] using first)]
    simp [splitComment, commentEnd]
  | unclosed none =>
    rw [splitComment_append_of_clear (by simpa using none)]
    simp

/-! ## The first token -/

theorem lexeme_afterDash (rest : Bytes) : Lexeme (afterDash rest).1 (afterDash rest).2 := by
  fun_cases afterDash rest with
  | case1 => exact .other (by decide)
  | case2 b rest marks inside after split =>
    obtain ⟨rfl, ends⟩ : b = 0x2D ∧ endsDashes rest = true := by simpa using marks
    have line := line_splitLine rest
    have whole := splitLine_append rest
    rw [split] at line whole
    refine .dashes line fun c head => ?_
    obtain ⟨later, rfl⟩ := List.head?_eq_some_iff.mp head
    rw [← whole] at ends
    exact ends
  | case3 => exact .other (by decide)

theorem lexeme_afterSlash (rest : Bytes) : Lexeme (afterSlash rest).1 (afterSlash rest).2 := by
  fun_cases afterSlash rest with
  | case1 => exact .other (by decide)
  | case2 b rest marks inside after split =>
    obtain rfl : b = 0x2A := by simpa using marks
    have comment := comment_splitComment rest
    rw [split] at comment
    exact .block comment
  | case3 => exact .other (by decide)

theorem lexeme_afterAt (rest : Bytes) : Lexeme (afterAt rest).1 (afterAt rest).2 := by
  fun_cases afterAt rest with
  | case1 => exact .other (by decide)
  | case2 b rest sign =>
    obtain rfl : b = 0x40 := by simpa using sign
    exact .system (List.all_eq_true.mp List.all_takeWhile)
  | case3 b rest _ quotes inside after split =>
    have string := quoted_splitQuoted quotes rest
    rw [split] at string
    exact .quotedName string
  | case4 b rest _ _ name =>
    exact .named (List.forall_mem_cons.mpr ⟨name, List.all_eq_true.mp List.all_takeWhile⟩)
  | case5 => exact .other (by decide)

/-- What the scanner takes off a text is a token. -/
theorem lexeme_first (b : UInt8) (rest : Bytes) : Lexeme (first b rest).1 (first b rest).2 := by
  fun_cases first b rest with
  | case1 quotes inside after split =>
    have string := quoted_splitQuoted quotes rest
    rw [split] at string
    exact .quoted string
  | case2 _ hash inside after split =>
    obtain rfl : b = 0x23 := by simpa using hash
    have line := line_splitLine rest
    rw [split] at line
    exact .hash line
  | case3 => exact lexeme_afterDash rest
  | case4 => exact lexeme_afterSlash rest
  | case5 => exact .positional
  | case6 => exact lexeme_afterAt rest
  | case7 _ _ _ _ mark => exact .other (by simpa using mark)

theorem length_le_afterDash {text after : Bytes} (line : Line text after)
    (gap : ∀ b ∈ text.head?, isGap b = true) :
    text.length + 2 ≤ (afterDash (0x2D :: (text ++ after))).1.bytes.length := by
  have ends : endsDashes (text ++ after) = true := by
    cases text with
    | nil =>
      generalize empty : ([] : Bytes) = text at line
      cases line with
      | ended => simp at empty
      | last => simp [← empty, endsDashes]
    | cons b text => exact gap b rfl
  simpa [afterDash, ends, bytes] using line.length_le_splitLine

theorem length_le_afterSlash {text after : Bytes} (comment : Comment text after) :
    text.length + 2 ≤ (afterSlash (0x2A :: (text ++ after))).1.bytes.length := by
  simpa [afterSlash, bytes] using comment.length_le_splitComment

/-- A quote is no byte of a name and no sign. -/
theorem isNameByte_of_isQuote {b : UInt8} (quotes : isQuote b = true) :
    isNameByte b = false ∧ b ≠ 0x40 := by
  simp only [isQuote, isStringQuote, Bool.or_eq_true, beq_iff_eq] at quotes
  obtain (rfl | rfl) | rfl := quotes <;> decide

theorem length_le_takeWhile {name : Bytes} (all : ∀ b ∈ name, isNameByte b = true) (after : Bytes) :
    name.length ≤ ((name ++ after).takeWhile isNameByte).length := by
  rw [List.takeWhile_append_of_pos all, List.length_append]
  exact Nat.le_add_right ..

/-- No token is longer than the scanner's. -/
theorem length_le_first {t : Token} {after rest : Bytes} {b : UInt8} (lexeme : Lexeme t after)
    (whole : t.bytes ++ after = b :: rest) : t.bytes.length ≤ (first b rest).1.bytes.length := by
  have some := List.length_pos_iff.mpr (bytes_ne_nil_first b rest)
  cases lexeme with
  | quoted string =>
    obtain ⟨quotes, within, ends⟩ := string
    obtain ⟨rfl, rfl⟩ := List.cons.inj whole
    have reach := length_le_splitQuoted within ends
    simpa [first, quotes, bytes] using reach
  | quotedName string =>
    obtain ⟨quotes, within, ends⟩ := string
    obtain ⟨rfl, rfl⟩ := List.cons.inj whole
    have reach := length_le_splitQuoted within ends
    have noSign := (isNameByte_of_isQuote quotes).2
    have sign : first 0x40 = afterAt := rfl
    simpa [sign, afterAt, noSign, quotes, bytes] using reach
  | system all =>
    obtain ⟨rfl, rfl⟩ := List.cons.inj whole
    have sign : first 0x40 = afterAt := rfl
    simpa [sign, afterAt, bytes] using length_le_takeWhile all after
  | hash line =>
    obtain ⟨rfl, rfl⟩ := List.cons.inj whole
    simpa [first, isQuote, isStringQuote, bytes] using line.length_le_splitLine
  | dashes line gap =>
    obtain ⟨rfl, rfl⟩ := List.cons.inj whole
    exact length_le_afterDash line gap
  | block comment =>
    obtain ⟨rfl, rfl⟩ := List.cons.inj whole
    exact length_le_afterSlash comment
  | @named c _ _ all =>
    obtain ⟨rfl, rfl⟩ := List.cons.inj whole
    obtain ⟨name, later⟩ := List.forall_mem_cons.mp all
    have noSign : c ≠ 0x40 := by
      rintro rfl
      exact absurd name (by decide)
    have noQuote : isQuote c = false := by
      cases quotes : isQuote c with
      | false => rfl
      | true => simp [(isNameByte_of_isQuote quotes).1] at name
    have sign : first 0x40 = afterAt := rfl
    simpa [sign, afterAt, noSign, noQuote, name, bytes] using length_le_takeWhile later after
  | positional => exact some
  | other noMark => exact some

/-- The bytes of a token that is no placeholder are not those of one. -/
theorem Lexeme.kind_plain {text after : Bytes} (lexeme : Lexeme (.plain text) after) :
    text ≠ [0x3F] ∧ ∀ b rest, text = 0x40 :: b :: rest → isNameByte b = false := by
  cases lexeme with
  | quoted string =>
    obtain ⟨quotes, within, ends⟩ := string
    refine ⟨fun mark => ?_, fun b rest same => ?_⟩
    · obtain ⟨rfl, -⟩ := List.cons.inj mark
      exact absurd quotes (by decide)
    · obtain ⟨rfl, -⟩ := List.cons.inj same
      exact absurd rfl (isNameByte_of_isQuote quotes).2
  | quotedName string =>
    obtain ⟨quotes, within, ends⟩ := string
    refine ⟨by simp, fun b rest same => ?_⟩
    obtain ⟨-, same⟩ := List.cons.inj same
    obtain ⟨rfl, -⟩ := List.cons.inj same
    exact (isNameByte_of_isQuote quotes).1
  | system all =>
    refine ⟨by simp, fun b rest same => ?_⟩
    obtain ⟨-, same⟩ := List.cons.inj same
    obtain ⟨rfl, -⟩ := List.cons.inj same
    decide
  | hash line => simp
  | dashes line gap => simp
  | block comment => simp
  | other noMark => simpa using noMark

theorem Lexeme.kind_named {name after : Bytes} (lexeme : Lexeme (.named name) after) :
    ∃ b rest, name = 0x40 :: b :: rest ∧ isNameByte b = true := by
  cases lexeme with
  | @named b rest _ all => exact ⟨b, rest, rfl, all b List.mem_cons_self⟩

/-- No other token has the bytes of a token. -/
theorem Lexeme.eq_of_bytes {t u : Token} {a b : Bytes} (here : Lexeme t a) (there : Lexeme u b)
    (same : t.bytes = u.bytes) : t = u := by
  cases t with
  | plain text =>
    cases u with
    | plain _ => exact congrArg plain same
    | named name =>
      obtain ⟨c, rest, rfl, named⟩ := there.kind_named
      rw [here.kind_plain.2 c rest same] at named
      cases named
    | positional => exact (here.kind_plain.1 same).elim
  | named name =>
    obtain ⟨c, rest, rfl, byte⟩ := here.kind_named
    cases u with
    | plain text =>
      rw [there.kind_plain.2 c rest same.symm] at byte
      cases byte
    | named _ => exact congrArg Token.named same
    | positional => cases same
  | positional =>
    cases u with
    | plain text => exact (there.kind_plain.1 same.symm).elim
    | named name =>
      obtain ⟨c, rest, rfl, -⟩ := there.kind_named
      cases same
    | positional => rfl

/-! ## The cut -/

theorem isLongest_first (b : UInt8) (rest : Bytes) : IsLongest (first b rest).1 (first b rest).2 where
  lexeme := lexeme_first b rest
  longest u later lexeme same := by
    rw [first_append] at same
    exact length_le_first lexeme same

/-- One longest token starts a text. -/
theorem IsLongest.unique {t u : Token} {a b : Bytes} (here : IsLongest t a) (there : IsLongest u b)
    (same : t.bytes ++ a = u.bytes ++ b) : t = u ∧ a = b := by
  have length : t.bytes.length = u.bytes.length :=
    Nat.le_antisymm (there.longest t a here.lexeme same) (here.longest u b there.lexeme same.symm)
  obtain ⟨bytes, later⟩ := List.append_inj same length
  exact ⟨here.lexeme.eq_of_bytes there.lexeme bytes, later⟩

theorem Lexeme.bytes_ne_nil {t : Token} {after : Bytes} (lexeme : Lexeme t after) : t.bytes ≠ [] := by
  cases lexeme with
  | quoted string =>
    obtain ⟨_, _, _⟩ := string
    simp [bytes]
  | _ => simp [bytes]

theorem isCut_cut (text : Bytes) : IsCut text (cut text) := by
  fun_induction cut text with
  | case1 => exact .nil
  | case2 b rest ih =>
    have here := IsCut.cons (isLongest_first b rest) ih
    rwa [first_append] at here

/-- A text has one cut into longest tokens, which is the scanner's. -/
theorem isCut_iff {text : Bytes} {ts : List Token} : IsCut text ts ↔ ts = cut text := by
  constructor
  · intro tokens
    induction tokens with
    | nil => simp [cut]
    | @cons t after others here later ih =>
      cases whole : t.bytes ++ after with
      | nil => exact (here.lexeme.bytes_ne_nil (List.append_eq_nil_iff.mp whole).1).elim
      | cons b rest =>
        obtain ⟨rfl, rfl⟩ := here.unique (isLongest_first b rest) (by rw [whole, first_append])
        rw [cut, ih]
  · rintro rfl
    exact isCut_cut text

theorem IsCut.eq_flatMap {text : Bytes} {ts : List Token} (tokens : IsCut text ts) :
    text = ts.flatMap bytes := by
  induction tokens with
  | nil => rfl
  | cons here later ih => rw [List.flatMap_cons, ih]

/-- Every token of a cut is a longest one before the rest of the text. -/
theorem IsCut.isLongest {text : Bytes} {before later : List Token} {t : Token}
    (tokens : IsCut text (before ++ t :: later)) : IsLongest t (later.flatMap bytes) := by
  induction before generalizing text with
  | nil =>
    cases tokens with
    | cons here behind => rwa [← behind.eq_flatMap]
  | cons u before ih =>
    cases tokens with
    | cons here behind => exact ih behind

/-- What ends a name is an ASCII byte. -/
theorem isAscii_of_isNameByte {b : UInt8} (ends : isNameByte b = false) : Utf8.isAscii b = true := by
  simp only [isNameByte, Bool.or_eq_false_iff, decide_eq_false_iff_not] at ends
  exact decide_eq_true (UInt8.not_le.mp ends.2)

/-- A longest name has no byte of a name behind it. -/
theorem IsLongest.isAscii_head {name after : Bytes} (here : IsLongest (.named name) after) :
    ∀ b ∈ after.head?, Utf8.isAscii b = true := by
  intro b head
  apply isAscii_of_isNameByte
  obtain ⟨rest, rfl⟩ := List.head?_eq_some_iff.mp head
  cases byte : isNameByte b with
  | false => rfl
  | true =>
    obtain ⟨lexeme, longest⟩ := here
    cases lexeme with
    | @named c name _ all =>
      have more : ∀ d ∈ c :: (name ++ [b]), isNameByte d = true := by
        rw [← List.cons_append]
        exact List.forall_mem_append.mpr ⟨all, by simpa using byte⟩
      have longer := longest _ rest (.named more) (by simp [bytes])
      simp only [bytes, List.length_cons, List.length_append] at longer
      omega

end Token

namespace Placeholder

/-- The placeholder that a token is at an offset. -/
def ofToken? (start : Nat) : Token → Option Placeholder
  | .plain _ => none
  | .named text => some (named start text.length)
  | .positional => some (positional start)

theorem mem_ofTokens_cons {p : Placeholder} {start : Nat} {t : Token} {rest : List Token} :
    p ∈ ofTokens start (t :: rest) ↔
      ofToken? start t = some p ∨ p ∈ ofTokens (start + t.bytes.length) rest := by
  cases t <;> simp [ofTokens, ofToken?, eq_comm]

/-- The placeholders of a text are those of its tokens that are one. -/
theorem mem_ofTokens {p : Placeholder} {start : Nat} {ts : List Token} :
    p ∈ ofTokens start ts ↔ ∃ before t later, ts = before ++ t :: later ∧
      ofToken? (start + (before.flatMap Token.bytes).length) t = some p := by
  induction ts generalizing start with
  | nil => simp [ofTokens]
  | cons first rest ih =>
    rw [mem_ofTokens_cons, ih]
    constructor
    · rintro (here | ⟨before, t, later, rfl, place⟩)
      · exact ⟨[], first, rest, rfl, here⟩
      · refine ⟨first :: before, t, later, rfl, ?_⟩
        rwa [List.flatMap_cons, List.length_append, ← Nat.add_assoc]
    · rintro ⟨before, t, later, tokens, place⟩
      cases before with
      | nil =>
        obtain ⟨rfl, -⟩ := List.cons.inj tokens
        exact .inl place
      | cons u before =>
        obtain ⟨rfl, rfl⟩ := List.cons.inj tokens
        rw [List.flatMap_cons, List.length_append, ← Nat.add_assoc] at place
        exact .inr ⟨before, t, later, rfl, place⟩

theorem start_le_of_mem {p : Placeholder} {start : Nat} {ts : List Token}
    (member : p ∈ ofTokens start ts) : start ≤ p.start := by
  obtain ⟨before, t, later, -, place⟩ := mem_ofTokens.mp member
  cases t with
  | plain text => cases place
  | named text =>
    obtain rfl := Option.some.inj place
    exact Nat.le_add_right ..
  | positional =>
    obtain rfl := Option.some.inj place
    exact Nat.le_add_right ..

/-- Placeholders follow one another. -/
theorem pairwise_ofTokens (start : Nat) (ts : List Token) :
    (ofTokens start ts).Pairwise fun p q => p.start + p.length ≤ q.start := by
  induction ts generalizing start with
  | nil => exact .nil
  | cons t rest ih =>
    cases t with
    | plain text => exact ih _
    | named text => exact .cons (fun q member => start_le_of_mem member) (ih _)
    | positional => exact .cons (fun q member => start_le_of_mem member) (ih _)

/-- A placeholder is a part of its text that is not empty. -/
theorem exists_isSlice {sql : String} {p : Placeholder} (member : p ∈ ofText (Utf8.encode sql)) :
    0 < p.length ∧ ∃ part, Utf8.IsSlice sql p.start p.length part := by
  obtain ⟨before, t, later, tokens, place⟩ := mem_ofTokens.mp member
  have cut := Token.isCut_cut (Utf8.encode sql)
  rw [tokens] at cut
  have whole := cut.eq_flatMap
  rw [List.flatMap_append, List.flatMap_cons] at whole
  have longest := cut.isLongest
  cases t with
  | plain text => cases place
  | named text =>
    obtain rfl := Option.some.inj place
    obtain ⟨b, name, rfl, -⟩ := longest.lexeme.kind_named
    obtain ⟨part, slice, -⟩ := Utf8.exists_isSlice whole (by decide) (.inr longest.isAscii_head)
    exact ⟨Nat.succ_pos _, part, by simpa [start, length] using slice⟩
  | positional =>
    obtain rfl := Option.some.inj place
    obtain ⟨part, slice, -⟩ := @Utf8.exists_isSlice _ _ _ [] _ whole (by decide) (.inl rfl)
    exact ⟨Nat.one_pos, part, by simpa [start, length] using slice⟩

/-- The scan of a statement is its grammar: a text has one cut into longest tokens, the names and
question marks of that cut are the placeholders, in their order and without a byte in common, and each
of them stands between two characters of the text. -/
theorem ofText_grammar (sql : String) :
    ∃ ts, (∀ us, Token.IsCut (Utf8.encode sql) us ↔ us = ts) ∧
      (∀ p, p ∈ ofText (Utf8.encode sql) ↔ ∃ before t later, ts = before ++ t :: later ∧
        ofToken? (before.flatMap Token.bytes).length t = some p) ∧
      (ofText (Utf8.encode sql)).Pairwise
        (fun p q => p.start < q.start ∧ p.start + p.length ≤ q.start) ∧
      ∀ p ∈ ofText (Utf8.encode sql),
        0 < p.length ∧ ∃ part, Utf8.IsSlice sql p.start p.length part := by
  refine ⟨Token.cut (Utf8.encode sql), fun us => Token.isCut_iff, ?_, ?_, ?_⟩
  · intro p
    rw [ofText, mem_ofTokens]
    simp only [Nat.zero_add]
  · refine (pairwise_ofTokens 0 _).imp_of_mem ?_
    intro p q member _ behind
    obtain ⟨some, -⟩ := exists_isSlice member
    omega
  · intro p member
    exact exists_isSlice member

/-- A hidden quote closes no string, and the slash of an opening mark closes no comment. -/
example : ofText (Utf8.encode "'\\'?' /*/ ? */ @é?") = [.named 15 3, .positional 18] := by
  decide +kernel

end Placeholder

end SqlWire
