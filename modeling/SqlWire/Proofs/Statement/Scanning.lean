import Mathlib.Tactic.SplitIfs
import SqlWire.Statement.Placeholder

/-! # Tokens before another text

A token ends where it ends because of what it is and, at most, because of the first bytes behind it:
a string ends if its quote does not follow, a name if no byte of a name does, and a dash stands
alone if what follows is not the rest of a comment mark. So a token stays what it is before another
text with a first byte that is as harmless.

`Token.Stands` says that a token is the first one before some text, and `Token.Stands.exchange` is
the exchange of that text. `Token.Joins` are the bytes that a literal can run together with.
-/

namespace SqlWire

namespace Token

/-- Whether a text makes a comment mark of a dash before it. -/
def marksDash : Bytes → Bool
  | [] => false
  | b :: rest => b == 0x2D && endsDashes rest

/-- Whether a byte can run together with a literal next to it. -/
def joins (b : UInt8) : Bool := isQuote b || b == 0x40 || b == 0x3F || isNameByte b

/-- Whether a literal can start with a byte. -/
def startsLiteral (b : UInt8) : Bool := isNameByte b || b == 0x2D || b == 0x27

/-- Whether a token is the first one of its bytes and the text behind them. -/
def Stands (t : Token) (after : Bytes) : Prop :=
  ∃ b inside, t.bytes = b :: inside ∧ first b (inside ++ after) = (t, after)

theorem Stands.cut {t : Token} {after : Bytes} (stands : t.Stands after) :
    cut (t.bytes ++ after) = t :: cut after := by
  obtain ⟨b, inside, whole, head⟩ := stands
  rw [whole, List.cons_append, Token.cut, head]

/-- The first token of a text stands before the rest of it. -/
theorem stands_of_cut {text : Bytes} {t : Token} {others : List Token}
    (tokens : Token.cut text = t :: others) :
    ∃ after, text = t.bytes ++ after ∧ t.Stands after ∧ Token.cut after = others := by
  cases text with
  | nil => simp [Token.cut] at tokens
  | cons b rest =>
    rw [Token.cut] at tokens
    obtain ⟨rfl, rfl⟩ := List.cons.inj tokens
    refine ⟨(first b rest).2, (first_append b rest).symm, ?_, rfl⟩
    have whole := first_append b rest
    cases some : (first b rest).1.bytes with
    | nil => exact (bytes_ne_nil_first b rest some).elim
    | cons c inside =>
      rw [some, List.cons_append] at whole
      obtain ⟨rfl, same⟩ := List.cons.inj whole
      exact ⟨c, inside, some, by rw [same]⟩

theorem splitQuoted_cons_ne_nil (escapes : Bool) (quote b : UInt8) (rest : Bytes) :
    (splitQuoted escapes quote (b :: rest)).1 ≠ [] := by
  cases rest with
  | nil => simp [splitQuoted]
  | cons c rest =>
    simp only [splitQuoted]
    split_ifs <;> simp

private theorem splitComment_cons_ne_nil (b : UInt8) (rest : Bytes) :
    (splitComment (b :: rest)).1 ≠ [] := by
  cases rest with
  | nil => simp [splitComment]
  | cons c rest =>
    simp only [splitComment]
    split_ifs <;> simp

/-- A string that ends before other bytes ends with its quote, and the quote does not follow. -/
theorem splitQuoted_ends (escapes : Bool) (quote : UInt8) (text : Bytes)
    (more : (splitQuoted escapes quote text).2 ≠ []) :
    (splitQuoted escapes quote text).1.getLast? = some quote ∧
      (splitQuoted escapes quote text).2.head? ≠ some quote := by
  fun_induction splitQuoted escapes quote text with
  | case1 => simp at more
  | case2 b => simp at more
  | case3 b c rest hidden inside after split ih =>
    rw [split] at ih
    obtain ⟨last, next⟩ := ih more
    exact ⟨by simp [List.getLast?_cons, last], next⟩
  | case4 b c rest hidden closing =>
    have same : b = quote := by simpa using closing
    refine ⟨by simp [same], ?_⟩
    intro next
    simp_all
  | case5 b c rest hidden closing inside after split ih =>
    rw [split] at ih
    obtain ⟨last, next⟩ := ih more
    exact ⟨by simp [List.getLast?_cons, last], next⟩

/-- A string ends where it ended before any text that does not start with its quote. -/
theorem splitQuoted_exchange (escapes : Bool) (quote : UInt8) (text : Bytes)
    (more : (splitQuoted escapes quote text).2 ≠ []) {new : Bytes} (harmless : new.head? ≠ some quote) :
    splitQuoted escapes quote ((splitQuoted escapes quote text).1 ++ new) =
      ((splitQuoted escapes quote text).1, new) := by
  fun_induction splitQuoted escapes quote text with
  | case1 => simp at more
  | case2 b => simp at more
  | case3 b c rest hidden inside after split ih =>
    rw [split] at ih
    simp only [List.cons_append, splitQuoted, hidden, ↓reduceIte, ih more]
  | case4 b c rest hidden closing =>
    cases new with
    | nil => rfl
    | cons d new =>
      have other : (d == quote) = false := by simpa using harmless
      have loud : (escapes && b == 0x5C) = false := by
        simp only [Bool.or_eq_true, not_or, Bool.not_eq_true] at hidden
        exact hidden.1
      simp only [List.cons_append, List.nil_append, splitQuoted, loud, other, closing, Bool.and_false,
        Bool.or_false, Bool.false_eq_true, ↓reduceIte]
  | case5 b c rest hidden closing inside after split ih =>
    have whole := splitQuoted_append escapes quote (c :: rest)
    rw [split] at ih whole
    cases inside with
    | nil => exact (splitQuoted_cons_ne_nil escapes quote c rest (congrArg Prod.fst split)).elim
    | cons d inside =>
      obtain ⟨rfl, _⟩ := List.cons.inj whole
      have tail := ih more
      simp only [List.cons_append] at tail ⊢
      rw [splitQuoted, if_neg hidden, if_neg closing, tail]

theorem splitLine_exchange (text : Bytes) (more : (splitLine text).2 ≠ []) (new : Bytes) :
    splitLine ((splitLine text).1 ++ new) = ((splitLine text).1, new) := by
  fun_induction splitLine text with
  | case1 => simp at more
  | case2 b rest ended => simp [splitLine, ended]
  | case3 b rest ended inside after split ih =>
    rw [split] at ih
    simp only [List.cons_append, splitLine, ended, Bool.false_eq_true, ↓reduceIte, ih more]

theorem splitComment_exchange (text : Bytes) (more : (splitComment text).2 ≠ []) (new : Bytes) :
    splitComment ((splitComment text).1 ++ new) = ((splitComment text).1, new) := by
  fun_induction splitComment text with
  | case1 => simp at more
  | case2 b => simp at more
  | case3 b c rest ended => simp [splitComment, ended]
  | case4 b c rest ended inside after split ih =>
    have whole := splitComment_append (c :: rest)
    rw [split] at ih whole
    cases inside with
    | nil => exact (splitComment_cons_ne_nil c rest (congrArg Prod.fst split)).elim
    | cons d inside =>
      obtain ⟨rfl, _⟩ := List.cons.inj whole
      have tail := ih more
      simp only [List.cons_append] at tail ⊢
      rw [splitComment, if_neg ended, tail]

/-- Another text behind a token in the place of an old one. -/
structure Exchange (t : Token) (old new : Bytes) : Prop where
  nil : new = [] ↔ old = []
  /-- It starts like the old text, or like a literal behind bytes that it does not join. -/
  head : ∀ b, new.head? = some b →
    old.head? = some b ∨ startsLiteral b = true ∧ ∀ c, t.bytes.getLast? = some c → joins c = false
  dash : marksDash new = true → marksDash old = true

namespace Exchange

variable {t : Token} {old new : Bytes}

/-- What a literal does not start with either is no first byte of the new text. -/
theorem head_ne (exchange : t.Exchange old new) {b : UInt8} (other : startsLiteral b = false)
    (absent : old.head? ≠ some b) : new.head? ≠ some b := by
  intro present
  rcases exchange.head b present with same | ⟨starts, _⟩
  · exact absent same
  · simp [other] at starts

/-- Behind a byte that joins a literal the new text starts like the old one. -/
theorem head_eq (exchange : t.Exchange old new) {c : UInt8} (last : t.bytes.getLast? = some c)
    (joining : joins c = true) : new.head? = old.head? := by
  cases starts : new.head? with
  | none => simp [exchange.nil.mp (List.head?_eq_none_iff.mp starts)]
  | some b =>
    rcases exchange.head b starts with same | ⟨_, loose⟩
    · exact same.symm
    · simp [loose c last] at joining

end Exchange

private theorem takeWhile_exchange {p : UInt8 → Bool} {inside new : Bytes}
    (all : ∀ b ∈ inside, p b = true) (ends : ∀ b, new.head? = some b → p b = false) :
    (inside ++ new).takeWhile p = inside ∧ (inside ++ new).dropWhile p = new := by
  rw [List.takeWhile_append_of_pos all, List.dropWhile_append_of_pos all]
  cases new with
  | nil => simp
  | cons b new => simp [ends b rfl]

/-- What has been split off a text is split off again before a text that it may be exchanged for. -/
private theorem split_exchange {split : Bytes → Bytes × Bytes} {text inside old new : Bytes}
    (cut : split text = (inside, old)) (whole : (split text).1 ++ (split text).2 = text)
    (nil : new = [] ↔ old = [])
    (again : (split text).2 ≠ [] → split ((split text).1 ++ new) = ((split text).1, new)) :
    split (inside ++ new) = (inside, new) := by
  rw [cut] at whole again
  by_cases empty : old = []
  · rw [nil.mpr empty, ← empty, whole, cut]
  · exact again empty

private theorem quoted_exchange {t : Token} {escapes : Bool} {quote : UInt8} (before : Bytes)
    {text inside old new : Bytes} (e : t.Exchange old new) (quotes : isQuote quote = true)
    (bytes : t.bytes = before ++ inside) (split : splitQuoted escapes quote text = (inside, old)) :
    splitQuoted escapes quote (inside ++ new) = (inside, new) := by
  apply split_exchange split (splitQuoted_append escapes quote text) e.nil
  intro more
  obtain ⟨last, next⟩ := splitQuoted_ends escapes quote text more
  apply splitQuoted_exchange escapes quote text more
  rw [split] at last next
  rwa [e.head_eq (c := quote) (by simp [bytes, List.getLast?_append, last]) (by simp [joins, quotes])]

private theorem line_exchange {t : Token} {text inside old new : Bytes} (e : t.Exchange old new)
    (split : splitLine text = (inside, old)) : splitLine (inside ++ new) = (inside, new) := by
  apply split_exchange split (splitLine_append text) e.nil
  intro more
  exact splitLine_exchange text more new

private theorem comment_exchange {t : Token} {text inside old new : Bytes} (e : t.Exchange old new)
    (split : splitComment text = (inside, old)) : splitComment (inside ++ new) = (inside, new) := by
  apply split_exchange split (splitComment_append text) e.nil
  intro more
  exact splitComment_exchange text more new

private theorem afterDash_exchange {t : Token} {inside old new : Bytes} (e : t.Exchange old new)
    (bytes : t.bytes = 0x2D :: inside) (head : afterDash (inside ++ old) = (t, old)) :
    afterDash (inside ++ new) = (t, new) := by
  generalize same : inside ++ old = text at head
  cases text with
  | nil =>
    obtain ⟨rfl, rfl⟩ := List.append_eq_nil_iff.mp same
    rw [e.nil.mpr rfl]
    exact head
  | cons b rest =>
    simp only [afterDash] at head
    split_ifs at head with mark
    · obtain ⟨rfl, rfl⟩ := Prod.mk.inj head
      obtain ⟨_, rfl⟩ := List.cons.inj bytes
      have ends : endsDashes ((splitLine rest).1 ++ new) = true := by
        have ends : endsDashes rest = true := (Bool.and_eq_true_iff.mp mark).2
        have whole := splitLine_append rest
        cases split : (splitLine rest).1 with
        | nil =>
          cases rest with
          | nil =>
            have closed : new = [] := e.nil.mpr rfl
            simp [closed, endsDashes]
          | cons c rest =>
            unfold splitLine at split
            split_ifs at split
        | cons c inside =>
          rw [split, List.cons_append] at whole
          rw [← whole] at ends
          exact ends
      simp only [List.cons_append, afterDash, (Bool.and_eq_true_iff.mp mark).1, ends, Bool.and_self,
        ↓reduceIte, line_exchange e rfl]
    · obtain ⟨rfl, rfl⟩ := Prod.mk.inj head
      obtain ⟨_, rfl⟩ := List.cons.inj bytes
      cases new with
      | nil => rfl
      | cons c new =>
        have single : marksDash (c :: new) ≠ true := by
          intro marks
          exact mark (e.dash marks)
        exact if_neg single

private theorem afterSlash_exchange {t : Token} {inside old new : Bytes} (e : t.Exchange old new)
    (bytes : t.bytes = 0x2F :: inside) (head : afterSlash (inside ++ old) = (t, old)) :
    afterSlash (inside ++ new) = (t, new) := by
  generalize same : inside ++ old = text at head
  cases text with
  | nil =>
    obtain ⟨rfl, rfl⟩ := List.append_eq_nil_iff.mp same
    rw [e.nil.mpr rfl]
    exact head
  | cons b rest =>
    simp only [afterSlash] at head
    split_ifs at head with mark
    · obtain ⟨rfl, rfl⟩ := Prod.mk.inj head
      obtain ⟨_, rfl⟩ := List.cons.inj bytes
      simp only [List.cons_append, afterSlash, mark, ↓reduceIte, comment_exchange e rfl]
    · obtain ⟨rfl, rfl⟩ := Prod.mk.inj head
      obtain ⟨_, rfl⟩ := List.cons.inj bytes
      cases new with
      | nil => rfl
      | cons c new =>
        have other : (c :: new).head? ≠ some 0x2A :=
          e.head_ne (by decide) (by simpa using mark)
        have single : ¬ (c == 0x2A) = true := by simpa using other
        exact if_neg single

private theorem names_exchange {t : Token} (before : Bytes) {text new : Bytes}
    (e : t.Exchange (text.dropWhile isNameByte) new)
    (bytes : t.bytes = before ++ text.takeWhile isNameByte)
    (last : ∀ b, before.getLast? = some b → joins b = true) (some : before ≠ []) :
    (text.takeWhile isNameByte ++ new).takeWhile isNameByte = text.takeWhile isNameByte ∧
      (text.takeWhile isNameByte ++ new).dropWhile isNameByte = new := by
  have all : ∀ b ∈ text.takeWhile isNameByte, isNameByte b = true :=
    List.all_eq_true.mp List.all_takeWhile
  apply takeWhile_exchange all
  intro b starts
  have joining : ∃ c, t.bytes.getLast? = .some c ∧ joins c = true := by
    rw [bytes, List.getLast?_append]
    cases ends : (text.takeWhile isNameByte).getLast? with
    | none =>
      obtain ⟨c, ends⟩ := Option.ne_none_iff_exists'.mp (mt List.getLast?_eq_none_iff.mp some)
      exact ⟨c, by simp [ends], last c ends⟩
    | some c => exact ⟨c, rfl, by simp [joins, all c (List.mem_of_getLast? ends)]⟩
  obtain ⟨c, ends, joining⟩ := joining
  rw [e.head_eq ends joining] at starts
  have stops := List.head?_dropWhile_not isNameByte text
  rw [starts] at stops
  exact stops

private theorem afterAt_exchange {t : Token} {inside old new : Bytes} (e : t.Exchange old new)
    (bytes : t.bytes = 0x40 :: inside) (head : afterAt (inside ++ old) = (t, old)) :
    afterAt (inside ++ new) = (t, new) := by
  generalize same : inside ++ old = text at head
  cases text with
  | nil =>
    obtain ⟨rfl, rfl⟩ := List.append_eq_nil_iff.mp same
    rw [e.nil.mpr rfl]
    exact head
  | cons b rest =>
    simp only [afterAt] at head
    split_ifs at head with system quotes name
    · obtain ⟨rfl, rfl⟩ := Prod.mk.inj head
      obtain ⟨_, rfl⟩ := List.cons.inj bytes
      have again := names_exchange [0x40, b] e rfl (by simp_all [joins]) (by simp)
      simp only [List.cons_append, afterAt, system, ↓reduceIte, again]
    · obtain ⟨rfl, rfl⟩ := Prod.mk.inj head
      obtain ⟨_, rfl⟩ := List.cons.inj bytes
      have again := quoted_exchange [0x40, b] e quotes rfl rfl
      simp only [List.cons_append, afterAt, system, quotes, Bool.false_eq_true, ↓reduceIte, again]
    · obtain ⟨rfl, rfl⟩ := Prod.mk.inj head
      obtain ⟨_, rfl⟩ := List.cons.inj bytes
      have again := names_exchange [0x40, b] e rfl (by simp_all [joins]) (by simp)
      simp only [List.cons_append, afterAt, system, quotes, name, Bool.false_eq_true, ↓reduceIte, again]
    · obtain ⟨rfl, rfl⟩ := Prod.mk.inj head
      obtain ⟨_, rfl⟩ := List.cons.inj bytes
      have starts : new.head? = some b := e.head_eq (c := 0x40) rfl (by decide)
      cases new with
      | nil => cases starts
      | cons c new =>
        obtain rfl := Option.some.inj starts
        simp only [List.nil_append, afterAt, system, quotes, name, Bool.false_eq_true, ↓reduceIte]

/-- A token that is the first one before a text is the first one before an exchanged one. -/
theorem Stands.exchange {t : Token} {old new : Bytes} (stands : t.Stands old)
    (e : t.Exchange old new) : t.Stands new := by
  obtain ⟨b, inside, whole, head⟩ := stands
  refine ⟨b, inside, whole, ?_⟩
  unfold first at head ⊢
  split_ifs at head ⊢ with quotes line dash slash mark sign
  · generalize same : inside ++ old = text at head
    obtain ⟨rfl, rfl⟩ := Prod.mk.inj head
    obtain ⟨_, rfl⟩ := List.cons.inj whole
    rw [quoted_exchange [b] e quotes rfl rfl]
  · generalize same : inside ++ old = text at head
    obtain ⟨rfl, rfl⟩ := Prod.mk.inj head
    obtain ⟨_, rfl⟩ := List.cons.inj whole
    rw [line_exchange e rfl]
  · obtain rfl : b = 0x2D := by simpa using dash
    exact afterDash_exchange e whole head
  · obtain rfl : b = 0x2F := by simpa using slash
    exact afterSlash_exchange e whole head
  · obtain ⟨rfl, _⟩ := Prod.mk.inj head
    obtain ⟨_, rfl⟩ := List.cons.inj whole
    rfl
  · obtain rfl : b = 0x40 := by simpa using sign
    exact afterAt_exchange e whole head
  · obtain ⟨rfl, _⟩ := Prod.mk.inj head
    obtain ⟨_, rfl⟩ := List.cons.inj whole
    rfl

/-- A name has its at sign in front. -/
theorem head?_of_first {b : UInt8} {rest name : Bytes} (head : (first b rest).1 = named name) :
    name.head? = some 0x40 := by
  unfold first at head
  split_ifs at head
  · unfold afterDash at head
    split at head
    · cases head
    · split_ifs at head
  · unfold afterSlash at head
    split at head
    · cases head
    · split_ifs at head
  · unfold afterAt at head
    split at head
    · cases head
    · split_ifs at head
      obtain rfl := named.inj head
      rfl

theorem head?_of_mem_cut {text : Bytes} {t : Token} (member : t ∈ cut text) :
    t.bytes ≠ [] ∧ ∀ name, t = named name → name.head? = some 0x40 := by
  fun_induction cut text with
  | case1 => simp at member
  | case2 b rest ih =>
    rcases List.mem_cons.mp member with rfl | member
    · refine ⟨bytes_ne_nil_first b rest, ?_⟩
      intro name head
      exact head?_of_first head
    · exact ih member

end Token

end SqlWire
