import SqlWire.Proofs.Statement.Filling

/-! # A server that takes no backslash for an escape

A server can be set to read a backslash in a string as a backslash. The scanner of placeholders does
not know of this: it always takes the quote behind a backslash for a part of the string. Here the
tokens are cut as such a server delimits them, and the two cuts are compared.

`Token.cut_eq_cutPlain_iff` says when they are the same: unless a string has a backslash that hides
one of its own quotes, with something else than quotes behind it. `fillings_plain` draws the
conclusion for the placeholders that are filled, and `fillings_misread` shows a value that is
written into a string of the server.
-/

namespace SqlWire

namespace Token

/-- A text that starts with a string or with a quoted variable: what stands before the inside of the
string, the quote, and what follows it. -/
def opensString? : Bytes → Option (Bytes × UInt8 × Bytes)
  | [] => none
  | [b] => if isStringQuote b then some ([b], b, []) else none
  | b :: c :: rest =>
    if isStringQuote b then some ([b], b, c :: rest)
    else if b == 0x40 && isStringQuote c then some ([b, c], c, rest)
    else none

/-- The first token as a server delimits it that takes no backslash for an escape. -/
def firstPlain (b : UInt8) (rest : Bytes) : Token × Bytes :=
  match opensString? (b :: rest) with
  | some (opening, quote, text) =>
    (plain (opening ++ (splitQuoted false quote text).1), (splitQuoted false quote text).2)
  | none => first b rest

/-- What opens a string, and what follows, are the text. -/
theorem opensString?_append {text opening inside : Bytes} {quote : UInt8}
    (opens : opensString? text = some (opening, quote, inside)) :
    opening ++ inside = text ∧ opening ≠ [] ∧ isStringQuote quote = true := by
  unfold opensString? at opens
  split at opens
  · cases opens
  · split_ifs at opens with string
    obtain ⟨rfl, rfl, rfl⟩ := by simpa using opens
    exact ⟨rfl, by simp, string⟩
  · split_ifs at opens with string named
    · obtain ⟨rfl, rfl, rfl⟩ := by simpa using opens
      exact ⟨rfl, by simp, string⟩
    · obtain ⟨rfl, rfl, rfl⟩ := by simpa using opens
      exact ⟨rfl, by simp, (Bool.and_eq_true_iff.mp named).2⟩

theorem firstPlain_append (b : UInt8) (rest : Bytes) :
    (firstPlain b rest).1.bytes ++ (firstPlain b rest).2 = b :: rest := by
  unfold firstPlain
  split
  · next opening quote text opens =>
    rw [← (opensString?_append opens).1, bytes, List.append_assoc, splitQuoted_append]
  · exact first_append b rest

theorem bytes_ne_nil_firstPlain (b : UInt8) (rest : Bytes) : (firstPlain b rest).1.bytes ≠ [] := by
  unfold firstPlain
  split
  · next opening quote text opens => simp [bytes, (opensString?_append opens).2.1]
  · exact bytes_ne_nil_first b rest

theorem firstPlain_length (b : UInt8) (rest : Bytes) :
    (firstPlain b rest).2.length ≤ rest.length := by
  have whole := congrArg List.length (firstPlain_append b rest)
  have some := List.length_pos_iff.mpr (bytes_ne_nil_firstPlain b rest)
  simp only [List.length_append, List.length_cons] at whole
  omega

/-- A text cut into tokens as a server delimits them that takes no backslash for an escape. -/
def cutPlain : Bytes → List Token
  | [] => []
  | b :: rest => (firstPlain b rest).1 :: cutPlain (firstPlain b rest).2
termination_by text => text.length
decreasing_by exact Nat.lt_succ_of_le (firstPlain_length b rest)

/-- Whether a backslash in a string hides a quote of the string, with something else than quotes
behind it. The string starts with its inside. -/
def hidesQuote (quote : UInt8) : Bytes → Bool
  | [] => false
  | [_] => false
  | b :: c :: rest =>
    if b == 0x5C then
      if c == quote then !rest.all (· == quote) else hidesQuote quote rest
    else if b == quote then c == quote && hidesQuote quote rest
    else hidesQuote quote (c :: rest)

/-- Whether a string of a text has a hidden quote, as a server delimits it that takes no backslash
for an escape. -/
def isMisread : Bytes → Bool
  | [] => false
  | b :: rest =>
    (opensString? (b :: rest)).any (fun (_, quote, text) => hidesQuote quote text) ||
      isMisread (firstPlain b rest).2
termination_by text => text.length
decreasing_by exact Nat.lt_succ_of_le (firstPlain_length b rest)

/-- The first token of a text that starts with a string. -/
theorem first_of_opensString? {b quote : UInt8} {rest opening text : Bytes}
    (opens : opensString? (b :: rest) = some (opening, quote, text)) :
    first b rest =
      (plain (opening ++ (splitQuoted true quote text).1), (splitQuoted true quote text).2) := by
  cases rest with
  | nil =>
    simp only [opensString?] at opens
    split_ifs at opens with string
    obtain ⟨rfl, rfl, rfl⟩ := by simpa using opens
    simp [first, isQuote, string]
  | cons c rest =>
    simp only [opensString?] at opens
    split_ifs at opens with string named
    · obtain ⟨rfl, rfl, rfl⟩ := by simpa using opens
      simp [first, isQuote, string]
    · obtain ⟨rfl, rfl, rfl⟩ := by simpa using opens
      obtain ⟨sign, quotes⟩ := Bool.and_eq_true_iff.mp named
      obtain rfl := eq_of_beq sign
      have other : c ≠ 0x40 := by
        rintro rfl
        exact absurd quotes (by decide)
      have sign : first 0x40 (c :: rest) = afterAt (c :: rest) := rfl
      simp [sign, afterAt, other, isQuote, quotes]

/-- A run of quotes at the end of a text is a part of the string, or its end. -/
private theorem splitQuoted_quotes (escapes : Bool) {quote : UInt8} (solid : quote ≠ 0x5C) :
    ∀ {text : Bytes}, text.all (· == quote) = true → splitQuoted escapes quote text = (text, [])
  | [], _ => rfl
  | [b], _ => rfl
  | b :: c :: rest, all => by
    simp only [List.all_cons, Bool.and_eq_true, beq_iff_eq] at all
    obtain ⟨rfl, rfl, all⟩ := all
    simp [splitQuoted, splitQuoted_quotes escapes solid all]

private theorem splitQuoted_shorter (escapes : Bool) (quote b : UInt8) (rest : Bytes) :
    (splitQuoted escapes quote (b :: rest)).2 ≠ b :: rest := by
  intro same
  have whole := splitQuoted_append escapes quote (b :: rest)
  rw [same] at whole
  exact splitQuoted_cons_ne_nil escapes quote b rest (by simpa using whole)

/-- A string behind a quote that one reader counts and the other does not ends at different places,
if there is more than quotes. -/
private theorem splitQuoted_unsteady {quote : UInt8} (solid : quote ≠ 0x5C) :
    ∀ {text : Bytes}, text.all (· == quote) = false →
      (splitQuoted true quote text).2 ≠ (splitQuoted false quote (quote :: text)).2
  | [], more => by cases more
  | [b], more => by
    have other : b ≠ quote := by simpa using more
    simp [splitQuoted, other]
  | b :: c :: rest, more => by
    by_cases same : b = quote
    · subst same
      by_cases double : c = b
      · subst double
        have more : rest.all (· == c) = false := by simpa using more
        have later := splitQuoted_unsteady solid more
        simpa [splitQuoted] using later
      · have shorter := splitQuoted_shorter false b c rest
        simpa [splitQuoted, double, solid] using shorter.symm
    · have shorter := splitQuoted_shorter true quote b (c :: rest)
      have closed : (splitQuoted false quote (quote :: b :: c :: rest)).2 = b :: c :: rest := by
        simp [splitQuoted, same]
      rwa [closed]

private theorem splitQuoted_cons {quote b : UInt8} (other : b ≠ quote) (rest : Bytes) :
    splitQuoted false quote (b :: rest) =
      (b :: (splitQuoted false quote rest).1, (splitQuoted false quote rest).2) := by
  cases rest with
  | nil => rfl
  | cons c rest => simp [splitQuoted, other]

/-- A string is read the same whether or not a backslash is an escape, unless a quote is hidden. -/
theorem splitQuoted_eq_iff {quote : UInt8} (solid : quote ≠ 0x5C) :
    ∀ text : Bytes, splitQuoted true quote text = splitQuoted false quote text ↔
      hidesQuote quote text = false
  | [] => by simp [splitQuoted, hidesQuote]
  | [b] => by simp [splitQuoted, hidesQuote]
  | b :: c :: rest => by
    by_cases slash : b = 0x5C
    · subst slash
      have first : splitQuoted true quote (0x5C :: c :: rest) =
          (0x5C :: c :: (splitQuoted true quote rest).1, (splitQuoted true quote rest).2) := by
        simp [splitQuoted]
      rw [first, splitQuoted_cons solid.symm]
      by_cases hidden : c = quote
      · subst hidden
        have hides : hidesQuote c (0x5C :: c :: rest) = !rest.all (· == c) := by simp [hidesQuote]
        rw [hides]
        cases all : rest.all (· == c) with
        | true =>
          have run : (c :: rest).all (· == c) = true := by simpa using all
          rw [splitQuoted_quotes true solid all, splitQuoted_quotes false solid run]
          simp
        | false =>
          have unsteady := splitQuoted_unsteady solid all
          simp [unsteady]
      · have hides : hidesQuote quote (0x5C :: c :: rest) = hidesQuote quote rest := by
          simp [hidesQuote, hidden]
        rw [hides, ← splitQuoted_eq_iff solid rest, splitQuoted_cons hidden]
        simp [Prod.ext_iff]
    · by_cases closing : b = quote
      · subst closing
        by_cases double : c = b
        · subst double
          have later := splitQuoted_eq_iff solid rest
          simp [splitQuoted, hidesQuote, slash, ← later, Prod.ext_iff]
        · simp [splitQuoted, hidesQuote, slash, double]
      · have later := splitQuoted_eq_iff solid (c :: rest)
        simp [splitQuoted, hidesQuote, slash, closing, ← later, Prod.ext_iff]

/-- The first token of a text is the same unless it is a string with a hidden quote. -/
theorem first_eq_firstPlain_iff (b : UInt8) (rest : Bytes) :
    first b rest = firstPlain b rest ↔
      (opensString? (b :: rest)).any (fun (_, quote, text) => hidesQuote quote text) = false := by
  cases opens : opensString? (b :: rest) with
  | none => simp [firstPlain, opens]
  | some parts =>
    obtain ⟨opening, quote, text⟩ := parts
    have solid : quote ≠ 0x5C := by
      rintro rfl
      exact absurd (opensString?_append opens).2.2 (by decide)
    rw [first_of_opensString? opens, Option.any_some, ← splitQuoted_eq_iff solid]
    simp [firstPlain, opens, Prod.ext_iff]

/-- The tokens of a text are those that the server delimits exactly if no string has a hidden
quote. -/
theorem cut_eq_cutPlain_iff (text : Bytes) : cut text = cutPlain text ↔ isMisread text = false := by
  fun_induction isMisread text with
  | case1 => simp [cut, cutPlain]
  | case2 b rest ih =>
    rw [Bool.or_eq_false_iff, ← first_eq_firstPlain_iff, ← ih, cut, cutPlain, List.cons.injEq]
    constructor
    · rintro ⟨head, others⟩
      have same : first b rest = firstPlain b rest := by
        refine Prod.ext head ?_
        have whole := first_append b rest
        rw [← firstPlain_append b rest, head] at whole
        exact List.append_cancel_left whole
      exact ⟨same, same ▸ others⟩
    · rintro ⟨same, others⟩
      exact ⟨congrArg Prod.fst same, by rw [same, others]⟩

end Token

/-- The placeholders of a statement for a server that takes no backslash for an escape: what looks
like a placeholder outside of strings and comments as that server delimits them. -/
def Placeholder.ofTextPlain (text : Bytes) : List Placeholder := ofTokens 0 (Token.cutPlain text)

namespace Binding

/-- For a server that takes no backslash for an escape: the literals and comments of a statement are
delimited as the server delimits them exactly if no string has a hidden quote, and then the
placeholders that are looked at, and filled, are those that the server would see. -/
theorem fillings_plain (users guids : Bool) (ps : Parameters) (sql : String) :
    (Token.cut (Utf8.encode sql) = Token.cutPlain (Utf8.encode sql) ↔
      Token.isMisread (Utf8.encode sql) = false) ∧
    (Token.isMisread (Utf8.encode sql) = false →
      (fillings ⟨users, guids, true⟩ ps sql).map Filling.place =
        Placeholder.ofTextPlain (Utf8.encode sql)) := by
  constructor
  · exact Token.cut_eq_cutPlain_iff _
  · intro clean
    rw [map_place_fillings, Placeholder.ofText, (Token.cut_eq_cutPlain_iff _).mpr clean]
    rfl

theorem fillings_plain_backslash :
    (fillings ⟨false, false, true⟩ [⟨"", .text "x", none, none⟩] "SELECT '\\n', ?").map Filling.place =
      Placeholder.ofTextPlain (Utf8.encode "SELECT '\\n', ?") :=
  (fillings_plain false false [⟨"", .text "x", none, none⟩] "SELECT '\\n', ?").2 (by decide +kernel)

/-- A value is written into a string of the server. -/
theorem fillings_misread :
    ∃ sql ps payload, Binding.payload ⟨false, false, true⟩ ps sql = .ok payload ∧
      ∃ f ∈ fillings ⟨false, false, true⟩ ps sql, f.literal ≠ none ∧
        f.place ∉ Placeholder.ofTextPlain (Utf8.encode sql) := by
  refine ⟨"SELECT '\\' , '?'", [⟨"", .text "x", none, none⟩],
    Command.query.tag :: Utf8.encode "SELECT '\\' , ''x''", by decide +kernel,
    ⟨.positional 14, some (Utf8.encode "'x'")⟩, ?_⟩
  decide +kernel

end Binding

end SqlWire
