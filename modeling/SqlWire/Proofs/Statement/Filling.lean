import Mathlib.Data.List.Chain
import SqlWire.Proofs.Statement.OpaqueLiteral
import SqlWire.Statement.Binding

/-! # Filled statements

A statement is filled piece by piece: a piece is a token with the literal that stands in its place,
if one does. `Binding.fillings` are the placeholders of a statement with their literals, and
`Filling.kept` are those that stay, each as far behind its old place as the literals before it have
made the text longer.

`ofText_payload` scans a filled statement again. The scanner runs over the old and the new text side
by side: a token that stays is the first one before what follows it in the new text too, and a
literal is gone through without a placeholder. Both need that no literal stands next to a byte that
it could run together with.
-/

namespace SqlWire

/-- A token and the literal that stands in its place. -/
structure Piece where
  token : Token
  literal : Option Bytes
deriving Repr, DecidableEq

namespace Piece

def bytes (p : Piece) : Bytes := p.literal.getD p.token.bytes

/-- The bytes of some pieces before they were filled. -/
def before (pieces : List Piece) : Bytes := pieces.flatMap (·.token.bytes)

/-- The bytes of some pieces. -/
def after (pieces : List Piece) : Bytes := pieces.flatMap bytes

end Piece

/-- A placeholder and the literal that stands in its place; none if it stays. -/
structure Filling where
  place : Placeholder
  literal : Option Bytes
deriving Repr, DecidableEq

namespace Placeholder

/-- A placeholder some bytes further behind. -/
def shifted (shift : Int) : Placeholder → Placeholder
  | named start length => named (start + shift).toNat length
  | positional start => positional (start + shift).toNat

/-- Whether the bytes next to a placeholder do not run together with a literal. -/
def IsIsolated (text : Bytes) (p : Placeholder) : Prop :=
  (∀ b ∈ (text.take p.start).getLast?, Token.joins b = false) ∧
    ∀ b ∈ (text.drop (p.start + p.length)).head?, Token.joins b = false

instance (text : Bytes) (p : Placeholder) : Decidable (p.IsIsolated text) :=
  inferInstanceAs (Decidable (_ ∧ _))

end Placeholder

namespace Filling

/-- The placeholders among pieces of which the first starts at an offset. -/
def ofPieces : Nat → List Piece → List Filling
  | _, [] => []
  | start, ⟨token, literal⟩ :: rest =>
    let others := ofPieces (start + token.bytes.length) rest
    match token with
    | .plain _ => others
    | .named text => ⟨.named start text.length, literal⟩ :: others
    | .positional => ⟨.positional start, literal⟩ :: others

/-- The placeholders that stay, behind literals that have made the text longer by some bytes. -/
def kept : Int → List Filling → List Placeholder
  | _, [] => []
  | shift, ⟨place, none⟩ :: rest => place.shifted shift :: kept shift rest
  | shift, ⟨place, some literal⟩ :: rest => kept (shift + literal.length - place.length) rest

end Filling

namespace Binding

/-- What becomes of tokens behind `count` question marks. -/
def pieces (options : BindingOptions) (ps : Parameters) : Nat → List Token → List Piece
  | _, [] => []
  | count, .plain text :: rest => ⟨.plain text, none⟩ :: pieces options ps count rest
  | count, .named text :: rest =>
    ⟨.named text, (ps.named? (Utf8.decodeLossy text)).bind fun p => (literal options p).toOption⟩ ::
      pieces options ps count rest
  | count, .positional :: rest =>
    ⟨.positional, ps[count]?.bind fun p => (literal options p).toOption⟩ ::
      pieces options ps (count + 1) rest

/-- The placeholders of a statement and what becomes of them. -/
def fillings (options : BindingOptions) (ps : Parameters) (sql : String) : List Filling :=
  Filling.ofPieces 0 (pieces options ps 0 (Token.cut (Utf8.encode sql)))

/-- The payload of a statement is its tag and its text with the placeholders filled. -/
theorem payload_eq_ok_iff {options : BindingOptions} {ps : Parameters} {sql : String}
    {payload : Bytes} : Binding.payload options ps sql = .ok payload ↔
      ∃ text, statement options ps sql = .ok text ∧ payload = Command.query.tag :: text := by
  unfold Binding.payload
  cases statement options ps sql with
  | error cause => simp [bind, Except.bind]
  | ok text => simp [bind, Except.bind, pure, Except.pure, eq_comm]

theorem map_token_pieces (options : BindingOptions) (ps : Parameters) (count : Nat)
    (ts : List Token) : (pieces options ps count ts).map Piece.token = ts := by
  fun_induction pieces options ps count ts <;> simp_all

theorem map_place_ofPieces (start : Nat) (pieces : List Piece) :
    (Filling.ofPieces start pieces).map Filling.place =
      Placeholder.ofTokens start (pieces.map Piece.token) := by
  induction pieces generalizing start with
  | nil => rfl
  | cons p rest ih =>
    obtain ⟨token, literal⟩ := p
    cases token <;> simp [Filling.ofPieces, Placeholder.ofTokens, ih]

/-- The fillings of a statement are at its placeholders. -/
theorem map_place_fillings (options : BindingOptions) (ps : Parameters) (sql : String) :
    (fillings options ps sql).map Filling.place = Placeholder.ofText (Utf8.encode sql) := by
  rw [fillings, map_place_ofPieces, map_token_pieces, Placeholder.ofText]

/-- What the literal of a filled piece is. -/
structure IsFilled (options : BindingOptions) (p : Piece) : Prop where
  literal : ∀ text, p.literal = some text → ∃ v, Literal.ofValue options.literals v = .ok text
  plain : ∀ text, p.token = .plain text → p.literal = none
  positional : p.token = .positional → p.literal ≠ none

theorem literal_eq_ok {options : BindingOptions} {p : Parameter} {text : Bytes}
    (made : literal options p = .ok text) : Literal.ofValue options.literals p.value = .ok text := by
  unfold literal at made
  cases written : Literal.ofValue options.literals p.value with
  | ok bytes =>
    rw [written] at made
    exact congrArg _ (Except.ok.inj made)
  | error cause => simp [written, Except.mapError] at made

private theorem named_eq_ok {options : BindingOptions} {ps : Parameters} {text filled : Bytes}
    (made : named options ps text = .ok filled) :
    let p : Piece := ⟨.named text,
      (ps.named? (Utf8.decodeLossy text)).bind fun p => (literal options p).toOption⟩
    filled = p.bytes ∧ IsFilled options p := by
  unfold named at made
  cases found : ps.named? (Utf8.decodeLossy text) with
  | some p =>
    simp only [found] at made
    refine ⟨by simp [Piece.bytes, made, Except.toOption], ?_, by simp, by simp⟩
    simp only [made, Option.bind_some, Except.toOption, Option.some.injEq]
    rintro _ rfl
    exact ⟨p.value, literal_eq_ok made⟩
  | none =>
    simp only [found] at made
    split_ifs at made
    obtain rfl := Except.ok.inj made
    exact ⟨by simp [Piece.bytes, Token.bytes], by simp, by simp, by simp⟩

private theorem positional_eq_ok {options : BindingOptions} {ps : Parameters} {count : Nat}
    {filled : Bytes} (made : positional options ps count = .ok filled) :
    let p : Piece := ⟨.positional, ps[count]?.bind fun p => (literal options p).toOption⟩
    filled = p.bytes ∧ IsFilled options p := by
  unfold positional at made
  split at made
  · next p found =>
    refine ⟨by simp [Piece.bytes, found, made, Except.toOption], ?_, by simp, ?_⟩
    · simp only [found, made, Option.bind_some, Except.toOption, Option.some.injEq]
      rintro _ rfl
      exact ⟨p.value, literal_eq_ok made⟩
    · simp [found, made, Except.toOption]
  · cases made

private theorem cons_eq_ok (filled : Except ClientError Bytes)
    (others : Except ClientError (List Bytes)) {texts : List Bytes}
    (made : (do return (← filled) :: (← others)) = .ok texts) :
    ∃ first rest, filled = .ok first ∧ others = .ok rest ∧ texts = first :: rest := by
  cases filled with
  | error cause => cases made
  | ok first =>
    cases others with
    | error cause => cases made
    | ok rest => exact ⟨first, rest, rfl, rfl, (Except.ok.inj made).symm⟩

/-- Tokens that can be filled become the bytes of their pieces. -/
theorem tokens_eq_ok {options : BindingOptions} {ps : Parameters} {count : Nat} {ts : List Token}
    {texts : List Bytes} (made : tokens options ps count ts = .ok texts) :
    texts = (pieces options ps count ts).map Piece.bytes ∧
      ∀ p ∈ pieces options ps count ts, IsFilled options p := by
  induction ts generalizing count texts with
  | nil =>
    obtain rfl := Except.ok.inj made
    exact ⟨rfl, by simp [pieces]⟩
  | cons token rest ih =>
    cases token with
    | plain text =>
      obtain ⟨first, others, same, filled, rfl⟩ := cons_eq_ok (.ok text) _ made
      obtain rfl := Except.ok.inj same
      obtain ⟨rfl, sound⟩ := ih filled
      refine ⟨rfl, List.forall_mem_cons.mpr ⟨⟨by simp, by simp, by simp⟩, sound⟩⟩
    | named text =>
      obtain ⟨first, others, here, filled, rfl⟩ := cons_eq_ok _ _ made
      obtain ⟨rfl, sound⟩ := ih filled
      obtain ⟨rfl, fits⟩ := named_eq_ok here
      exact ⟨rfl, List.forall_mem_cons.mpr ⟨fits, sound⟩⟩
    | positional =>
      obtain ⟨first, others, here, filled, rfl⟩ := cons_eq_ok _ _ made
      obtain ⟨rfl, sound⟩ := ih filled
      obtain ⟨rfl, fits⟩ := positional_eq_ok here
      exact ⟨rfl, List.forall_mem_cons.mpr ⟨fits, sound⟩⟩

end Binding

namespace Piece

/-- What scanning needs to know of a piece. -/
structure IsSound (p : Piece) : Prop where
  some : p.token.bytes ≠ []
  literal : ∀ text, p.literal = .some text →
    Literal.IsOpaque text ∧ ∃ b, p.token.bytes.head? = .some b ∧ Token.joins b = true
  plain : ∀ text, p.token = .plain text → p.literal = none
  positional : p.token = .positional → p.literal ≠ none

theorem isSound_of_isFilled {options : BindingOptions} (escaping : options.noBackslashEscapes = false)
    {p : Piece} {text : Bytes} (member : p.token ∈ Token.cut text)
    (filled : Binding.IsFilled options p) : p.IsSound := by
  obtain ⟨some, head⟩ := Token.head?_of_mem_cut member
  refine ⟨some, ?_, filled.plain, filled.positional⟩
  intro literal written
  obtain ⟨v, value⟩ := filled.literal literal written
  refine ⟨Literal.isOpaque_ofValue escaping value, ?_⟩
  cases token : p.token with
  | plain text => simp [filled.plain text token] at written
  | named name => exact ⟨0x40, by simpa [Token.bytes] using head name token, by decide⟩
  | positional => exact ⟨0x3F, rfl, by decide⟩

/-- Whether no literal touches the other piece of two with a byte that it joins. -/
def Apart (p q : Piece) : Prop :=
  (q.literal ≠ none → ∀ b, p.token.bytes.getLast? = some b → Token.joins b = false) ∧
    (p.literal ≠ none → ∀ b, q.token.bytes.head? = some b → Token.joins b = false)

theorem before_cons (p : Piece) (rest : List Piece) :
    before (p :: rest) = p.token.bytes ++ before rest := List.flatMap_cons

theorem after_cons (p : Piece) (rest : List Piece) : after (p :: rest) = p.bytes ++ after rest :=
  List.flatMap_cons

/-- A filled text starts like the old one, or with a literal. -/
theorem head?_after {pieces : List Piece} (sound : ∀ p ∈ pieces, p.IsSound) :
    (after pieces = [] ↔ before pieces = []) ∧
      ∀ b, (after pieces).head? = some b → (before pieces).head? = some b ∨
        Token.startsLiteral b = true ∧ ∃ p rest, pieces = p :: rest ∧ p.literal ≠ none := by
  cases pieces with
  | nil => simp [after, before]
  | cons p rest =>
    have here := sound p (by simp)
    rw [after_cons, before_cons]
    cases written : p.literal with
    | none =>
      obtain ⟨b, inside, some⟩ := List.exists_cons_of_ne_nil here.some
      simp [bytes, written, some]
    | some text =>
      obtain ⟨b, inside, rfl, starts⟩ := (here.literal text written).1.starts
      constructor
      · simp [bytes, written, here.some]
      · intro c head
        obtain rfl : b = c := by simpa [bytes, written] using head
        exact .inr ⟨starts, p, rest, rfl, by simp [written]⟩

/-- A filled text makes no comment mark of a dash that was none. -/
theorem marksDash_after {pieces : List Piece} (sound : ∀ p ∈ pieces, p.IsSound)
    (marks : Token.marksDash (after pieces) = true) : Token.marksDash (before pieces) = true := by
  cases pieces with
  | nil => exact marks
  | cons p rest =>
    obtain ⟨here, others⟩ := List.forall_mem_cons.mp sound
    rw [after_cons] at marks
    rw [before_cons]
    cases written : p.literal with
    | none =>
      obtain ⟨b, inside, some⟩ := List.exists_cons_of_ne_nil here.some
      simp only [bytes, written, Option.getD_none, some, List.cons_append, Token.marksDash,
        Bool.and_eq_true] at marks ⊢
      refine ⟨marks.1, ?_⟩
      cases inside with
      | cons c inside => exact marks.2
      | nil =>
        obtain ⟨empty, head⟩ := head?_after others
        have gap : Token.endsDashes (after rest) = true := marks.2
        cases new : after rest with
        | nil => simp [empty.mp new, Token.endsDashes]
        | cons c text =>
          rw [new] at gap head
          rcases head c rfl with same | ⟨starts, _⟩
          · obtain ⟨others, old⟩ := List.head?_eq_some_iff.mp same
            rw [old]
            exact gap
          · simp [Token.endsDashes, Token.isGap_of_startsLiteral starts] at gap
    | some text =>
      simp [bytes, written, (here.literal text written).1.calm] at marks

/-- What follows a token that stays may be exchanged for its filled form. -/
theorem exchange_after {p : Piece} {rest : List Piece} (apart : (p :: rest).IsChain Apart)
    (sound : ∀ q ∈ rest, q.IsSound) : p.token.Exchange (before rest) (after rest) where
  nil := (head?_after sound).1
  head b head := by
    rcases (head?_after sound).2 b head with same | ⟨starts, q, others, rfl, filled⟩
    · exact .inl same
    · exact .inr ⟨starts, (List.isChain_cons_cons.mp apart).1.1 filled⟩
  dash := marksDash_after sound

/-- Behind a literal no quote follows. -/
theorem head?_after_ne {p : Piece} {rest : List Piece} (apart : (p :: rest).IsChain Apart)
    (filled : p.literal ≠ none) (sound : ∀ q ∈ rest, q.IsSound) :
    (after rest).head? ≠ some Literal.quote := by
  cases rest with
  | nil => simp [after]
  | cons q others =>
    have here := sound q (by simp)
    have loose := (List.isChain_cons_cons.mp apart).1.2 filled
    obtain ⟨b, inside, some⟩ := List.exists_cons_of_ne_nil here.some
    cases written : q.literal with
    | none =>
      rw [after_cons]
      intro head
      have quote : b = Literal.quote := by simpa [bytes, written, some] using head
      have joins := loose b (by simp [some])
      rw [quote] at joins
      exact absurd joins (by decide)
    | some text =>
      obtain ⟨_, c, head, joins⟩ := here.literal text written
      simp [loose c head] at joins

end Piece

open Piece in
/-- Scanning filled pieces again finds the placeholders that stay. -/
theorem ofTokens_cut_after {pieces : List Piece} {old new : Nat} {shift : Int}
    (tokens : Token.cut (before pieces) = pieces.map Piece.token)
    (sound : ∀ p ∈ pieces, p.IsSound) (apart : pieces.IsChain Apart) (moved : new = old + shift) :
    Placeholder.ofTokens new (Token.cut (after pieces)) =
      Filling.kept shift (Filling.ofPieces old pieces) := by
  induction pieces generalizing old new shift with
  | nil => simp [after, Token.cut, Placeholder.ofTokens, Filling.ofPieces, Filling.kept]
  | cons p rest ih =>
    obtain ⟨here, others⟩ := List.forall_mem_cons.mp sound
    rw [List.map_cons] at tokens
    obtain ⟨text, whole, stands, scanned⟩ := Token.stands_of_cut tokens
    obtain rfl : before rest = text := by
      rw [before_cons] at whole
      exact List.append_cancel_left whole
    have later := fun {old new : Nat} {shift : Int} (moved : (new : Int) = old + shift) =>
      ih scanned others apart.of_cons moved
    rw [after_cons]
    obtain ⟨token, literal⟩ := p
    cases literal with
    | none =>
      have head := (stands.exchange (exchange_after apart others)).cut
      simp only [bytes, Option.getD_none, head]
      cases token with
      | plain text => exact later (by omega)
      | named text =>
        simp only [Placeholder.ofTokens, Filling.ofPieces, Filling.kept, Placeholder.shifted]
        rw [← moved, Int.toNat_natCast]
        exact congrArg _ (later (by omega))
      | positional => exact (here.positional rfl rfl).elim
    | some text =>
      obtain ⟨literal, _⟩ := here.literal text rfl
      have loose := head?_after_ne apart (by simp) others
      simp only [bytes, Option.getD_some]
      rw [literal.hidden new (after rest) loose]
      cases token with
      | plain text => cases here.plain text rfl
      | named name =>
        simp only [Filling.ofPieces, Filling.kept, Placeholder.length]
        exact later (by simp only [Token.bytes]; omega)
      | positional =>
        simp only [Filling.ofPieces, Filling.kept, Placeholder.length]
        exact later (by simp only [Token.bytes, List.length_cons, List.length_nil]; omega)

namespace Filling

theorem mem_ofPieces_head {p : Piece} (sound : p.IsSound) (filled : p.literal ≠ none) (start : Nat)
    (rest : List Piece) : ∃ f ∈ ofPieces start (p :: rest), f.literal ≠ none ∧
      f.place.start = start ∧ f.place.length = p.token.bytes.length := by
  obtain ⟨token, literal⟩ := p
  cases token with
  | plain text => exact (filled (sound.plain text rfl)).elim
  | named text => exact ⟨_, List.mem_cons_self, filled, rfl, rfl⟩
  | positional => exact ⟨_, List.mem_cons_self, filled, rfl, rfl⟩

theorem mem_ofPieces_tail {p : Piece} {start : Nat} {rest : List Piece} {f : Filling}
    (member : f ∈ ofPieces (start + p.token.bytes.length) rest) : f ∈ ofPieces start (p :: rest) := by
  obtain ⟨token, literal⟩ := p
  cases token with
  | plain text => exact member
  | named text => exact List.mem_cons_of_mem _ member
  | positional => exact List.mem_cons_of_mem _ member

open Piece in
/-- The literals of a text touch nothing if their placeholders did not. -/
theorem isChain_of_isIsolated {pieces : List Piece} {text : Bytes} (front : Bytes)
    (whole : text = front ++ before pieces) (sound : ∀ p ∈ pieces, p.IsSound)
    (isolated : ∀ f ∈ ofPieces front.length pieces, f.literal ≠ none → f.place.IsIsolated text) :
    pieces.IsChain Apart := by
  induction pieces generalizing front with
  | nil => exact .nil
  | cons p rest ih =>
    obtain ⟨here, others⟩ := List.forall_mem_cons.mp sound
    have behind : text = (front ++ p.token.bytes) ++ before rest := by
      rw [whole, before_cons, List.append_assoc]
    have later : ∀ f ∈ ofPieces (front ++ p.token.bytes).length rest, f.literal ≠ none →
        f.place.IsIsolated text := by
      intro f member
      apply isolated f
      apply mem_ofPieces_tail
      rwa [← List.length_append]
    have chain := ih _ behind others later
    cases rest with
    | nil => exact .singleton p
    | cons q more =>
      refine List.isChain_cons_cons.mpr ⟨⟨?_, ?_⟩, chain⟩
      · intro filled b last
        obtain ⟨f, member, literal, start, _⟩ :=
          mem_ofPieces_head (others q (by simp)) filled (front ++ p.token.bytes).length more
        refine (later f member literal).1 b ?_
        rw [Option.mem_def, start, behind, List.take_left, List.getLast?_append, last, Option.some_or]
      · intro filled b head
        obtain ⟨f, member, literal, start, length⟩ :=
          mem_ofPieces_head here filled front.length (q :: more)
        refine (isolated f member literal).2 b ?_
        rw [Option.mem_def, start, length, ← List.length_append, behind, List.drop_left, before_cons,
          List.head?_append, head, Option.some_or]

theorem exists_named_of_mem_kept {fillings : List Filling} {shift : Int} {place : Placeholder}
    (named : ∀ f ∈ fillings, f.literal = none → ∃ start length, f.place = .named start length)
    (member : place ∈ kept shift fillings) : ∃ start length, place = .named start length := by
  induction fillings generalizing shift with
  | nil => cases member
  | cons f rest ih =>
    obtain ⟨first, others⟩ := List.forall_mem_cons.mp named
    obtain ⟨here, literal⟩ := f
    cases literal with
    | some literal => exact ih others member
    | none =>
      rcases List.mem_cons.mp member with rfl | member
      · obtain ⟨start, length, same⟩ := first rfl
        exact ⟨_, length, by rw [show here = _ from same]; rfl⟩
      · exact ih others member

end Filling

namespace Placeholder

/-- A text without at signs and question marks has no placeholders. -/
theorem ofText_eq_nil {text : Bytes} (calm : ∀ b ∈ text, b ≠ 0x3F ∧ b ≠ 0x40) : ofText text = [] := by
  have plain : ∀ t ∈ Token.cut text, ∃ bytes, t = .plain bytes := by
    intro t member
    have inside : ∀ b ∈ t.bytes, b ∈ text := by
      intro b inside
      rw [← Token.flatMap_bytes_cut text]
      exact List.mem_flatMap.mpr ⟨t, member, inside⟩
    cases t with
    | plain bytes => exact ⟨bytes, rfl⟩
    | named name =>
      have head := (Token.head?_of_mem_cut member).2 name rfl
      exact ((calm _ (inside _ (List.mem_of_head? head))).2 rfl).elim
    | positional => exact ((calm 0x3F (inside _ (by simp [Token.bytes]))).1 rfl).elim
  unfold ofText
  generalize Token.cut text = ts at plain
  generalize 0 = start
  induction ts generalizing start with
  | nil => rfl
  | cons t rest ih =>
    obtain ⟨⟨bytes, rfl⟩, others⟩ := List.forall_mem_cons.mp plain
    exact ih others _

/-- The numbers of the blank characters. -/
private def blankCodes : List Nat :=
  [9, 10, 11, 12, 13, 0x20, 0x85, 0xA0, 0x1680, 0x2000, 0x2001, 0x2002, 0x2003, 0x2004, 0x2005,
    0x2006, 0x2007, 0x2008, 0x2009, 0x200A, 0x2028, 0x2029, 0x202F, 0x205F, 0x3000]

private theorem blank_calm {c : Char} (blank : isBlank c = true) :
    ∀ b ∈ String.utf8EncodeChar c, b ≠ 0x3F ∧ b ≠ 0x40 := by
  have calm : blankCodes.all (fun n => (String.utf8EncodeChar (Char.ofNat n)).all fun b =>
      b != 0x3F && b != 0x40) = true := by decide
  have listed : c.toNat ∈ blankCodes := by
    simp only [isBlank, Bool.or_eq_true, Bool.and_eq_true, decide_eq_true_eq, beq_iff_eq] at blank
    simp only [blankCodes, List.mem_cons, List.not_mem_nil, or_false]
    omega
  have here := List.all_eq_true.mp calm c.toNat listed
  rw [Char.ofNat_toNat] at here
  intro b member
  simpa using List.all_eq_true.mp here b member

theorem ofText_blank {sql : String} (blank : sql.toList.all isBlank = true) :
    ofText (Utf8.encode sql) = [] := by
  apply ofText_eq_nil
  intro b member
  obtain ⟨c, inText, inChar⟩ := List.mem_flatMap.mp member
  exact blank_calm (List.all_eq_true.mp blank c inText) b inChar

end Placeholder

namespace Filling

/-- Only names stay. -/
theorem named_of_mem_ofPieces {pieces : List Piece} (sound : ∀ p ∈ pieces, p.IsSound) {start : Nat}
    {f : Filling} (member : f ∈ ofPieces start pieces) (stays : f.literal = none) :
    ∃ start length, f.place = .named start length := by
  induction pieces generalizing start with
  | nil => cases member
  | cons p rest ih =>
    obtain ⟨here, others⟩ := List.forall_mem_cons.mp sound
    obtain ⟨token, literal⟩ := p
    cases token with
    | plain text => exact ih others member
    | named text =>
      rcases List.mem_cons.mp member with rfl | member
      · exact ⟨start, text.length, rfl⟩
      · exact ih others member
    | positional =>
      rcases List.mem_cons.mp member with rfl | member
      · exact (here.positional rfl stays).elim
      · exact ih others member

end Filling

namespace Binding

/-- A statement that is not blank becomes the bytes of its pieces. -/
theorem statement_eq_ok {options : BindingOptions} {ps : Parameters} {sql : String} {text : Bytes}
    (made : statement options ps sql = .ok text) (blank : sql.toList.all isBlank = false) :
    text = Piece.after (pieces options ps 0 (Token.cut (Utf8.encode sql))) ∧
      ∀ p ∈ pieces options ps 0 (Token.cut (Utf8.encode sql)), IsFilled options p := by
  unfold statement at made
  rw [if_neg (by simp [blank])] at made
  cases filled : tokens options ps 0 (Token.cut (Utf8.encode sql)) with
  | error cause =>
    rw [filled] at made
    cases made
  | ok texts =>
    rw [filled] at made
    obtain rfl := Except.ok.inj made
    obtain ⟨rfl, sound⟩ := tokens_eq_ok filled
    exact ⟨(List.flatMap_def ..).symm, sound⟩

/-- A statement of blanks alone has nothing to fill. -/
theorem fillings_blank (options : BindingOptions) (ps : Parameters) {sql : String}
    (blank : sql.toList.all isBlank = true) : fillings options ps sql = [] := by
  have places := map_place_fillings options ps sql
  rw [Placeholder.ofText_blank blank] at places
  exact List.map_eq_nil_iff.mp places

/-- No value brings a placeholder into a statement, takes one from it, or moves one otherwise than
by the length of the literals before it: where a backslash escapes, and no literal has come to stand
next to a byte that it joins, scanning the filled statement again finds the names that have been left
to the server, in their order, and no question mark. -/
theorem ofText_payload {options : BindingOptions} {ps : Parameters} {sql : String} {payload : Bytes}
    (escaping : options.noBackslashEscapes = false)
    (made : Binding.payload options ps sql = .ok payload)
    (isolated : ∀ f ∈ fillings options ps sql, f.literal ≠ none →
      f.place.IsIsolated (Utf8.encode sql)) :
    Placeholder.ofText payload.tail = Filling.kept 0 (fillings options ps sql) ∧
      ∀ place ∈ Placeholder.ofText payload.tail, ∃ start length, place = .named start length := by
  obtain ⟨text, filled, rfl⟩ := payload_eq_ok_iff.mp made
  rw [List.tail_cons]
  cases blank : sql.toList.all isBlank with
  | true =>
    have empty : text = [] := by
      rw [statement, if_pos blank] at filled
      exact (Except.ok.inj filled).symm
    simp [empty, fillings_blank options ps blank, Filling.kept, Placeholder.ofText, Token.cut,
      Placeholder.ofTokens]
  | false =>
    obtain ⟨rfl, sound⟩ := statement_eq_ok filled blank
    have tokens := map_token_pieces options ps 0 (Token.cut (Utf8.encode sql))
    have before : Piece.before (pieces options ps 0 (Token.cut (Utf8.encode sql))) =
        Utf8.encode sql := by
      rw [Piece.before, ← List.flatMap_map, tokens, Token.flatMap_bytes_cut]
    have sound : ∀ p ∈ pieces options ps 0 (Token.cut (Utf8.encode sql)), p.IsSound := by
      intro p member
      have inside : p.token ∈ Token.cut (Utf8.encode sql) := by
        rw [← tokens]
        exact List.mem_map_of_mem member
      exact Piece.isSound_of_isFilled escaping inside (sound p member)
    have apart := Filling.isChain_of_isIsolated [] before.symm sound isolated
    have scanned : Placeholder.ofText (Piece.after _) = Filling.kept 0 (fillings options ps sql) :=
      ofTokens_cut_after (by rw [before, tokens]) sound apart (by simp)
    refine ⟨scanned, ?_⟩
    intro place member
    rw [scanned] at member
    apply Filling.exists_named_of_mem_kept _ member
    intro f inside
    exact Filling.named_of_mem_ofPieces sound inside

theorem ofText_payload_quote :
    Placeholder.ofText (Utf8.encode "SELECT 'it\\'s ?', @x") = [.named 18 2] := by
  have made : Binding.payload ⟨true, false, false⟩ [⟨"", .text "it's ?", none, none⟩] "SELECT ?, @x" =
      .ok (Command.query.tag :: Utf8.encode "SELECT 'it\\'s ?', @x") := by
    decide +kernel
  exact (ofText_payload rfl made (by decide +kernel)).1.trans (by decide +kernel)

end Binding

end SqlWire
