import SqlWire.Proofs.Statement.Filling
import SqlWire.Proofs.Statement.Grammar

/-! # Filled statements by offsets

What a filled statement is can be said without tokens, from the places of its placeholders alone. Each
placeholder is numbered with the question marks before it; a question mark takes the parameter of its
number and a name the parameter that it means (`Binding.meant?`). `Filling.splice` copies a text and
writes the literals where the placeholders were, and `Binding.offence?` is what is wrong with a
placeholder.

`payload_filled` says when a statement can be filled, what it then is, and which error it has if it
cannot: that of the first placeholder with an offence. The tokens of a text are gone through by
induction, with the bytes before them for the offset at which they start.
-/

namespace SqlWire

/-- Whether a value is no infinity and no NaN. -/
def Value.isFinite : Value → Bool
  | .float v => BinaryFormat.single.isFinite v.bits.toNat
  | .double v => BinaryFormat.double.isFinite v.bits.toNat
  | _ => true

namespace Literal

/-- Every value has a literal but infinities and NaNs. -/
theorem ofValue_cases (options : LiteralOptions) (v : Value) :
    v.isFinite = true ∧ (∃ text, ofValue options v = .ok text) ∨
      v.isFinite = false ∧ ofValue options v = .error .nonFinite := by
  have number (f : BinaryFormat) (bits : Nat) :
      f.isFinite bits = true ∧ (∃ text, float f bits = .ok text) ∨
        f.isFinite bits = false ∧ float f bits = .error .nonFinite := by
    cases finite : f.isFinite bits <;> simp [float, finite]
  cases v with
  | float v => exact number .single v.bits.toNat
  | double v => exact number .double v.bits.toNat
  | bool v => cases v <;> exact .inl ⟨rfl, _, rfl⟩
  | _ => exact .inl ⟨rfl, _, rfl⟩

end Literal

namespace Parameters

/-- A name that is found is the name of a parameter. -/
theorem named?_isSome (ps : Parameters) (name : String) :
    (ps.named? name).isSome = (ps.flexibleIndexOf? name).isSome := by
  cases found : ps.flexibleIndexOf? name with
  | none => simp [named?, found]
  | some i =>
    have within : i < ps.length := by
      rw [flexibleIndexOf?, Option.or_eq_some_iff] at found
      obtain first | ⟨-, second⟩ := found
      · exact (List.findIdx?_eq_some_iff_getElem.mp first).1
      · exact (List.findIdx?_eq_some_iff_getElem.mp second).1
    simp [named?, found, within]

end Parameters

namespace Placeholder

def isPositional : Placeholder → Bool
  | named .. => false
  | positional _ => true

/-- What a placeholder says in its text. -/
def name (text : Bytes) (p : Placeholder) : String :=
  Utf8.decodeLossy ((text.drop p.start).take p.length)

/-- Placeholders behind `count` question marks, each with the number of those before it. -/
def numbered : Nat → List Placeholder → List (Placeholder × Nat)
  | _, [] => []
  | count, p :: rest => (p, count) :: numbered (count + p.isPositional.toNat) rest

theorem map_fst_numbered (count : Nat) (places : List Placeholder) :
    (numbered count places).map Prod.fst = places := by
  induction places generalizing count with
  | nil => rfl
  | cons p rest ih => rw [numbered, List.map_cons, ih]

/-- The question marks have numbers below some bound if there are not more of them. -/
theorem numbered_lt_iff {count bound : Nat} (start : count ≤ bound) (places : List Placeholder) :
    (∀ x ∈ numbered count places, x.1.isPositional = true → x.2 < bound) ↔
      count + places.countP isPositional ≤ bound := by
  induction places generalizing count with
  | nil => simpa [numbered] using start
  | cons p rest ih =>
    rw [numbered, List.forall_mem_cons, List.countP_cons]
    cases mark : p.isPositional with
    | false =>
      rw [Bool.toNat_false, Nat.add_zero, ih start]
      simp
    | true =>
      rw [Bool.toNat_true]
      constructor
      · rintro ⟨here, later⟩
        have behind := (ih (here rfl)).mp later
        simp only [if_true]
        omega
      · intro few
        simp only [if_true] at few
        exact ⟨fun _ => by omega, (ih (by omega)).mpr (by omega)⟩

/-- What a placeholder says is a part of its text. -/
theorem isSlice_name {sql : String} {p : Placeholder} (member : p ∈ ofText (Utf8.encode sql)) :
    Utf8.IsSlice sql p.start p.length (p.name (Utf8.encode sql)) := by
  obtain ⟨-, part, slice⟩ := exists_isSlice member
  rwa [name, slice.bytes, Utf8.decodeLossy_encode]

end Placeholder

namespace Filling

/-- A text from an offset on with literals in the place of placeholders. A placeholder without a
literal stays. -/
def splice (text : Bytes) : Nat → List Filling → Bytes
  | last, [] => text.drop last
  | last, ⟨_, none⟩ :: rest => splice text last rest
  | last, ⟨place, some literal⟩ :: rest =>
    (text.take place.start).drop last ++ literal ++ splice text (place.start + place.length) rest

/-- Pieces that are written one after the other are the text with literals spliced in. -/
theorem splice_ofPieces {pieces : List Piece} {text : Bytes} (front : Bytes)
    (whole : text = front ++ Piece.before pieces)
    (plain : ∀ p ∈ pieces, ∀ bytes, p.token = .plain bytes → p.literal = none) {last : Nat}
    (behind : last ≤ front.length) :
    splice text last (ofPieces front.length pieces) = front.drop last ++ Piece.after pieces := by
  induction pieces generalizing front last with
  | nil =>
    rw [whole]
    simp [ofPieces, splice, Piece.before, Piece.after]
  | cons p rest ih =>
    obtain ⟨here, others⟩ := List.forall_mem_cons.mp plain
    have longer : text = (front ++ p.token.bytes) ++ Piece.before rest := by
      rw [whole, Piece.before_cons, List.append_assoc]
    have later := fun {last : Nat} (behind : last ≤ (front ++ p.token.bytes).length) =>
      ih _ longer others behind
    simp only [List.length_append] at later
    have kept : (front ++ p.token.bytes).drop last = front.drop last ++ p.token.bytes :=
      List.drop_append_of_le_length behind
    have next := later (Nat.le_add_right_of_le behind)
    rw [kept, List.append_assoc] at next
    obtain ⟨token, literal⟩ := p
    cases literal with
    | none => cases token <;> simpa [ofPieces, splice, Piece.after_cons, Piece.bytes] using next
    | some literal =>
      have start : text.take front.length = front := by rw [whole, List.take_left]
      have reach := later (Nat.le_refl _)
      rw [← List.length_append, List.drop_length, List.nil_append, List.length_append] at reach
      have copied : (text.take front.length).drop last ++ literal = front.drop last ++ literal := by
        rw [start]
      rw [Piece.after_cons, ← List.append_assoc]
      cases token with
      | plain bytes => cases here bytes rfl
      | named bytes => exact congrArg₂ (· ++ ·) copied reach
      | positional => exact congrArg₂ (· ++ ·) copied reach

end Filling

namespace Binding

/-- The parameter that a placeholder takes: by its name, or by the number of question marks before it. -/
def meant? (ps : Parameters) (text : Bytes) : Placeholder × Nat → Option Parameter
  | (.named start length, _) => ps.named? ((Placeholder.named start length).name text)
  | (.positional _, count) => ps[count]?

/-- What a placeholder becomes; nothing if it stays. -/
def filling (options : BindingOptions) (ps : Parameters) (text : Bytes) (x : Placeholder × Nat) :
    Filling :=
  ⟨x.1, (meant? ps text x).bind fun entry => (literal options entry).toOption⟩

/-- Why a placeholder cannot be filled. -/
def offence? (options : BindingOptions) (ps : Parameters) (text : Bytes) (x : Placeholder × Nat) :
    Option ClientError :=
  match meant? ps text x with
  | some entry => if entry.value.isFinite then none else some (.value .nonFinite)
  | none =>
    if x.1.isPositional then some (.binding (.tooFewParameters ps.length))
    else if options.allowUserVariables then none
    else some (.binding (.undefinedName (x.1.name text)))

theorem literal_cases (options : BindingOptions) (entry : Parameter) :
    entry.value.isFinite = true ∧ (∃ text, literal options entry = .ok text) ∨
      entry.value.isFinite = false ∧ literal options entry = .error (.value .nonFinite) := by
  obtain ⟨finite, text, made⟩ | ⟨infinite, refused⟩ :=
    Literal.ofValue_cases options.literals entry.value
  · exact .inl ⟨finite, text, by rw [literal, made]; rfl⟩
  · exact .inr ⟨infinite, by rw [literal, refused]; rfl⟩

theorem literal_eq_error_iff {options : BindingOptions} {entry : Parameter} {cause : ClientError} :
    literal options entry = .error cause ↔
      (if entry.value.isFinite then none else some (.value .nonFinite)) = some cause := by
  obtain ⟨finite, text, made⟩ | ⟨infinite, refused⟩ := literal_cases options entry
  · simp [finite, made]
  · simp [infinite, refused]

theorem meant?_named (ps : Parameters) {text bytes : Bytes} {start : Nat}
    (slice : (text.drop start).take bytes.length = bytes) (count : Nat) :
    meant? ps text (.named start bytes.length, count) = ps.named? (Utf8.decodeLossy bytes) := by
  rw [meant?, Placeholder.name, Placeholder.start, Placeholder.length, slice]

theorem named_eq_error_iff {options : BindingOptions} {ps : Parameters} {text bytes : Bytes}
    {start : Nat} (slice : (text.drop start).take bytes.length = bytes) (count : Nat)
    (cause : ClientError) : named options ps bytes = .error cause ↔
      offence? options ps text (.named start bytes.length, count) = some cause := by
  have entry := meant?_named ps slice count
  cases found : ps.named? (Utf8.decodeLossy bytes) with
  | some p => simpa [named, offence?, entry, found] using literal_eq_error_iff
  | none =>
    have name : (Placeholder.named start bytes.length).name text = Utf8.decodeLossy bytes :=
      congrArg Utf8.decodeLossy slice
    cases allowed : options.allowUserVariables <;>
      simp [named, offence?, entry, found, allowed, name, Placeholder.isPositional]

theorem positional_eq_error_iff (options : BindingOptions) (ps : Parameters) (text : Bytes)
    (start count : Nat) (cause : ClientError) : positional options ps count = .error cause ↔
      offence? options ps text (.positional start, count) = some cause := by
  cases found : ps[count]? with
  | some p => simpa [positional, offence?, meant?, found] using literal_eq_error_iff
  | none => simp [positional, offence?, meant?, found, Placeholder.isPositional]

/-- What is made of several things fails with the error of the first that fails. -/
theorem cons_eq_error_iff {α : Type} {filled : Except ClientError Bytes}
    {others : Except ClientError (List Bytes)} {why : α → Option ClientError} {x : α} {xs : List α}
    (first : ∀ cause, filled = .error cause ↔ why x = some cause)
    (rest : ∀ cause, others = .error cause ↔ xs.findSome? why = some cause) (cause : ClientError) :
    (do return (← filled) :: (← others) : Except ClientError (List Bytes)) = .error cause ↔
      (x :: xs).findSome? why = some cause := by
  rw [List.findSome?_cons]
  cases filled with
  | error e => simp [(first e).mp rfl, bind, Except.bind]
  | ok text =>
    have none : why x = none := by
      cases here : why x with
      | none => rfl
      | some e => cases (first e).mpr here
    rw [none, ← rest]
    cases others with
    | error e => simp [bind, Except.bind]
    | ok texts => simp [bind, Except.bind, pure, Except.pure]

open Placeholder in
/-- The tokens of a text cannot be filled because of the first placeholder with an offence. -/
theorem tokens_eq_error_iff (options : BindingOptions) (ps : Parameters) {text : Bytes}
    {ts : List Token} (count : Nat) (front : Bytes) (whole : text = front ++ ts.flatMap Token.bytes)
    (cause : ClientError) : tokens options ps count ts = .error cause ↔
      (numbered count (ofTokens front.length ts)).findSome? (offence? options ps text) =
        some cause := by
  induction ts generalizing count front cause with
  | nil => simp [tokens, ofTokens, numbered]
  | cons t rest ih =>
    rw [List.flatMap_cons] at whole
    have behind : text = (front ++ t.bytes) ++ rest.flatMap Token.bytes := by
      rw [whole, List.append_assoc]
    have later := fun count => ih count _ behind
    simp only [List.length_append] at later
    cases t with
    | plain bytes =>
      rw [ofTokens, ← later, tokens]
      cases tokens options ps count rest <;> simp [bind, Except.bind, pure, Except.pure]
    | named bytes =>
      have slice : (text.drop front.length).take bytes.length = bytes := by
        rw [whole, List.drop_left, Token.bytes, List.take_left]
      exact cons_eq_error_iff (named_eq_error_iff slice count) (later count) cause
    | positional =>
      exact cons_eq_error_iff (positional_eq_error_iff options ps text front.length count)
        (later (count + 1)) cause

open Placeholder in
/-- The fillings of a text by its tokens are those by its placeholders. -/
theorem ofPieces_eq {options : BindingOptions} {ps : Parameters} {text : Bytes} {ts : List Token}
    (count : Nat) (front : Bytes) (whole : text = front ++ ts.flatMap Token.bytes) :
    Filling.ofPieces front.length (pieces options ps count ts) =
      (numbered count (ofTokens front.length ts)).map (filling options ps text) := by
  induction ts generalizing count front with
  | nil => rfl
  | cons t rest ih =>
    rw [List.flatMap_cons] at whole
    have behind : text = (front ++ t.bytes) ++ rest.flatMap Token.bytes := by
      rw [whole, List.append_assoc]
    have later := fun count => ih count _ behind
    simp only [List.length_append] at later
    cases t with
    | plain bytes => exact later count
    | named bytes =>
      have slice : (text.drop front.length).take bytes.length = bytes := by
        rw [whole, List.drop_left, Token.bytes, List.take_left]
      have here := meant?_named ps slice count
      refine List.cons_eq_cons.mpr ⟨?_, later count⟩
      rw [filling, here]
    | positional => exact List.cons_eq_cons.mpr ⟨rfl, later (count + 1)⟩

/-- A placeholder has no offence exactly if it can be filled with a finite value, or may stay. -/
theorem offence?_eq_none_iff {options : BindingOptions} {ps : Parameters} {text : Bytes}
    {p : Placeholder} {count : Nat} : offence? options ps text (p, count) = none ↔
      (p.isPositional = true → count < ps.length) ∧
      (p.isPositional = false → (ps.flexibleIndexOf? (p.name text)).isSome = true ∨
        options.allowUserVariables = true) ∧
      ∀ entry, meant? ps text (p, count) = some entry → entry.value.isFinite = true := by
  cases p with
  | named start length =>
    rw [← Parameters.named?_isSome]
    cases found : ps.named? ((Placeholder.named start length).name text) with
    | some entry => simp [offence?, meant?, found, Placeholder.isPositional]
    | none => simp [offence?, meant?, found, Placeholder.isPositional]
  | positional start =>
    cases found : ps[count]? with
    | some entry =>
      have within := (List.getElem?_eq_some_iff.mp found).1
      simp [offence?, meant?, within, Placeholder.isPositional]
    | none =>
      have beyond := List.getElem?_eq_none_iff.mp found
      simp [offence?, meant?, Placeholder.isPositional, Nat.not_lt.mpr beyond]

/-- The numbered placeholders of a statement. -/
def places (sql : String) : List (Placeholder × Nat) :=
  Placeholder.numbered 0 (Placeholder.ofText (Utf8.encode sql))

/-- A statement that is not blank has the error of its first placeholder with an offence. -/
theorem payload_eq_error_iff (options : BindingOptions) (ps : Parameters) (sql : String)
    (cause : ClientError) : Binding.payload options ps sql = .error cause ↔
      sql.toList.all isBlank = false ∧
        (places sql).findSome? (offence? options ps (Utf8.encode sql)) = some cause := by
  have failed := tokens_eq_error_iff options ps 0 []
    (Token.flatMap_bytes_cut (Utf8.encode sql)).symm cause
  rw [List.length_nil] at failed
  rw [places, Placeholder.ofText, ← failed]
  unfold Binding.payload statement
  cases blank : sql.toList.all isBlank with
  | true => simp [bind, Except.bind, pure, Except.pure]
  | false =>
    cases tokens options ps 0 (Token.cut (Utf8.encode sql)) <;>
      simp [bind, Except.bind, pure, Except.pure]

/-- A statement can be filled if each of its placeholders can. -/
theorem exists_payload_iff {options : BindingOptions} {ps : Parameters} {sql : String} :
    (∃ bytes, Binding.payload options ps sql = .ok bytes) ↔
      sql.toList.all isBlank = true ∨
        ∀ x ∈ places sql, offence? options ps (Utf8.encode sql) x = none := by
  have failed := payload_eq_error_iff options ps sql
  rw [← List.findSome?_eq_none_iff]
  cases made : Binding.payload options ps sql with
  | ok bytes =>
    refine iff_of_true ⟨bytes, rfl⟩ ?_
    cases blank : sql.toList.all isBlank with
    | true => exact .inl rfl
    | false =>
      right
      cases offends : (places sql).findSome? (offence? options ps (Utf8.encode sql)) with
      | none => rfl
      | some cause =>
        have refused := (failed cause).mpr ⟨blank, offends⟩
        rw [made] at refused
        cases refused
  | error cause =>
    obtain ⟨text, offends⟩ := (failed cause).mp made
    simp [text, offends]

/-- A statement that is not blank becomes its text with literals in the place of placeholders. -/
theorem payload_eq_splice {options : BindingOptions} {ps : Parameters} {sql : String} {bytes : Bytes}
    (made : Binding.payload options ps sql = .ok bytes) :
    bytes = Command.query.tag :: if sql.toList.all isBlank then []
      else Filling.splice (Utf8.encode sql) 0
        ((places sql).map (filling options ps (Utf8.encode sql))) := by
  obtain ⟨text, filled, rfl⟩ := payload_eq_ok_iff.mp made
  cases blank : sql.toList.all isBlank with
  | true =>
    rw [statement, if_pos blank] at filled
    obtain rfl := Except.ok.inj filled
    rfl
  | false =>
    obtain ⟨rfl, sound⟩ := statement_eq_ok filled blank
    have tokens := map_token_pieces options ps 0 (Token.cut (Utf8.encode sql))
    have whole : Utf8.encode sql =
        [] ++ Piece.before (pieces options ps 0 (Token.cut (Utf8.encode sql))) := by
      rw [List.nil_append, Piece.before, ← List.flatMap_map, tokens, Token.flatMap_bytes_cut]
    have spliced := Filling.splice_ofPieces [] whole (fun p member => (sound p member).plain)
      (Nat.le_refl 0)
    rw [ofPieces_eq 0 [] (Token.flatMap_bytes_cut (Utf8.encode sql)).symm] at spliced
    exact congrArg _ spliced.symm

/-- A statement is filled exactly. It can be filled if it is blank, or if it has no more question marks
than there are parameters, no name without a parameter that is not left to the server, and no value
without a literal. Then it is the statement with the literal of its own parameter in the place of each
placeholder that has one, and all else as it was. If it cannot be filled, the error is that of the
first placeholder with an offence. What a placeholder says is read where it stands. -/
theorem payload_filled (options : BindingOptions) (ps : Parameters) (sql : String) :
    ((∃ bytes, Binding.payload options ps sql = .ok bytes) ↔
      sql.toList.all isBlank = true ∨
        (Placeholder.ofText (Utf8.encode sql)).countP Placeholder.isPositional ≤ ps.length ∧
        (∀ p ∈ Placeholder.ofText (Utf8.encode sql), p.isPositional = false →
          (ps.flexibleIndexOf? (p.name (Utf8.encode sql))).isSome = true ∨
            options.allowUserVariables = true) ∧
        ∀ x ∈ places sql, ∀ entry, meant? ps (Utf8.encode sql) x = some entry →
          entry.value.isFinite = true) ∧
    (∀ bytes, Binding.payload options ps sql = .ok bytes →
      bytes = 0x03 :: if sql.toList.all isBlank then []
        else Filling.splice (Utf8.encode sql) 0
          ((places sql).map (filling options ps (Utf8.encode sql)))) ∧
    (∀ cause, Binding.payload options ps sql = .error cause →
      (places sql).findSome? (offence? options ps (Utf8.encode sql)) = some cause) ∧
    ∀ p ∈ Placeholder.ofText (Utf8.encode sql),
      Utf8.IsSlice sql p.start p.length (p.name (Utf8.encode sql)) := by
  refine ⟨?_, fun bytes made => payload_eq_splice made,
    fun cause refused => ((payload_eq_error_iff options ps sql cause).mp refused).2, fun p => Placeholder.isSlice_name⟩
  rw [exists_payload_iff]
  refine or_congr_right ?_
  have marks := Placeholder.numbered_lt_iff (Nat.zero_le ps.length)
    (Placeholder.ofText (Utf8.encode sql))
  rw [Nat.zero_add] at marks
  have names := Placeholder.map_fst_numbered 0 (Placeholder.ofText (Utf8.encode sql))
  rw [← marks]
  constructor
  · intro fine
    have each := fun p count member => offence?_eq_none_iff.mp (fine (p, count) member)
    refine ⟨fun x member => (each x.1 x.2 member).1, ?_, fun x member => (each x.1 x.2 member).2.2⟩
    intro p member
    rw [← names] at member
    obtain ⟨x, inside, rfl⟩ := List.mem_map.mp member
    exact (each x.1 x.2 inside).2.1
  · rintro ⟨few, known, finite⟩ ⟨p, count⟩ member
    have listed : p ∈ Placeholder.ofText (Utf8.encode sql) := by
      rw [← names]
      exact List.mem_map_of_mem member
    exact offence?_eq_none_iff.mpr ⟨few _ member, known p listed, finite _ member⟩

/-- A parameter with a name and one without. -/
def twoParameters : Parameters := [⟨"@id", .int 7, none, none⟩, ⟨"", .text "x", none, none⟩]

/-- A name takes no number, and one without a parameter stays where variables are allowed. Where they
are not, it is the first offence. -/
theorem payload_filled_mixed :
    Binding.payload ⟨true, false, false⟩ twoParameters "? @v @ID ?" =
        .ok (0x03 :: Utf8.encode "7 @v 7 'x'") ∧
      Binding.payload ⟨false, false, false⟩ twoParameters "? @v @ID ?" =
        .error (.binding (.undefinedName "@v")) := by
  constructor
  · have allowed := payload_filled ⟨true, false, false⟩ twoParameters "? @v @ID ?"
    obtain ⟨bytes, made⟩ := allowed.1.mpr (.inr (by decide +kernel))
    rw [made, allowed.2.1 bytes made]
    decide +kernel
  · have strict := payload_filled ⟨false, false, false⟩ twoParameters "? @v @ID ?"
    have first : (places "? @v @ID ?").findSome?
        (offence? ⟨false, false, false⟩ twoParameters (Utf8.encode "? @v @ID ?")) =
          some (.binding (.undefinedName "@v")) := by decide +kernel
    cases made : Binding.payload ⟨false, false, false⟩ twoParameters "? @v @ID ?" with
    | ok bytes => exact absurd (strict.1.mp ⟨bytes, made⟩) (by decide +kernel)
    | error cause =>
      have cause_eq := strict.2.2.1 cause made
      rw [first] at cause_eq
      exact congrArg _ (Option.some.inj cause_eq).symm

end Binding

end SqlWire
