import SqlWire.Bytes

/-! # UTF-8

Text travels as UTF-8. `Utf8.encode` is total; `Utf8.decode` says where the first ill-formed
sequence starts and how long it is, and `Utf8.decodeLossy` puts U+FFFD in its place. Both
readers take the head of a byte string apart with `Utf8.head`, which accepts exactly the
well-formed sequences: no overlong forms, no surrogates, nothing above U+10FFFF.
-/

namespace SqlWire

namespace Utf8

def encode (text : String) : Bytes :=
  text.toList.flatMap String.utf8EncodeChar

/-- What a byte string starts with. -/
inductive Head where
  /-- A character and the bytes after it. -/
  | char (c : Char) (rest : Bytes)
  /-- The first `length` bytes, at least one, begin no character. -/
  | bad (length : Nat)
  /-- The bytes end inside a character. -/
  | cut
  /-- There are no bytes. -/
  | done
deriving Repr, DecidableEq

/-- A byte that continues a character: `10xxxxxx`. -/
def isContinuation (b : UInt8) : Bool := b &&& 0xC0 == 0x80

/-- What a byte that continues a character adds to it. -/
def low6 (b : UInt8) : Nat := b.toNat % 64

/-- The second bytes that may follow a three-byte lead: overlong forms and surrogates are out. -/
def secondOfThree (lead second : UInt8) : Bool :=
  if lead == 0xE0 then 0xA0 ≤ second && second ≤ 0xBF
  else if lead == 0xED then 0x80 ≤ second && second ≤ 0x9F
  else isContinuation second

/-- The second bytes that may follow a four-byte lead: the result lies in U+10000 to U+10FFFF. -/
def secondOfFour (lead second : UInt8) : Bool :=
  if lead == 0xF0 then 0x90 ≤ second && second ≤ 0xBF
  else if lead == 0xF4 then 0x80 ≤ second && second ≤ 0x8F
  else isContinuation second

/-- Takes the first character off a byte string. -/
def head : Bytes → Head
  | [] => .done
  | a :: rest =>
    if a < 0x80 then .char (Char.ofNat a.toNat) rest
    else if a < 0xC2 then .bad 1
    else if a < 0xE0 then
      match rest with
      | [] => .cut
      | b :: rest =>
        if isContinuation b then .char (Char.ofNat (a.toNat % 32 * 64 + low6 b)) rest else .bad 1
    else if a < 0xF0 then
      match rest with
      | [] => .cut
      | b :: rest =>
        if secondOfThree a b then
          match rest with
          | [] => .cut
          | c :: rest =>
            if isContinuation c then
              .char (Char.ofNat ((a.toNat % 16 * 64 + low6 b) * 64 + low6 c)) rest
            else .bad 2
        else .bad 1
    else if a < 0xF5 then
      match rest with
      | [] => .cut
      | b :: rest =>
        if secondOfFour a b then
          match rest with
          | [] => .cut
          | c :: rest =>
            if isContinuation c then
              match rest with
              | [] => .cut
              | d :: rest =>
                if isContinuation d then
                  .char (Char.ofNat
                    (((a.toNat % 8 * 64 + low6 b) * 64 + low6 c) * 64 + low6 d)) rest
                else .bad 3
            else .bad 2
        else .bad 1
    else .bad 1

theorem length_of_head_char {bytes rest : Bytes} {c : Char} (h : head bytes = .char c rest) :
    rest.length < bytes.length := by
  unfold head at h
  repeat' split at h
  all_goals first
    | (cases h; simp only [List.length_cons]; omega)
    | cases h

/-- Where a byte string stops being UTF-8. -/
structure Invalid where
  /-- The number of bytes before the ill-formed sequence. -/
  start : Nat
  /-- The length of the ill-formed sequence; none when the bytes end inside a character. -/
  length : Option Nat
deriving Repr, DecidableEq

def Invalid.message (e : Invalid) : String :=
  match e.length with
  | some n => s!"invalid utf-8 sequence of {n} bytes from index {e.start}"
  | none => s!"incomplete utf-8 byte sequence from index {e.start}"

/-- Reads characters onto `seen`, newest first; `start` counts the bytes read so far. -/
def decodeOnto (bytes : Bytes) (start : Nat) (seen : List Char) : Except Invalid (List Char) :=
  match h : head bytes with
  | .done => .ok seen.reverse
  | .char c rest =>
    have := length_of_head_char h
    decodeOnto rest (start + (String.utf8EncodeChar c).length) (c :: seen)
  | .bad n => .error ⟨start, some n⟩
  | .cut => .error ⟨start, none⟩
termination_by bytes.length

/-- The text whose UTF-8 form the bytes are. -/
def decode (bytes : Bytes) : Except Invalid String :=
  (decodeOnto bytes 0 []).map String.ofList

/-- The text whose UTF-8 form the bytes are, if they are one. -/
def decode? (bytes : Bytes) : Option String :=
  (decode bytes).toOption

theorem bounds_of_head_bad {bytes : Bytes} {n : Nat} (h : head bytes = .bad n) :
    0 < n ∧ n ≤ bytes.length := by
  unfold head at h
  repeat' split at h
  all_goals first
    | (cases h; simp only [List.length_cons]; omega)
    | cases h

/-- Reads characters onto `seen`, newest first, with U+FFFD for each ill-formed sequence. -/
def decodeLossyOnto (bytes : Bytes) (seen : List Char) : List Char :=
  match h : head bytes with
  | .done => seen.reverse
  | .char c rest =>
    have := length_of_head_char h
    decodeLossyOnto rest (c :: seen)
  | .bad n =>
    have := bounds_of_head_bad h
    decodeLossyOnto (bytes.drop n) ('\uFFFD' :: seen)
  | .cut => ('\uFFFD' :: seen).reverse
termination_by bytes.length

/-- The text of the bytes, with U+FFFD in place of each ill-formed sequence. -/
def decodeLossy (bytes : Bytes) : String :=
  String.ofList (decodeLossyOnto bytes [])

end Utf8

end SqlWire
