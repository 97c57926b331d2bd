import SqlWire.Bytes
import SqlWire.Text.Hex

/-! # Universally unique identifiers

Sixteen bytes, written as five groups of hexadecimal digits. A text may also have no hyphens, or
stand in braces or behind `urn:uuid:` in any case. The length of a text tells in which of the four
forms it has to be, and a text of no such length is only looked at to say what is wrong with it.
-/

namespace SqlWire

/-- An identifier of sixteen bytes. -/
structure Uuid where
  bytes : Bytes
  length_eq : bytes.length = 16
deriving DecidableEq

inductive UuidError where
  /-- A character is neither a digit nor a hyphen. -/
  | character (c : Char) (index : Nat)
  /-- A text is too long, or has digits only and not 32 of them. -/
  | textLength (length : Nat)
  /-- A byte string has another length than 16. -/
  | byteLength (length : Nat)
  /-- There are more or fewer hyphens than four. -/
  | groupCount (count : Nat)
  /-- A group of digits is too long or too short. -/
  | groupLength (group expected found : Nat)
deriving Repr, DecidableEq

def UuidError.message : UuidError → String
  | character c index =>
    "invalid character: found " ++ String.ofList ['\x60', c, '\x60'] ++ s!" at {index}"
  | textLength length => s!"invalid length: found {length}"
  | byteLength length => s!"invalid length: expected 16 bytes, found {length}"
  | groupCount count => s!"invalid group count: expected 5, found {count}"
  | groupLength group expected found =>
    s!"invalid group length in group {group}: expected {expected}, found {found}"

namespace Uuid

def ofBytes? (bytes : Bytes) : Option Uuid :=
  if h : bytes.length = 16 then some ⟨bytes, h⟩ else none

/-- The identifier of sixteen bytes, or the failure that names their number. -/
def ofBytes (bytes : Bytes) : Except UuidError Uuid :=
  match ofBytes? bytes with
  | some u => .ok u
  | none => .error (.byteLength bytes.length)

/-- The numbers of digits of the five groups. -/
def groups : List Nat := [8, 4, 4, 4, 12]

/-- Digits cut into groups with hyphens between them. -/
def join : List Nat → List Char → List Char
  | [], _ => []
  | [size], digits => digits.take size
  | size :: sizes, digits => digits.take size ++ '-' :: join sizes (digits.drop size)

/-- Five groups of small digits. -/
def format (u : Uuid) : List Char := join groups (u.bytes.flatMap Hex.lower)

/-- The bytes of pairs of digits. -/
def pairs? : List Char → Option Bytes
  | [] => some []
  | [_] => none
  | a :: b :: rest => do
    let high ← Hex.value? a
    let low ← Hex.value? b
    return UInt8.ofNat (16 * high + low) :: (← pairs? rest)

/-- The digits of groups with hyphens between them. -/
def ungroup? : List Nat → List Char → Option (List Char)
  | [], [] => some []
  | [], _ :: _ => none
  | [size], text => if text.length = size then some text else none
  | size :: sizes, text =>
    match text.drop size with
    | '-' :: rest => (ungroup? sizes rest).map (text.take size ++ ·)
    | _ => none

/-- What stands in front of an identifier in a uniform resource name. -/
def resourceName : List Char := "urn:uuid:".toList

/-- What stands behind the resource name, which may be in any case. -/
def behindName? (text : List Char) : Option (List Char) :=
  if (text.take resourceName.length).map Char.toLower == resourceName then
    some (text.drop resourceName.length)
  else none

/-- What stands in braces. -/
def inBraces? : List Char → Option (List Char)
  | '{' :: inner => if inner.getLast? = some '}' then some inner.dropLast else none
  | _ => none

/-- What stands in braces or behind the resource name, and how many characters stand before it;
none if the text is bare. -/
def unwrap? (text : List Char) : Option (List Char × Nat) :=
  match inBraces? text with
  | some inner => some (inner, 1)
  | none => (behindName? text).map fun inner => (inner, resourceName.length)

/-- The bytes of groups of digits. -/
def readGroups? (text : List Char) : Option Bytes := (ungroup? groups text).bind pairs?

/-- The first character that is neither a digit nor a hyphen, and the number of bytes before it. -/
def stray? : List Char → Nat → Option (Char × Nat)
  | [], _ => none
  | c :: rest, index =>
    if c == '-' || (Hex.value? c).isSome then stray? rest (index + 1) else some (c, index)

/-- The first of the four inner groups that does not end where it should, by the positions of the
hyphens; otherwise the last group is at fault. -/
def groupFault (length : Nat) (hyphens : List Nat) : UuidError :=
  let starts := [0, 9, 14, 19]
  match (hyphens.zip (starts.zip groups)).zipIdx.find? fun ((hyphen, first, size), _) =>
      hyphen != first + size with
  | some ((hyphen, first, size), group) => .groupLength group size (hyphen - first)
  | none => .groupLength 4 12 (length - 24)

/-- Why a text that should be groups of digits is no identifier, when `offset` characters stand before
it in a text of a certain length. -/
def groupsFault (text : List Char) (length offset : Nat) : UuidError :=
  match stray? text 0 with
  | some (c, index) => .character c (index + offset)
  | none =>
    let hyphens := text.zipIdx.filterMap fun (c, i) => if c == '-' then some i else none
    if hyphens.length != 4 then .groupCount (hyphens.length + 1) else groupFault length hyphens

/-- The length of the longest form. -/
def maxLength : Nat := 45

/-- Why a text of a certain length is in none of the forms. -/
def fault (text : List Char) (length : Nat) : UuidError :=
  if maxLength < length then .textLength length
  else
    match unwrap? text with
    | some (inner, offset) => groupsFault inner length offset
    | none =>
      if text.all fun c => (Hex.value? c).isSome then .textLength length
      else groupsFault text length 0

/-- What has to be five groups of digits in a text of a certain length: all of it, or what stands in
braces or behind the resource name. -/
def grouped? (text : List Char) (length : Nat) : Option (List Char) :=
  if length = 36 then some text
  else if length = 38 then inBraces? text
  else if length = maxLength then behindName? text
  else none

/-- The bytes that a text denotes. -/
def readBytes (text : List Char) (length : Nat) : Except UuidError Bytes :=
  match grouped? text length with
  | some inner =>
    match readGroups? inner with
    | some bytes => .ok bytes
    | none => .error (groupsFault inner 36 0)
  | none =>
    match if length = 32 then pairs? text else none with
    | some bytes => .ok bytes
    | none => .error (fault text length)

/-- The identifier that a text denotes. -/
def ofText (text : String) : Except UuidError Uuid := do
  ofBytes (← readBytes text.toList text.utf8ByteSize)

end Uuid

end SqlWire
