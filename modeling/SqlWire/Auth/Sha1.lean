import SqlWire.Auth.Digest

/-! # SHA-1

A digest of twenty bytes.
-/

namespace SqlWire

namespace Sha1

open Digest

/-- The chaining words. -/
structure State where
  a : UInt32
  b : UInt32
  c : UInt32
  d : UInt32
  e : UInt32
deriving Repr, DecidableEq

/-- The chaining words before the first block. -/
def start : State := ⟨0x67452301, 0xEFCDAB89, 0x98BADCFE, 0x10325476, 0xC3D2E1F0⟩

/-- The constants of the eighty rounds, the same for twenty at a time. -/
def constants : List UInt32 :=
  List.replicate 20 0x5A827999 ++ List.replicate 20 0x6ED9EBA1
    ++ List.replicate 20 0x8F1BBCDC ++ List.replicate 20 0xCA62C1D6

/-- How a round combines three words; its constant says which of the four spans it belongs to. -/
def combine (k b c d : UInt32) : UInt32 :=
  if k == 0x5A827999 then (b &&& c) ||| (~~~b &&& d)
  else if k == 0x8F1BBCDC then (b &&& c) ||| (b &&& d) ||| (c &&& d)
  else b ^^^ c ^^^ d

def round (s : State) (k w : UInt32) : State :=
  ⟨rotateLeft s.a 5 + combine k s.b s.c s.d + s.e + k + w, s.a, rotateLeft s.b 30, s.c, s.d⟩

/-- The word appended to the message schedule. -/
def mix (window : List UInt32) : UInt32 :=
  rotateLeft (word window 13 ^^^ word window 8 ^^^ word window 2 ^^^ word window 0) 1

def compress (s : State) (block : List UInt32) : State :=
  let t := rounds round mix constants block s
  ⟨s.a + t.a, s.b + t.b, s.c + t.c, s.d + t.d, s.e + t.e⟩

def State.bytes (s : State) : Bytes :=
  wordBytes s.a ++ wordBytes s.b ++ wordBytes s.c ++ wordBytes s.d ++ wordBytes s.e

def digest (message : Bytes) : Bytes :=
  (absorb compress start (pad message)).bytes

@[simp] theorem length_digest (message : Bytes) : (digest message).length = 20 := rfl

end Sha1

end SqlWire
