import SqlWire.Bytes

/-! # Digests

SHA-1 and SHA-256 work alike: the message is padded to whole blocks of sixteen big-endian words, and
each block drives a number of rounds over a few chaining words. The message schedule is a window of
sixteen words: each round takes the first and appends a mixture of the others.
-/

namespace SqlWire

namespace Digest

/-- The words of a byte string, four bytes each, most significant first; a short rest is dropped. -/
def words : Bytes → List UInt32
  | a :: b :: c :: d :: rest =>
    ((a.toUInt32 <<< 24) ||| (b.toUInt32 <<< 16) ||| (c.toUInt32 <<< 8) ||| d.toUInt32)
      :: words rest
  | _ => []

/-- The four bytes of a word, most significant first. -/
def wordBytes (w : UInt32) : Bytes :=
  [(w >>> 24).toUInt8, (w >>> 16).toUInt8, (w >>> 8).toUInt8, w.toUInt8]

/-- A message with a one bit, zero bits and its length in bits, to a multiple of 64 bytes. -/
def pad (message : Bytes) : Bytes :=
  let zeros := (119 - message.length % 64) % 64
  message ++ 0x80 :: List.replicate zeros 0
    ++ (LittleEndian.bytes 8 (8 * message.length)).reverse

def blockSize : Nat := 64

/-- Takes in the whole blocks of a message, one after the other. -/
def absorb {σ : Type} (compress : σ → List UInt32 → σ) (s : σ) (message : Bytes) : σ :=
  let block := message.take blockSize
  if _short : block.length < blockSize then s
  else absorb compress (compress s (words block)) (message.drop blockSize)
termination_by message.length
decreasing_by
  simp only [block, List.length_take, List.length_drop, blockSize] at *
  omega

def rotateLeft (w : UInt32) (n : UInt32) : UInt32 := (w <<< n) ||| (w >>> (32 - n))

def rotateRight (w : UInt32) (n : UInt32) : UInt32 := (w >>> n) ||| (w <<< (32 - n))

/-- Runs the rounds, with one constant each, over a window of the message schedule. -/
def rounds {σ : Type} (round : σ → UInt32 → UInt32 → σ) (mix : List UInt32 → UInt32) :
    List UInt32 → List UInt32 → σ → σ
  | [], _, s => s
  | k :: constants, window, s =>
    rounds round mix constants (window.drop 1 ++ [mix window]) (round s k (window.headD 0))

def word (window : List UInt32) (i : Nat) : UInt32 := window.getD i 0

end Digest

end SqlWire
