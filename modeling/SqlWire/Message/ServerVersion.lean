import SqlWire.Bytes
import SqlWire.Text.Digits

/-! # Server versions

A server names its version as text. The first three groups of digits count, as long as dots join
them; a group that is missing or too great for 32 bits is zero, and what follows is not looked at.
-/

namespace SqlWire

/-- A server's version and the text it was read from. -/
structure ServerVersion where
  major : Nat
  minor : Nat
  patch : Nat
  raw : String
deriving Repr, DecidableEq

namespace ServerVersion

/-- The number of one group: zero if it does not fit in 32 bits. -/
def component (digits : List Char) : Nat :=
  (Digits.numberBelow? (2 ^ 32) digits).getD 0

/-- The first `count` numbers of a text. -/
def components : Nat → List Char → List Nat
  | 0, _ => []
  | count + 1, text =>
    let (digits, rest) := text.span Char.isDigit
    component digits ::
      match digits, rest with
      | _ :: _, '.' :: next => components count next
      | _, _ => List.replicate count 0

/-- Reads a version; every text is one. -/
def parse (raw : String) : ServerVersion :=
  match components 3 raw.toList with
  | [major, minor, patch] => ⟨major, minor, patch, raw⟩
  | _ => ⟨0, 0, 0, raw⟩

/-- Whether a version is `major.minor.patch` or later. -/
def isAtLeast (v : ServerVersion) (major minor patch : Nat) : Bool :=
  decide (major < v.major) ||
    (v.major == major &&
      (decide (minor < v.minor) || (v.minor == minor && decide (patch ≤ v.patch))))

/-- Servers from 5.7.3 on can reset a connection without authenticating again. -/
def supportsReset (v : ServerVersion) : Bool := v.isAtLeast 5 7 3

/-- Servers from 5.5.3 on describe the parameters of routines. -/
def describesRoutines (v : ServerVersion) : Bool := v.isAtLeast 5 5 3

end ServerVersion

end SqlWire
