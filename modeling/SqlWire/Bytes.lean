import SqlWire.Number.Power

/-! # Byte strings

Everything on the wire is a list of bytes. Fixed-width integers are little-endian: this module
holds the two directions and the facts that tie them together.
-/

namespace SqlWire

/-- A byte string, first byte first. -/
abbrev Bytes := List UInt8

namespace LittleEndian

/-- The number denoted by a byte string whose first byte is the least significant. -/
def value : Bytes → Nat
  | [] => 0
  | b :: rest => b.toNat + 256 * value rest

/-- The `width` least significant bytes of a number; higher bytes are dropped. -/
def bytes : Nat → Nat → Bytes
  | 0, _ => []
  | width + 1, n => UInt8.ofNat n :: bytes width (n / 256)

@[simp] theorem length_bytes (width n : Nat) : (bytes width n).length = width := by
  induction width generalizing n with
  | zero => rfl
  | succ width ih => simp [bytes, ih]

theorem value_lt (bs : Bytes) : value bs < 256 ^ bs.length := by
  induction bs with
  | nil => simp [value]
  | cons b rest ih =>
    have := b.toNat_lt
    simp only [value, List.length_cons, Nat.pow_succ]
    omega

/-- Reading what was written gives the number reduced to the width. -/
theorem value_bytes (width n : Nat) : value (bytes width n) = n % 256 ^ width := by
  induction width generalizing n with
  | zero => simp [bytes, value, Nat.mod_one]
  | succ width ih =>
    have low : (UInt8.ofNat n).toNat = n % 256 := by simp
    rw [bytes, value, ih, low, Nat.pow_succ, Nat.mul_comm (256 ^ width) 256, Nat.mod_mul]

/-- Writing what was read gives the same bytes. -/
theorem bytes_value (bs : Bytes) : bytes bs.length (value bs) = bs := by
  induction bs with
  | nil => rfl
  | cons b rest ih =>
    have lt := b.toNat_lt
    have low : (b.toNat + 256 * value rest) / 256 = value rest := by omega
    simp only [List.length_cons, value, bytes, low, ih, List.cons.injEq, and_true]
    apply UInt8.toNat_inj.mp
    simp only [UInt8.toNat_ofNat']
    omega

end LittleEndian

end SqlWire
