/-! # Powers

The bounds of machine words and the places of digits are powers of two, of ten and of 256. They are
always the powers that the natural numbers and the integers come with: a library of algebra brings a
second instance for them, and a statement should be the same one with such a library and without it.
-/

namespace SqlWire

@[default_instance 20000]
instance (priority := 2000) powNat : Pow Nat Nat := instPowNat

instance (priority := 2000) powInt : Pow Int Nat := instPowNat

end SqlWire
