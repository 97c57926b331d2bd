import SqlWire.Wire.Flags

/-! # Sets of capabilities

The capabilities in both of two sets, in either and in those that have a name, told apart by the flags
that they contain. A set that is sent is read as its capabilities that have a name.
-/

namespace SqlWire.Capabilities

variable {a b c : Capabilities}

theorem contains_iff : a.contains b = true ↔ a.bits &&& b.bits = b.bits := by
  rw [contains, beq_iff_eq]

theorem contains_trans (ab : a.contains b = true) (bc : b.contains c = true) :
    a.contains c = true := by
  rw [contains_iff] at *
  rw [← bc, ← UInt32.and_assoc, ab]

theorem contains_inter_left : a.contains (a.inter b) = true := by
  rw [contains_iff, inter, ← UInt32.and_assoc, UInt32.and_self]

theorem contains_inter_right : b.contains (a.inter b) = true := by
  rw [contains_iff, inter, UInt32.and_comm a.bits, ← UInt32.and_assoc, UInt32.and_self]

/-- Both sets contain what the set of their common capabilities contains. -/
theorem inter_contains : (a.inter b).contains c = (a.contains c && b.contains c) := by
  rw [Bool.eq_iff_iff, Bool.and_eq_true]
  constructor
  · intro both
    exact ⟨contains_trans contains_inter_left both, contains_trans contains_inter_right both⟩
  · rintro ⟨inA, inB⟩
    rw [contains_iff] at *
    rw [inter, UInt32.and_assoc, inB, inA]

/-- What is in both of two sets where one of them is a union. -/
theorem and_union (a b c : Capabilities) :
    a.bits &&& (b.union c).bits = a.bits &&& b.bits ||| a.bits &&& c.bits := by
  rw [union, ← UInt32.toBitVec_inj]
  simp only [UInt32.toBitVec_and, UInt32.toBitVec_or, BitVec.and_or_distrib_left]

theorem contains_union (ab : a.contains b = true) (ac : a.contains c = true) :
    a.contains (b.union c) = true := by
  rw [contains_iff] at *
  rw [and_union, ab, ac, union]

theorem union_contains_right : (a.union b).contains b = true := by
  rw [contains_iff, union, ← UInt32.toBitVec_inj]
  ext i
  simp only [UInt32.toBitVec_and, UInt32.toBitVec_or, BitVec.getElem_and, BitVec.getElem_or]
  cases b.bits.toBitVec[i] <;> simp

/-- What is added does not matter to a flag that is not among it. -/
theorem union_contains_of_apart (apart : c.bits &&& b.bits = 0) :
    (a.union b).contains c = a.contains c := by
  rw [contains, contains, UInt32.and_comm, and_union, apart, UInt32.or_zero, UInt32.and_comm]

/-- A set whose capabilities all have a name is read as it is. -/
theorem ofBits_of_defined (named : defined.contains a = true) : ofBits a.bits = a := by
  rw [contains_iff] at named
  rw [ofBits, inter, UInt32.and_comm, named]

/-- A set that was read has a flag with a name exactly if the set that was written has it. -/
theorem contains_ofBits (flag : Capabilities) (named : defined.contains flag = true)
    (c : Capabilities) : (ofBits c.bits).contains flag = c.contains flag := by
  rw [ofBits, inter_contains, named, Bool.and_true]

end SqlWire.Capabilities
