import Mathlib.Data.List.Basic
import SqlWire.Auth.Scramble

/-! # What a response proves

A response is the digest of a password under a mask that a server can make from its nonce and from the
digest of the digest. To mask twice changes nothing as long as both byte strings are of one length, so
that a server which stores only the double digest finds the digest under the mask and can check it
(`isRecovered_mask`). That holds for both plugins, though one of them hashes the nonce first and the
other one last, and no other response of the same length unmasks to the same digest.
-/

namespace SqlWire

namespace Scramble

theorem length_mask {a b : Bytes} (same : a.length = b.length) : (mask a b).length = a.length := by
  simp [mask, same]

/-- What is masked twice is as it was. -/
theorem mask_mask {a b : Bytes} (same : a.length = b.length) : mask (mask a b) b = a := by
  apply List.ext_getElem
  · rw [length_mask ((length_mask same).trans same), length_mask same]
  · intro i _ _
    simp only [mask, List.getElem_zipWith, UInt8.xor_assoc, UInt8.xor_self, UInt8.xor_zero]

/-- Under a mask of its own length a byte string stands for one other. -/
theorem mask_eq_iff {a b cover : Bytes} (left : a.length = cover.length)
    (right : b.length = cover.length) : mask a cover = b ↔ a = mask b cover := by
  constructor
  · rintro rfl
    exact (mask_mask left).symm
  · rintro rfl
    exact mask_mask right

/-- Whether a response under a mask proves a password to a server that stores the double digest of it:
it is of the size of a digest, and of all byte strings of that size it is the one that unmasks to the
digest of the password, of which the server knows the digest. -/
structure IsRecovered (digest : Bytes → Bytes) (size : Nat) (password cover response : Bytes) :
    Prop where
  length : response.length = size
  recovered : mask response cover = digest password
  checked : digest (mask response cover) = digest (digest password)
  only : ∀ other : Bytes, other.length = size → mask other cover = digest password → other = response

theorem isRecovered_mask {digest : Bytes → Bytes} {size : Nat}
    (sized : ∀ message, (digest message).length = size) (password : Bytes) {cover : Bytes}
    (covers : cover.length = size) :
    IsRecovered digest size password cover (mask (digest password) cover) := by
  have same : (digest password).length = cover.length := (sized password).trans covers.symm
  have recovered := mask_mask same
  refine ⟨(length_mask same).trans (sized password), recovered, congrArg digest recovered, ?_⟩
  intro other long unmasked
  exact (mask_eq_iff (long.trans covers.symm) same).mp unmasked

theorem native_eq {password : Bytes} (some : password ≠ []) (nonce : Bytes) :
    native password nonce = mask (Sha1.digest password)
      (Sha1.digest (nonce ++ Sha1.digest (Sha1.digest password))) := by
  simp [native, some]

theorem cachingSha2_eq {password : Bytes} (some : password ≠ []) (nonce : Bytes) :
    cachingSha2 password nonce = mask (Sha256.digest password)
      (Sha256.digest (Sha256.digest (Sha256.digest password) ++ nonce)) := by
  simp [cachingSha2, some]

/-- Whatever the nonce is: both responses for a password prove it to a server that stores its double
digest, the one with SHA-1 under the digest of the nonce and what is stored, the other one under that
of what is stored and the nonce. The check against the password itself accepts the response with SHA-1
and nothing else, which is empty for the empty password. -/
theorem responses_recovered (password nonce : Bytes) :
    (password ≠ [] →
      IsRecovered Sha1.digest 20 password
          (Sha1.digest (nonce ++ Sha1.digest (Sha1.digest password))) (native password nonce) ∧
        IsRecovered Sha256.digest 32 password
          (Sha256.digest (Sha256.digest (Sha256.digest password) ++ nonce))
          (cachingSha2 password nonce)) ∧
      (∀ response, verifyNative response password nonce = true ↔
        response = native password nonce) ∧
      (password = [] → native password nonce = []) := by
  refine ⟨?_, ?_, ?_⟩
  · intro some
    rw [native_eq some, cachingSha2_eq some]
    exact ⟨isRecovered_mask Sha1.length_digest password (Sha1.length_digest _),
      isRecovered_mask Sha256.length_digest password (Sha256.length_digest _)⟩
  · intro response
    rw [verifyNative, beq_iff_eq, eq_comm]
  · rintro rfl
    rfl

/-- A nonce of any length will do, and no response is none of a password that is not empty. -/
theorem responses_recovered_shortNonce :
    ([0x70, 0x77] : Bytes) ≠ [] ∧
      IsRecovered Sha1.digest 20 [0x70, 0x77]
        (Sha1.digest ([1, 2, 3] ++ Sha1.digest (Sha1.digest [0x70, 0x77])))
        (native [0x70, 0x77] [1, 2, 3]) ∧
      IsRecovered Sha256.digest 32 [0x70, 0x77]
        (Sha256.digest (Sha256.digest (Sha256.digest [0x70, 0x77]) ++ [1, 2, 3]))
        (cachingSha2 [0x70, 0x77] [1, 2, 3]) ∧
      verifyNative [] [0x70, 0x77] [1, 2, 3] = false := by
  have some : ([0x70, 0x77] : Bytes) ≠ [] := by decide
  obtain ⟨proves, verified, -⟩ := responses_recovered [0x70, 0x77] [1, 2, 3]
  obtain ⟨first, second⟩ := proves some
  refine ⟨some, first, second, Bool.eq_false_iff.mpr fun accepted => ?_⟩
  have long := first.length
  rw [← (verified []).mp accepted] at long
  cases long

end Scramble

end SqlWire
