import SqlWire.Auth.Sha1
import SqlWire.Auth.Sha256

/-! # Challenge and response

A client proves that it knows a password by the digest of the password, masked by a digest of the
nonce and the digest of the digest. Who stores only the double digest can remove the mask and check
the rest. An empty password has the empty response.
-/

namespace SqlWire

namespace Scramble

/-- Two byte strings combined byte by byte, as far as both reach. -/
def mask (a b : Bytes) : Bytes := List.zipWith (· ^^^ ·) a b

/-- The response with SHA-1: the nonce comes before the double digest. -/
def native (password nonce : Bytes) : Bytes :=
  if password.isEmpty then []
  else
    let stored := Sha1.digest (Sha1.digest password)
    mask (Sha1.digest password) (Sha1.digest (nonce ++ stored))

/-- The response with SHA-256: the double digest comes before the nonce. -/
def cachingSha2 (password nonce : Bytes) : Bytes :=
  if password.isEmpty then []
  else
    let stored := Sha256.digest (Sha256.digest password)
    mask (Sha256.digest password) (Sha256.digest (stored ++ nonce))

/-- Whether a response is the one for the password. -/
def verifyNative (response password nonce : Bytes) : Bool := native password nonce == response

end Scramble

end SqlWire
