import WebLogin.Bytes.Words

/-!
# Poly1305

The one-time tag of a message: its blocks of sixteen bytes are the coefficients of a polynomial,
which is evaluated modulo `2 ^ 130 - 5` at a point that the key gives.
-/

namespace WebLogin.Poly1305

open Bytes

/-- The prime modulus. -/
def modulus : Nat := 0x3fffffffffffffffffffffffffffffffb

/-- The bits that the evaluation point keeps of the first half of the key. -/
def clamp : Nat := 0x0ffffffc0ffffffc0ffffffc0fffffff

/-- The coefficient of a block: its number, with a one above its last byte. -/
def coefficient (block : List UInt8) : Nat := natLE (block ++ [1])

/-- The 16-byte tag of a message under a one-time key of 32 bytes. -/
def tag (key message : List UInt8) : List UInt8 :=
  let point := natLE (key.take 16) &&& clamp
  let shift := natLE ((key.drop 16).take 16)
  let value := (chunks 16 message).foldl (fun acc b => (acc + coefficient b) * point % modulus) 0
  bytesOfNat 16 (value + shift)

@[simp] theorem length_tag (key message : List UInt8) : (tag key message).length = 16 := by
  simp [tag]

end WebLogin.Poly1305
