import WebLogin.Cipher.ChaCha20
import WebLogin.Cipher.Poly1305

/-!
# Authenticated encryption with ChaCha20 and Poly1305

`sealText` encrypts a message and appends the tag of the ciphertext; `unseal?` gives the message
back only if the tag is right. There is no associated data.
-/

namespace WebLogin.Aead

open Bytes

/-- The one-time tag key: the first half of block 0 of the stream. -/
def tagKey (key nonce : List UInt8) : List UInt8 := (ChaCha20.block key nonce 0).take 32

/-- The tag of a ciphertext: it is padded to sixteen bytes and followed by the two lengths. -/
def tag (key nonce ciphertext : List UInt8) : List UInt8 :=
  let zeros := List.replicate ((16 - ciphertext.length % 16) % 16) 0
  Poly1305.tag (tagKey key nonce)
    (ciphertext ++ zeros ++ bytesOfNat 8 0 ++ bytesOfNat 8 ciphertext.length)

/-- The ciphertext of a message, followed by its tag. -/
def sealText (key nonce message : List UInt8) : List UInt8 :=
  let ciphertext := ChaCha20.apply key nonce message
  ciphertext ++ tag key nonce ciphertext

/-- The message of a sealed text; none if the text is shorter than a tag or its tag is wrong. -/
def unseal? (key nonce sealed : List UInt8) : Option (List UInt8) :=
  if sealed.length < 16 then none
  else
    let ciphertext := sealed.take (sealed.length - 16)
    if sealed.drop (sealed.length - 16) = tag key nonce ciphertext then
      some (ChaCha20.apply key nonce ciphertext)
    else none

@[simp] theorem length_tag (key nonce ciphertext : List UInt8) :
    (tag key nonce ciphertext).length = 16 := by
  simp [tag]

end WebLogin.Aead
