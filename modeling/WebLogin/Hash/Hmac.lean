import WebLogin.Hash.Sha256

/-!
# HMAC-SHA256

The keyed tag of a message: the key, padded to a block, is mixed with two fixed bytes, and the
message is hashed inside the two.
-/

namespace WebLogin.Hmac

/-- The key as a block of 64 bytes; a longer key is hashed first. -/
def keyBlock (key : List UInt8) : List UInt8 :=
  let short := if key.length > 64 then Sha256.digest key else key
  short ++ List.replicate (64 - short.length) 0

/-- The 32-byte tag of a message under a key. -/
def tag (key message : List UInt8) : List UInt8 :=
  let block := keyBlock key
  let inner := Sha256.digest (block.map (· ^^^ 0x36) ++ message)
  Sha256.digest (block.map (· ^^^ 0x5c) ++ inner)

@[simp] theorem length_tag (key message : List UInt8) : (tag key message).length = 32 := rfl

end WebLogin.Hmac
