import WebLogin.Bytes.Hex
import WebLogin.CodecError
import WebLogin.Hash.Hmac
import WebLogin.Program
import WebLogin.Settings.Error
import WebLogin.Text.Quoted
import WebLogin.Text.Split

/-!
# Signed messages

A message is `1-<tag>-<nonce>-<data>`: the tag is keyed and covers nonce and data between two copies
of a pepper, and the nonce makes two messages of the same data differ. `Signer.extract` gives the
data back only if the tag is right.
-/

namespace WebLogin

/-- A key that is long enough, and a pepper. -/
structure Signer where
  key : List UInt8
  pepper : String
  long : leastKeyLength ≤ key.length

namespace Signer

/-- The version in front of every message. -/
def version : String := "1"

/-- The pepper if no other is chosen. -/
def defaultPepper : String := "-authwright-signer-"

def ofKey (key : List UInt8) (pepper : String := defaultPepper) : Except ConfigError Signer :=
  if long : leastKeyLength ≤ key.length then .ok ⟨key, pepper, long⟩
  else .error (.shortSigningKey key.length)

/-- The text that a tag covers. -/
def covered (s : Signer) (nonce data : String) : String :=
  s.pepper ++ nonce ++ "-" ++ data ++ s.pepper

/-- The tag of a nonce and some data, in hexadecimal. -/
def tag (s : Signer) (nonce data : String) : String :=
  Hex.text (Hmac.tag s.key (Utf8.bytes (s.covered nonce data)))

/-- The message of some data with a nonce. -/
def message (s : Signer) (nonce data : String) : String :=
  version ++ "-" ++ s.tag nonce data ++ "-" ++ nonce ++ "-" ++ data

/-- The message of some data with the bytes of a nonce. -/
def sign (s : Signer) (nonce : Vector UInt8 16) (data : String) : String :=
  s.message (Hex.text nonce.toList) data

def extract (s : Signer) (message : String) : Except CodecError String :=
  match (Text.splitAtMost '-' 3 message.toList).map String.ofList with
  | [v, tag, nonce, data] =>
    if v = version ∧ tag = s.tag nonce data then .ok data else .error .invalidSignature
  | _ => .error .invalidSignature

/-- Signs some data with a fresh nonce. -/
def signFresh {δ : Type} (s : Signer) (data : String) : Program δ String := do
  let nonce ← Program.query (.randomBytes 16)
  return s.sign nonce data

/-- The signer for readers of logs, without its key. -/
def description (s : Signer) : String :=
  Text.describe "HmacSigner" [Text.hidden "key", "pepper: " ++ Text.quote s.pepper]

end Signer

end WebLogin
