import WebLogin.Json.Form
import WebLogin.Signed.Crypter
import WebLogin.Signed.Signer

/-!
# Records as wire values

A record is written as JSON, hidden and signed. Reading takes the layers off in the opposite order
and reports the first that is wrong: the signature, then the encoding, then the form.
-/

namespace WebLogin

/-- A signer and a crypter. -/
structure SignedCodec where
  signer : Signer
  crypter : Crypter

namespace SignedCodec

/-- The wire value of a JSON text with given nonces. -/
def wire (c : SignedCodec) (sealing : Vector UInt8 Crypter.nonceSize) (signing : Vector UInt8 16)
    (json : String) : String :=
  c.signer.sign signing (c.crypter.encrypt sealing json)

/-- The JSON text of a wire value. -/
def unwire (c : SignedCodec) (raw : String) : Except CodecError String := do
  c.crypter.decrypt (← c.signer.extract raw)

/-- The record of a wire value. -/
def decode {α : Type} (c : SignedCodec) (form : Json.Form α) (raw : String) :
    Except CodecError α := do
  let json ← c.unwire raw
  match form.parse? json with
  | some a => return a
  | none => throw (.invalidFormat .json)

/-- The wire value of a record, with fresh nonces. -/
def encodeFresh {α δ : Type} (c : SignedCodec) (form : Json.Form α) (a : α) : Program δ String := do
  c.signer.signFresh (← c.crypter.encryptFresh (form.render a))

/-- The codec for readers of logs. -/
def description : String := Text.describe "SignedJsonCodec" [Text.more]

end SignedCodec

end WebLogin
