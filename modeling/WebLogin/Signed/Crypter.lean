import WebLogin.Cipher.Aead
import WebLogin.CodecError
import WebLogin.Hash.Sha256
import WebLogin.Program
import WebLogin.Text.Quoted

/-!
# Encrypted text

A text is written so that it can stand in a wire value: either only coded, or encrypted with
authentication, as `1-` and the coded nonce and ciphertext. The key of the cipher is the digest of a
secret, so that a secret may have any length.
-/

namespace WebLogin

/-- How a text is hidden. -/
inductive Crypter where
  /-- The text is coded and not encrypted. -/
  | plain
  /-- The text is encrypted under a key of 32 bytes. -/
  | sealed (key : List UInt8)
  deriving DecidableEq

namespace Crypter

def ofSecret (secret : List UInt8) : Crypter := .sealed (Sha256.digest secret)

/-- The number of bytes of a nonce. -/
abbrev nonceSize : Nat := 12

/-- The version in front of every encrypted text. -/
def version : List Char := ['1', '-']

/-- The hidden form of a text. Without encryption the nonce is not used. The cipher numbers its blocks of
64 bytes in 32 bits and refuses a text of about 256 GiB or more; that limit is left out, so every text has a
hidden form here. -/
def encrypt (c : Crypter) (nonce : Vector UInt8 nonceSize) (text : String) : String :=
  match c with
  | .plain => Base64.text .urlSafe (Utf8.bytes text)
  | .sealed key =>
    let ciphertext := Aead.sealText key nonce.toList (Utf8.bytes text)
    String.ofList version ++ Base64.text .urlSafe (nonce.toList ++ ciphertext)

def textOfBytes (bytes : List UInt8) : Except EncodingFault String :=
  match Utf8.decode bytes with
  | .ok text => .ok (String.ofList text)
  | .error fault => .error (.utf8 fault)

/-- The bytes of a coded text. -/
def bytesOfText (text : List Char) : Except EncodingFault (List UInt8) :=
  match Base64.decode .urlSafe (Utf8.encode text) with
  | .ok bytes => .ok bytes
  | .error fault => .error (.base64 fault)

/-- The text of a coded text. -/
def decodePlain (text : String) : Except EncodingFault String := do
  textOfBytes (← bytesOfText text.toList)

/-- The text of an encrypted text. -/
def decodeSealed (key : List UInt8) (text : String) : Except EncodingFault String :=
  match text.toList with
  | '1' :: '-' :: coded => do
    let bytes ← bytesOfText coded
    if bytes.length < nonceSize then throw .tooShort
    match Aead.unseal? key (bytes.take nonceSize) (bytes.drop nonceSize) with
    | none => throw .undecryptable
    | some message => textOfBytes message
  | _ => .error .unknownVersion

/-- The text of a hidden form. -/
def decrypt (c : Crypter) (text : String) : Except CodecError String :=
  let read :=
    match c with
    | .plain => decodePlain text
    | .sealed key => decodeSealed key text
  match read with
  | .ok text => .ok text
  | .error fault => .error (.invalidEncoding fault)

/-- Hides a text, with a fresh nonce if one is needed. -/
def encryptFresh {δ : Type} (c : Crypter) (text : String) : Program δ String :=
  match c with
  | .plain => pure (c.encrypt (Vector.replicate nonceSize 0) text)
  | .sealed _ => do
    let nonce ← Program.query (.randomBytes nonceSize)
    return c.encrypt nonce text

/-- The crypter for readers of logs, without its key. -/
def description : Crypter → String
  | plain => "Base64Crypter"
  | .sealed _ => Text.describe "ChaChaCrypter" [Text.hidden "key"]

end Crypter

end WebLogin
