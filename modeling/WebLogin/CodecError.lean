import WebLogin.Bytes.Base64
import WebLogin.Json.Writer

/-!
# Why a wire value is refused

A wire value is made in layers, and each layer has its own way of being wrong: the signature, the
encoding of bytes as text, and the form of the text inside. The wording of all of them is here.
-/

namespace WebLogin

/-- What is wrong with the encoding of bytes as text, or with the encryption. -/
inductive EncodingFault where
  | unknownVersion
  | base64 (fault : Base64.Fault)
  /-- Base64 of a part of a token. -/
  | tokenBase64 (fault : Base64.Fault)
  | utf8 (fault : Utf8.Fault)
  /-- There is no room for a nonce. -/
  | tooShort
  /-- The tag of the ciphertext is wrong. -/
  | undecryptable
  /-- A fault of a host's own codec, in its words. -/
  | described (text : String)
  deriving DecidableEq, Repr

def EncodingFault.message : EncodingFault → String
  | .unknownVersion => "unknown crypter version"
  | .base64 fault => fault.message
  | .tokenBase64 fault => "Base64 error: " ++ fault.message
  | .utf8 fault => fault.message
  | .tooShort => "ciphertext too short"
  | .undecryptable => "decryption failed"
  | .described text => text

/-- What is wrong with the form of a text. Where JSON cannot be read, `<json>` stands for the words
of its reader. -/
inductive FormatFault where
  | json
  | write (fault : Json.WriteFault)
  /-- A token without its three parts. -/
  | tokenParts
  /-- A token for another algorithm. -/
  | tokenAlgorithm
  /-- JSON of a part of a token. -/
  | tokenJson
  /-- A token without a claim that it needs. -/
  | tokenClaim (name : String)
  /-- A token of another issuer. -/
  | tokenIssuer
  /-- Seconds outside the range of instants. -/
  | timestamp
  /-- A fault of a host's own codec, in its words. -/
  | described (text : String)
  deriving DecidableEq, Repr

/-- The wording for JSON that cannot be read. It stands for the words of the reader of JSON, which say what
it expected and at which place of the text, and which are left out. -/
def jsonMessage : String := "<json>"

def FormatFault.message : FormatFault → String
  | .json => jsonMessage
  | .write fault => fault.message
  | .tokenParts => "InvalidToken"
  | .tokenAlgorithm => "InvalidAlgorithm"
  | .tokenJson => "JSON error: " ++ jsonMessage
  | .tokenClaim name => "Missing required claim: " ++ name
  | .tokenIssuer => "InvalidIssuer"
  | .timestamp => "timestamp was not in range"
  | .described text => text

/-- Why a wire value cannot be read or made. -/
inductive CodecError where
  | invalidSignature
  | invalidEncoding (fault : EncodingFault)
  | invalidFormat (fault : FormatFault)
  /-- A custom claim takes the name of a claim that the token needs for itself. -/
  | reservedClaim (name : String)
  deriving DecidableEq, Repr

def CodecError.message : CodecError → String
  | .invalidSignature => "invalid signature"
  | .invalidEncoding fault => "invalid encoding: " ++ fault.message
  | .invalidFormat fault => "invalid format: " ++ fault.message
  | .reservedClaim name => "custom claim `" ++ name ++ "` overrides a reserved claim"

end WebLogin
