import WebLogin.Authenticator.Kinds
import WebLogin.Hash.Hmac
import WebLogin.Jwt.Claims
import WebLogin.Jwt.Header
import WebLogin.Settings.Carriers
import WebLogin.Signed.Crypter

/-!
# Authenticators as signed tokens

A token has three parts in Base64 with dots between them: a header, the claims, and the tag of the
two. The time of last use and the expiry are claims in whole seconds, and the login is the subject,
encrypted unless the settings say otherwise. The tag is checked before any part is read, and the
idle timeout comes from the settings.
-/

namespace WebLogin

/-- A secret that is long enough, and a crypter for the subject. -/
structure JwtCodec where
  secret : List UInt8
  crypter : Crypter
  long : leastKeyLength ≤ secret.length

namespace JwtCodec

def ofSecret (secret : List UInt8) (crypter : Crypter) : Except ConfigError JwtCodec :=
  if long : leastKeyLength ≤ secret.length then .ok ⟨secret, crypter, long⟩
  else .error (.shortTokenSecret secret.length)

/-! ## Tokens -/

def encodePart (text : String) : List Char := Base64.encode .urlSafe (Utf8.bytes text)

/-- The tag of a text, as the last part of a token. -/
def signature (c : JwtCodec) (text : List Char) : List Char :=
  Base64.encode .urlSafe (Hmac.tag c.secret (Utf8.encode text))

def token (c : JwtCodec) (claims : Jwt.Claims) : String :=
  let text := encodePart Jwt.header.render ++ '.' :: encodePart claims.json.render
  String.ofList (text ++ '.' :: c.signature text)

/-- The JSON of a part of a token. -/
def readPart (part : List Char) : Except CodecError Json.Tree :=
  match Base64.decode .urlSafe (Utf8.encode part) with
  | .error fault => .error (.invalidEncoding (.tokenBase64 fault))
  | .ok bytes =>
    match Json.Tree.ofBytes? bytes with
    | some tree => .ok tree
    | none => .error (.invalidFormat .tokenJson)

/-- The claims of a header and claims with a dot between them. -/
def readClaims (text : List Char) (issuer : String) : Except CodecError Jwt.Claims :=
  match Text.cutLast? '.' text with
  | none => .error (.invalidFormat .tokenParts)
  | some (header, payload) => do
    match Jwt.algorithmOf? (← readPart header) with
    | none => throw (.invalidFormat .tokenJson)
    | some name => if name ≠ Jwt.algorithm then throw (.invalidFormat .tokenAlgorithm)
    match Jwt.Claims.ofTree? (← readPart payload) with
    | none => throw (.invalidFormat .tokenJson)
    | some claims =>
      if claims.expires < 0 then throw (.invalidFormat (.tokenClaim "exp"))
      if claims.issuer ≠ issuer then throw (.invalidFormat .tokenIssuer)
      return claims

/-- The claims of a token that is signed with the secret. -/
def verify (c : JwtCodec) (token : String) (issuer : String) : Except CodecError Jwt.Claims :=
  match Text.cutLast? '.' token.toList with
  | some (text, signature) =>
    if signature = c.signature text then readClaims text issuer else .error .invalidSignature
  | none => .error .invalidSignature

/-! ## Authenticators -/

/-- The subject of a login, coded or with a fresh nonce encrypted. -/
def subjectFresh {δ : Type} (c : JwtCodec) (encrypted : Bool) (login : Login) :
    Program δ String :=
  let hide := if encrypted then c.crypter else .plain
  hide.encryptFresh (Json.Form.login.render login)

def loginOf (c : JwtCodec) (encrypted : Bool) (subject : String) : Except CodecError Login := do
  let hide := if encrypted then c.crypter else .plain
  match Json.Form.login.parse? (← hide.decrypt subject) with
  | some login => return login
  | none => throw (.invalidFormat .json)

/-- The claims of an authenticator with a subject. -/
def claimsOf (settings : JwtSettings) (a : JwtAuthenticator) (subject : String) : Jwt.Claims where
  id := a.id
  issuer := settings.issuer
  subject := subject
  issuedAt := a.lastUsed.seconds
  expires := a.expires.seconds
  custom := a.details.claims.getD .empty

/-- The first reserved name that the host's claims use. -/
def clash? (a : JwtAuthenticator) : Option String :=
  Jwt.reservedNames.find? fun name => (a.details.claims.getD .empty).contains name

/-- The token of an authenticator, with a fresh nonce. A clash of names is found before a random
byte is drawn. -/
def encodeFresh {δ : Type} (c : JwtCodec) (settings : JwtSettings) (a : JwtAuthenticator) :
    Program δ (Except CodecError String) :=
  match clash? a with
  | some name => return .error (.reservedClaim name)
  | none => do
    let subject ← c.subjectFresh settings.encryptSubject a.login
    return .ok (c.token (claimsOf settings a subject))

def instantOf (seconds : Int) : Except CodecError Instant :=
  match Instant.ofSeconds? seconds with
  | some t => .ok t
  | none => .error (.invalidFormat .timestamp)

def decode (c : JwtCodec) (settings : JwtSettings) (token : String) :
    Except CodecError JwtAuthenticator := do
  let claims ← c.verify token settings.issuer
  let login ← c.loginOf settings.encryptSubject claims.subject
  let lastUsed ← instantOf claims.issuedAt
  let expires ← instantOf claims.expires
  return {
    id := claims.id, login, lastUsed, expires, idle := settings.idle
    details := ⟨if claims.custom.isEmpty then none else some claims.custom⟩ }

/-- The codec for readers of logs, without its secret. -/
def description : String := Text.describe "JwtCodec" [Text.hidden "secret", Text.more]

end JwtCodec

end WebLogin
