import WebLogin.Authenticator.Kinds
import WebLogin.Carrier.Basic
import WebLogin.Carrier.Stored
import WebLogin.Settings.Carriers
import WebLogin.Signed.Codec

/-!
# The cookie carrier

An authenticator travels in a cookie, either as the key of a record in the store or as the signed
record itself. In a store an update changes the record and leaves the cookie alone; without one the
cookie is sent anew, and nothing can be revoked.
-/

namespace WebLogin

/-- Where the authenticators of the cookie carrier are kept. -/
inductive CookieKeeping where
  /-- In the store, under their identifiers. -/
  | storeBacked
  /-- In the cookie itself. -/
  | selfContained (codec : SignedCodec)

/-- The name of a way of keeping. -/
def CookieKeeping.text : CookieKeeping → String
  | .storeBacked => "StoreBacked"
  | .selfContained _ => "SelfContained"

namespace CookieKeeping

/-- The authenticator of a wire value. -/
def decode (raw : String) :
    CookieKeeping → Program CookieDetails (Except DecodeFault (Option CookieAuthenticator))
  | storeBacked => do return (← Program.query (.find raw)).mapError .store
  | selfContained codec =>
    return ((codec.decode Json.Form.cookieAuthenticator raw).map some).mapError .codec

/-- The wire value of a new authenticator. -/
def encode (a : CookieAuthenticator) :
    CookieKeeping → Program CookieDetails (Except Cause String)
  | storeBacked => do return (← Stored.add a).map (·.id)
  | selfContained codec => do return .ok (← codec.encodeFresh Json.Form.cookieAuthenticator a)

/-- Keeps a changed authenticator; gives a wire value if that changed. -/
def write (a : CookieAuthenticator) :
    CookieKeeping → Program CookieDetails (Except Cause (Option String))
  | storeBacked => do return (← Stored.update a).map fun _ => none
  | selfContained codec => do
    return .ok (some (← codec.encodeFresh Json.Form.cookieAuthenticator a))

def revoke (id : String) : CookieKeeping → Program CookieDetails (Except Cause Unit)
  | storeBacked => Stored.remove id
  | selfContained _ => return .ok ()

end CookieKeeping

/-- The carrier in a cookie, with a way to take fingerprints. -/
def cookieCarrier (settings : CookieSettings) (keeping : CookieKeeping)
    (fingerprint : Request → String) : Carrier CookieDetails Cookie where
  name := .cookie
  expiry := settings.expiry
  idle := settings.idle
  imprint request :=
    ⟨settings.maxAge, if settings.fingerprinting then some (fingerprint request) else none⟩
  inherit _ new := new
  locate request := request.cookie? settings.cookie.name
  decode raw := keeping.decode raw
  belongs request a :=
    !settings.fingerprinting || a.details.fingerprint == some (fingerprint request)
  issue a := do
    match ← keeping.encode a with
    | .error cause => return .error cause
    | .ok raw =>
      Program.emit (.initialized .cookie a.id)
      return .ok raw
  reissue a := keeping.write a
  revoke id := keeping.revoke id
  wrap a raw := settings.cookie.cookie a.details.maxAge raw
  place value response := .ok (response.setCookie value)
  placeInRequest value request := .ok (request.withCookie value.name value.value)
  clear response := response.removeCookie settings.cookie.removal

end WebLogin
