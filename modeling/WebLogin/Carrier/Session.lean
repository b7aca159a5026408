import WebLogin.Authenticator.Kinds
import WebLogin.Carrier.Basic
import WebLogin.Settings.Carriers
import WebLogin.Signed.Codec

/-!
# The session carrier

An authenticator travels as a signed record in the session that the host keeps for the client.
-/

namespace WebLogin

/-- The carrier in the host's session, with a way to take fingerprints. -/
def sessionCarrier (settings : SessionSettings) (codec : SignedCodec)
    (fingerprint : Request → String) : Carrier SessionDetails String where
  name := .session
  expiry := settings.expiry
  idle := settings.idle
  imprint request := ⟨if settings.fingerprinting then some (fingerprint request) else none⟩
  inherit _ new := new
  locate request := request.sessionValue? settings.key
  decode raw :=
    return ((codec.decode Json.Form.sessionAuthenticator raw).map some).mapError .codec
  belongs request a :=
    !settings.fingerprinting || a.details.fingerprint == some (fingerprint request)
  issue a := do return .ok (← codec.encodeFresh Json.Form.sessionAuthenticator a)
  reissue a := do return .ok (some (← codec.encodeFresh Json.Form.sessionAuthenticator a))
  revoke _ := return .ok ()
  wrap _ raw := raw
  place value response := .ok (response.setSessionValue settings.key value)
  placeInRequest value request := .ok (request.withSessionValue settings.key value)
  clear response := response.removeSessionValue settings.key

end WebLogin
