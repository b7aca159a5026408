import WebLogin.Carrier.Header
import WebLogin.Carrier.Stored
import WebLogin.Jwt.Codec

/-!
# The carrier of signed tokens

An authenticator travels as a signed token. With a store, a token counts only as long as the record
of its identifier is there, and the record is what a request gets; each update signs a new token.
-/

namespace WebLogin

/-- Signs an authenticator and then makes a call of the store, if there is one; a claim that may not
be signed is found before the call. -/
def JwtCodec.signThen (codec : JwtCodec) (settings : JwtSettings) (a : JwtAuthenticator)
    (call : Program JwtDetails (Except Cause Unit)) : Program JwtDetails (Except Cause String) := do
  match ← codec.encodeFresh settings a with
  | .error error => return .error (.codec error)
  | .ok token => return (← call).map fun () => token

/-- The carrier of signed tokens, with or without a store. -/
def jwtCarrier (settings : JwtSettings) (codec : JwtCodec) (stored : Bool) :
    Carrier JwtDetails String where
  name := .jwt
  expiry := settings.expiry
  idle := settings.idle
  imprint _ := ⟨none⟩
  inherit old new := ⟨old.claims <|> new.claims⟩
  locate request := request.findValue? settings.header settings.parts
  decode raw :=
    match codec.decode settings raw with
    | .error error => return .error (.codec error)
    | .ok a =>
      if stored then do return (← Program.query (.find a.id)).mapError .store
      else return .ok (some a)
  belongs _ _ := true
  issue a := do
    match ← codec.signThen settings a (Stored.when stored (Stored.keep a)) with
    | .error cause => return .error cause
    | .ok token =>
      Program.emit (.initialized .jwt a.id)
      return .ok token
  reissue a := do
    return (← codec.signThen settings a (Stored.when stored (Stored.update a))).map some
  revoke id := Stored.when stored (Stored.remove id)
  wrap _ raw := raw
  place := TokenHeader.place settings.header
  placeInRequest := TokenHeader.placeInRequest settings.header
  clear response := response.removeHeader settings.header

end WebLogin
