import WebLogin.Authenticator.Kinds
import WebLogin.Carrier.Header
import WebLogin.Carrier.Stored
import WebLogin.Settings.Carriers

/-!
# The carrier of bearer tokens

The identifier of an authenticator in the store is the token. An update changes the record and
leaves the token as it is.
-/

namespace WebLogin

def bearerCarrier (settings : BearerSettings) : Carrier Unit String where
  name := .bearer
  expiry := settings.expiry
  idle := settings.idle
  imprint _ := ()
  inherit _ new := new
  locate request := request.findValue? settings.header settings.parts
  decode raw := do return (← Program.query (.find raw)).mapError .store
  belongs _ _ := true
  issue a := do
    match ← Stored.add a with
    | .error cause => return .error cause
    | .ok stored =>
      Program.emit (.initialized .bearer stored.id)
      return .ok stored.id
  reissue a := do return (← Stored.update a).map fun _ => none
  revoke id := Stored.remove id
  wrap _ raw := raw
  place := TokenHeader.place settings.header
  placeInRequest := TokenHeader.placeInRequest settings.header
  clear response := response.removeHeader settings.header

end WebLogin
