import WebLogin.Bytes.Hex
import WebLogin.Hash.Sha256
import WebLogin.Web.Request

/-!
# Fingerprints of clients

A fingerprint binds an authenticator to the client that obtained it: the digest of what the client
says of itself in three headers and, if asked for, of its address.
-/

namespace WebLogin.Fingerprint

/-- The headers that a fingerprint covers, in order. -/
def coveredHeaders : List HeaderName :=
  [⟨"user-agent", by decide⟩, ⟨"accept-language", by decide⟩, ⟨"accept-charset", by decide⟩]

/-- The text that is digested: each header's value, or nothing, with a colon after it, and then the
address, if it is asked for. -/
def coveredText (withAddress : Bool) (r : Request) : String :=
  let headers := coveredHeaders.map fun name => (r.header? name).getD "" ++ ":"
  String.join headers ++ if withAddress then r.clientAddress?.getD "" else ""

def ofRequest (withAddress : Bool) (r : Request) : String :=
  Hex.text (Sha256.digest (Utf8.bytes (coveredText withAddress r)))

end WebLogin.Fingerprint
