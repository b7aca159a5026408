import WebLogin.Carrier.Bearer
import WebLogin.Carrier.Cookie
import WebLogin.Carrier.Jwt
import WebLogin.Carrier.Session
import WebLogin.State.Login
import WebLogin.Surroundings
import WebLogin.Web.Fingerprint
import WebLogin.Proofs.Lifecycle.Login
import WebLogin.Proofs.Lifecycle.Renewal
import WebLogin.Proofs.Lifecycle.Revocation
import WebLogin.Proofs.Lifecycle.Soundness
import WebLogin.Proofs.Lifecycle.Update
import WebLogin.Proofs.Lifecycle.Identity
import WebLogin.Proofs.Lifecycle.Client
import WebLogin.Proofs.Lifecycle.Idle
import WebLogin.Proofs.Lifecycle.Keepings
import WebLogin.Proofs.Text.Form
import WebLogin.Proofs.Json.Value
import WebLogin.Proofs.State.Fragment
import WebLogin.Proofs.State.Decoding
import WebLogin.Proofs.State.Handler
import WebLogin.Proofs.State.Redirect
import WebLogin.Proofs.State.Callback
import WebLogin.Proofs.Json.Front
import WebLogin.Proofs.State.Separation
import WebLogin.Proofs.Signed.Tampering
import WebLogin.Proofs.Signed.RoundTrip
import WebLogin.Proofs.Jwt.RoundTrip
import WebLogin.Proofs.Jwt.Tampering
import WebLogin.Proofs.Jwt.Subject
import WebLogin.Proofs.Lifecycle.Embedding
import WebLogin.Proofs.Lifecycle.Failure
import WebLogin.Proofs.Lifecycle.Reissue
import WebLogin.Proofs.Signed.Decryption
import WebLogin.Proofs.Authenticator.Rounds
import WebLogin.Proofs.Web.Fingerprint
import WebLogin.Proofs.Lifecycle.Discard
import WebLogin.Proofs.Web.Cookie
import WebLogin.Proofs.Web.Edits
import WebLogin.Proofs.Web.Rendering
import WebLogin.Proofs.Web.Return
import WebLogin.Proofs.Number.Integer
import WebLogin.Proofs.Settings.Environment
import WebLogin.Proofs.Settings.Reading
import WebLogin.Proofs.Lifecycle.Creation
import WebLogin.Proofs.Lifecycle.Anonymity
