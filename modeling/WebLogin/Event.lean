import WebLogin.Carrier.Error
import WebLogin.State.Error

/-!
# Events

What the lifecycle and the state of a redirected login report while they work. An event names
identifiers and errors and never a login.
-/

namespace WebLogin

/-- How grave an event is. -/
inductive Level where
  | debug
  | info
  | warn
  | error
  deriving DecidableEq, Repr

def Level.text : Level → String
  | .debug => "DEBUG"
  | .info => "INFO"
  | .warn => "WARN"
  | .error => "ERROR"

/-- Something that happened. -/
inductive Event where
  | created (carrier : CarrierName) (id : String)
  | initialized (carrier : CarrierName) (id : String)
  | renewed (carrier : CarrierName) (previous id : String)
  | discarded (carrier : CarrierName) (id : String)
  | expired (carrier : CarrierName) (id : String)
  | fingerprintMismatch (carrier : CarrierName) (id : String)
  | undecodable (carrier : CarrierName) (error : CodecError)
  | lifecycleFailed (error : LifecycleError)
  | stateRejected (error : StateError)
  | csrfCookieMissing
  | csrfCookieUnverified (error : CodecError)
  | csrfTokenMismatch
  | redirecting (items : Nat)
  deriving DecidableEq, Repr

/-- The value of a field of an event. -/
inductive FieldValue where
  | text (s : String)
  | number (n : Nat)
  deriving DecidableEq, Repr

namespace Event

def level : Event → Level
  | created .. | initialized .. | renewed .. | discarded .. | expired .. => .debug
  | csrfCookieMissing | redirecting .. => .debug
  | fingerprintMismatch .. => .info
  | undecodable .. | stateRejected .. | csrfCookieUnverified .. | csrfTokenMismatch => .warn
  | lifecycleFailed .. => .error

def message : Event → String
  | created .. => "Authenticator created"
  | initialized .. => "Authenticator initialized"
  | renewed .. => "Authenticator renewed"
  | discarded .. => "Authenticator discarded"
  | expired .. => "Authenticator expired"
  | fingerprintMismatch .. => "Fingerprint mismatch, discarding authenticator"
  | undecodable .. => "Discarding undecodable authenticator"
  | lifecycleFailed .. => "Authenticator lifecycle error"
  | stateRejected .. => "Social state rejected"
  | csrfCookieMissing => "CSRF state cookie missing"
  | csrfCookieUnverified .. => "CSRF state cookie failed verification"
  | csrfTokenMismatch => "CSRF state token does not match its cookie"
  | redirecting .. => "Redirecting with social state"

/-- The fields of an event about an authenticator. -/
def about (carrier : CarrierName) (id : String) : List (String × FieldValue) :=
  [("carrier", .text carrier.text), ("authenticator_id", .text id)]

/-- The fields of the event with their names. -/
def fields : Event → List (String × FieldValue)
  | created carrier id | initialized carrier id | discarded carrier id => about carrier id
  | expired carrier id | fingerprintMismatch carrier id => about carrier id
  | renewed carrier previous id => about carrier id ++ [("previous_id", .text previous)]
  | undecodable carrier error => [("carrier", .text carrier.text), ("error", .text error.message)]
  | lifecycleFailed error =>
    [("carrier", .text error.carrier.text), ("phase", .text error.phase.text),
     ("cause", .text error.firstCause)]
  | stateRejected error => [("error", .text error.message)]
  | csrfCookieUnverified error => [("error", .text error.message)]
  | csrfCookieMissing | csrfTokenMismatch => []
  | redirecting items => [("items", .number items)]

end Event

end WebLogin
