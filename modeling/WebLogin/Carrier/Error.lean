import WebLogin.CodecError
import WebLogin.Time.Duration
import WebLogin.Web.Response

/-!
# Why a step of the lifecycle fails

An error names the carrier and the phase and keeps its cause; an error of a renewal may hold the
error of a step inside it. To the outside every such error looks the same.
-/

namespace WebLogin

/-- The kinds of carrier. -/
inductive CarrierName where
  | cookie
  | session
  | bearer
  | jwt
  deriving DecidableEq, Repr

/-- The identifier of a carrier in errors and logs. -/
def CarrierName.text : CarrierName → String
  | .cookie => "cookie-authenticator"
  | .session => "session-authenticator"
  | .bearer => "bearer-token-authenticator"
  | .jwt => "jwt-authenticator"

/-- The phases of the lifecycle. -/
inductive Phase where
  | creation
  | retrieval
  | initialization
  | update
  | renewal
  | discard
  deriving DecidableEq, Repr

/-- The verb of a phase. -/
def Phase.text : Phase → String
  | .creation => "create"
  | .retrieval => "retrieve"
  | .initialization => "initialize"
  | .update => "update"
  | .renewal => "renew"
  | .discard => "discard"

/-- Why a store refuses a call. -/
inductive StoreFault where
  | unreachable
  /-- There is no record of this identifier to be replaced. -/
  | notStored (id : String)
  deriving DecidableEq, Repr

def StoreFault.message : StoreFault → String
  | .unreachable => "store unreachable"
  | .notStored id => "authenticator " ++ id ++ " is not stored"

/-- Why no identifier is made. -/
inductive GeneratorFault where
  | exhausted
  | disabled
  deriving DecidableEq, Repr

def GeneratorFault.message : GeneratorFault → String
  | .exhausted => "entropy source unavailable"
  | .disabled => "OS random source unavailable: rng disabled"

/-- What a step fails for in the end. -/
inductive Cause where
  | codec (error : CodecError)
  | store (fault : StoreFault)
  | generator (fault : GeneratorFault)
  /-- The instant of expiry is out of range. -/
  | expiry (after : Duration)
  /-- A value that no header can have. -/
  | headerValue
  deriving DecidableEq, Repr

def Cause.message : Cause → String
  | .codec error => error.message
  | .store fault => fault.message
  | .generator fault => fault.message
  | .expiry after => "expiry of " ++ after.text ++ " is out of range"
  | .headerValue => HeaderValue.invalidMessage

/-- The failure of a step. -/
inductive LifecycleError where
  | failed (carrier : CarrierName) (phase : Phase) (cause : Cause)
  /-- A step failed inside another. -/
  | within (carrier : CarrierName) (phase : Phase) (inner : LifecycleError)
  deriving DecidableEq, Repr

namespace LifecycleError

/-- The carrier of the failed step. -/
def carrier : LifecycleError → CarrierName
  | failed c _ _ => c
  | within c _ _ => c

/-- The phase of the failed step. -/
def phase : LifecycleError → Phase
  | failed _ p _ => p
  | within _ p _ => p

/-- The wording of an error, without its cause. -/
def message (e : LifecycleError) : String :=
  "[" ++ e.carrier.text ++ "] could not " ++ e.phase.text ++ " authenticator"

/-- The wording of all causes, the outermost first. -/
def causes : LifecycleError → List String
  | failed _ _ cause => [cause.message]
  | within _ _ inner => inner.message :: inner.causes

/-- The wording of the outermost cause. -/
def firstCause : LifecycleError → String
  | failed _ _ cause => cause.message
  | within _ _ inner => inner.message

/-- The message that a client gets. -/
def reply : Message := .ofText 500 "Internal error"

end LifecycleError

end WebLogin
