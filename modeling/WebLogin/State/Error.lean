import WebLogin.Carrier.Error
import WebLogin.Url.Error

/-!
# Why the state of a redirected login is refused

An error is never taken for an empty state. To the outside every error looks the same.
-/

namespace WebLogin

/-- What is wrong with the form of a state. -/
inductive StateFault where
  /-- A fault of the signed value, other than its signature. -/
  | codec (error : CodecError)
  | base64 (fault : Base64.Fault)
  | utf8 (fault : Utf8.Fault)
  | noSeparator
  deriving DecidableEq, Repr

def StateFault.message : StateFault → String
  | .codec error => error.message
  | .base64 fault => fault.message
  | .utf8 fault => fault.message
  | .noSeparator => "item structure without separator"

/-- Why no item is made. -/
inductive ItemFault where
  | generator (fault : GeneratorFault)
  /-- A reason of a host's own handler, in its words. -/
  | described (text : String)
  deriving DecidableEq, Repr

def ItemFault.message : ItemFault → String
  | .generator fault => fault.message
  | .described text => text

/-- Why a state is refused or cannot be made. -/
inductive StateError where
  | invalidSignature
  | invalidFormat (fault : StateFault)
  /-- No handler takes the item or the structure that is described. -/
  | missingHandler (description : String)
  | itemGeneration (fault : ItemFault)
  /-- An item cannot be written as JSON, or JSON is not the item's. -/
  | serialization
  | invalidUrl (fault : Url.Fault)
  deriving DecidableEq, Repr

namespace StateError

/-- The error of a state whose signed value is wrong. -/
def ofCodec : CodecError → StateError
  | .invalidSignature => .invalidSignature
  | e => .invalidFormat (.codec e)

def message : StateError → String
  | invalidSignature => "social state signature is invalid"
  | invalidFormat fault => "malformed social state: " ++ fault.message
  | missingHandler description => "no state item handler for `" ++ description ++ "`"
  | itemGeneration _ => "could not produce state item"
  | serialization => "state item serialization failed: " ++ jsonMessage
  | invalidUrl fault => "invalid authorization URL: " ++ fault.message

/-- The wording of all causes. -/
def causes : StateError → List String
  | itemGeneration fault => [fault.message]
  | serialization => [jsonMessage]
  | invalidUrl fault => [fault.message]
  | _ => []

/-- The message that a client gets. -/
def reply : Message := .ofText 403 "Invalid state"

end StateError

end WebLogin
