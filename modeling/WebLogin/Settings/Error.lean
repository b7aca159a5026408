import WebLogin.Number.Integer
import WebLogin.Web.Header

/-!
# Why settings are refused

A key that is too short, or a variable that is set to a text that its reader does not take. The
wording names the variable first.
-/

namespace WebLogin

/-- The least number of bytes of a key for a tag. -/
def leastKeyLength : Nat := 32

/-- The greatest number of seconds that a variable may give: a hundred years of 365 days. -/
def greatestSeconds : Nat := 100 * 365 * 24 * 60 * 60

/-- What is wrong with the text of a variable. -/
inductive VariableFault where
  | boolean (text : String)
  | sameSite
  | headerName
  | integer (fault : Integer.Fault)
  | notPositive
  | tooLong
  | requestPart (text : String)
  deriving DecidableEq, Repr

def VariableFault.message : VariableFault → String
  | .boolean text => "expected a boolean, got '" ++ text ++ "'"
  | .sameSite => "expected lax, strict or none"
  | .headerName => HeaderName.invalidMessage
  | .integer fault => fault.message
  | .notPositive => "must be a positive number of seconds"
  | .tooLong => "must be at most " ++ toString greatestSeconds ++ " seconds"
  | .requestPart text => "unknown request part '" ++ text ++ "'"

/-- Why settings or a key are refused. -/
inductive ConfigError where
  | shortSigningKey (length : Nat)
  | shortTokenSecret (length : Nat)
  | refused (name : String) (fault : VariableFault)
  /-- A reason of a host's own, in its words. -/
  | described (text : String)
  deriving DecidableEq, Repr

/-- What is said after the fixed beginning. -/
def ConfigError.reason : ConfigError → String
  | .shortSigningKey length =>
    s!"signing key too short: expected at least {leastKeyLength} bytes, got {length}"
  | .shortTokenSecret length =>
    s!"JWT secret too short: expected at least {leastKeyLength} bytes, got {length}"
  | .refused name fault => name ++ ": " ++ fault.message
  | .described text => text

def ConfigError.message (e : ConfigError) : String := "Configuration error: " ++ e.reason

end WebLogin
