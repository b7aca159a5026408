import WebLogin.Dictionary
import WebLogin.Settings.Error
import WebLogin.Text.Blank
import WebLogin.Text.Split
import WebLogin.Time.Duration
import WebLogin.Web.Request

/-!
# Variables

Settings are read from variables with text values. A variable that is not set, or is set to blanks,
leaves its setting as it was. Each kind of setting has its reader here.
-/

namespace WebLogin

abbrev Environment := Dictionary String

namespace Environment

/-- The value of a variable, if it is set to more than blanks. Blanks at its ends stay. -/
def text? (env : Environment) (name : String) : Option String :=
  (env.find? name).filter fun value => !(Text.trimChars value.toList).isEmpty

/-- Reads a variable; nothing if it is not set. -/
def read? {α : Type} (env : Environment) (reader : String → Except VariableFault α)
    (name : String) : Except ConfigError (Option α) :=
  match env.text? name with
  | none => .ok none
  | some value =>
    match reader value with
    | .ok a => .ok (some a)
    | .error fault => .error (.refused name fault)

/-- Reads a variable; the value at hand if it is not set. -/
def readOr {α : Type} (env : Environment) (reader : String → Except VariableFault α)
    (name : String) (current : α) : Except ConfigError α := do
  return (← env.read? reader name).getD current

end Environment

namespace Variable

/-- A truth value in one of its spellings. -/
def boolean (value : String) : Except VariableFault Bool :=
  let word := Text.lowercase (Text.trim value)
  if ["1", "true", "yes", "on"].contains word then .ok true
  else if ["0", "false", "no", "off"].contains word then .ok false
  else .error (.boolean value)

/-- A rule for requests from other sites. Blanks at the ends are not allowed. -/
def sameSite (value : String) : Except VariableFault SameSite :=
  match SameSite.ofString? value with
  | some rule => .ok rule
  | none => .error .sameSite

def headerName (value : String) : Except VariableFault HeaderName :=
  match HeaderName.ofString? (Text.trim value) with
  | some name => .ok name
  | none => .error .headerName

/-- A positive number of seconds up to the greatest. -/
def seconds (value : String) : Except VariableFault Duration :=
  match Integer.read (Text.trimChars value.toList) with
  | .error fault => .error (.integer fault)
  | .ok n =>
    if n ≤ 0 then .error .notPositive
    else
      match if n ≤ greatestSeconds then Duration.ofSeconds? n else none with
      | some d => .ok d
      | none => .error .tooLong

/-- The place that a word names. -/
def requestPart (piece : List Char) : Except VariableFault RequestPart :=
  let word := Text.lowercase (String.ofList (Text.trimChars piece))
  if ["headers", "header"].contains word then .ok .headers
  else if ["query", "querystring", "query_string"].contains word then .ok .query
  else .error (.requestPart word)

/-- A list of places with commas between them. -/
def requestParts (value : String) : Except VariableFault (List RequestPart) :=
  (Text.splitAll ',' value.toList).mapM requestPart

end Variable

end WebLogin
