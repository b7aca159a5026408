import WebLogin.Json.Form

/-!
# Claims of tokens

The claims that a token needs for itself, and the host's own beside them in one object. Reading
parts them again; a claim of the first kind must stand once, and of several claims of the host's
with one name the last counts.
-/

namespace WebLogin.Jwt

open Json (Tree Form)

/-- The names of the claims that a token needs for itself. -/
def reservedNames : List String := ["jti", "iss", "sub", "iat", "exp"]

/-- The claims of a token. -/
structure Claims where
  id : String
  issuer : String
  subject : String
  issuedAt : Int
  expires : Int
  custom : Dictionary Json

namespace Claims

/-- The claims as JSON: first those that a token needs for itself. -/
def json (c : Claims) : Json :=
  .object ([("jti", .string c.id), ("iss", .string c.issuer), ("sub", .string c.subject),
    ("iat", .ofInt c.issuedAt), ("exp", .ofInt c.expires)] ++ c.custom.entries)

/-- The claims with names of the host's own. -/
def customOf? (members : List (String × Tree)) : Option (Dictionary Json) := do
  let own := members.filter fun m => !reservedNames.contains m.1
  return .ofList (← own.mapM fun m => m.2.value?.map (m.1, ·))

/-- Whether a claim that is checked in passing can be read: it stands at most once, and it is no
array or object with something in it. -/
def passes (members : List (String × Tree)) : Bool :=
  match Tree.field? members "nbf", Tree.field? members "aud" with
  | some notBefore, some _ =>
    match notBefore with
    | some (.array (_ :: _)) => false
    | some (.object (_ :: _)) => false
    | _ => true
  | _, _ => false

/-- The claims of an object that is not too deep. -/
def ofTree? (t : Tree) : Option Claims := do
  match t with
  | .object written =>
    if t.depth > Json.greatestDepth then none
    let members ← Tree.keyed? written
    match ← reservedNames.mapM (Tree.field? members) with
    | [id, issuer, subject, issuedAt, expires] =>
      if !passes members then none
      return {
        id := ← Form.text.required id
        issuer := ← Form.text.required issuer
        subject := ← Form.text.required subject
        issuedAt := ← issuedAt.bind Tree.integer64?
        expires := ← expires.bind Tree.integer64?
        custom := ← customOf? members }
    | _ => none
  | _ => none

end Claims

end WebLogin.Jwt
