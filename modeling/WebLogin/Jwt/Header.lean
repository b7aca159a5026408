import WebLogin.Json.Form

/-!
# Headers of tokens

The header of a token names the algorithm of its signature. Other fields of a header are checked for
their form and not used further.
-/

namespace WebLogin.Jwt

open Json (Tree Form)

/-- The algorithms that a header may name. -/
def algorithms : List String :=
  ["HS256", "HS384", "HS512", "ES256", "ES384", "RS256", "RS384", "RS512", "PS256", "PS384",
   "PS512", "EdDSA"]

/-- The algorithm of this library's tokens. -/
def algorithm : String := "HS256"

/-- The header of this library's tokens. -/
def header : Json := .object [("typ", .string "JWT"), ("alg", .string algorithm)]

/-- A name out of a list, as a string or as the only key of an object whose value is null. -/
def choice? (names : List String) (t : Tree) : Option String :=
  let name :=
    match t with
    | .string s => s
    | .object [(k, .null)] => k
    | _ => none
  name.filter names.contains

/-- A name out of a list, as a string or as the only key of an object whose value says nothing. -/
def namedBy? (names : List String) (t : Tree) : Option String :=
  match t with
  | .object [(k, .object [])] => k.filter names.contains
  | t => choice? names t

def texts? : Tree → Option (List String)
  | .array elements => elements.mapM Tree.text?
  | _ => none

/-- A field that may be missing or null, checked by a reader. -/
def admits {α : Type} (read : Tree → Option α) : Option Tree → Bool
  | none => true
  | some .null => true
  | some t => (read t).isSome

/-! ## Keys in headers -/

/-- The algorithms that a key may name. -/
def keyAlgorithms : List String := algorithms ++ ["RSA1_5", "RSA-OAEP", "RSA-OAEP-256"]

/-- The parameters of each kind of key: the kind, its curves if it has any, and its texts. -/
def keyKinds : List (String × List String × List String) :=
  let curves := ["P-256", "P-384", "P-521", "Ed25519"]
  [("EC", curves, ["x", "y"]), ("RSA", [], ["n", "e"]), ("oct", [], ["k"]), ("OKP", curves, ["x"])]

/-- Whether some members are the parameters of a kind of key. -/
def isKeyOf (members : List (String × Tree)) (kind : String × List String × List String) : Bool :=
  let has {α : Type} (name : String) (read : Tree → Option α) : Bool :=
    match Tree.field? members name with
    | some (some t) => (read t).isSome
    | _ => false
  has "kty" (choice? [kind.1]) &&
    (kind.2.1.isEmpty || has "crv" (choice? kind.2.1)) &&
    kind.2.2.all fun name => has name Tree.text?

/-- Whether a tree is a key. -/
def isKey : Tree → Bool
  | .object written =>
    match Tree.keyed? written with
    | none => false
    | some members =>
      let common {α : Type} (name : String) (read : Tree → Option α) : Bool :=
        match Tree.field? members name with
        | some field => admits read field
        | none => false
      (members.all fun m => m.2.value?.isSome) &&
        (["use", "kid", "x5u", "x5t", "x5t#S256"].all fun name => common name Tree.text?) &&
        common "alg" (namedBy? keyAlgorithms) &&
        (["key_ops", "x5c"].all fun name => common name texts?) &&
        keyKinds.any (isKeyOf members)
  | _ => false

/-! ## Reading -/

/-- The names of the fields of a header. -/
def headerNames : List String :=
  ["typ", "alg", "cty", "jku", "jwk", "kid", "x5u", "x5c", "x5t", "x5t#S256"]

/-- The algorithm that a header names; none if it is not of the form of a header. A header that is
written as an array has all its fields. -/
def algorithmOf? (t : Tree) : Option String := do
  match t with
  | .array elements => if elements.length < headerNames.length then none
  | _ => pure ()
  match ← t.fields? headerNames with
  | [typ, alg, cty, jku, jwk, kid, x5u, x5c, x5t, x5tS256] =>
    let texts := [typ, cty, jku, kid, x5u, x5t, x5tS256]
    let key (t : Tree) : Option Unit :=
      if isKey t && t.depth < Json.greatestDepth then some () else none
    if texts.all (admits Tree.text?) && admits texts? x5c && admits key jwk then
      alg.bind (choice? algorithms)
    else none
  | _ => none

end WebLogin.Jwt
