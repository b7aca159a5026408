import WebLogin.Json.Form
import WebLogin.State.Error
import WebLogin.Text.Split

/-!
# Fragments of a state

An item travels as a fragment: the identifier of the handler it belongs to and its JSON, both coded
so that neither the dash between them nor the dot between fragments can stand in them.
-/

namespace WebLogin

/-- The JSON of an item under the identifier of its handler. -/
structure StateFragment where
  id : String
  data : Json
  deriving Repr

namespace StateFragment

/-- The character between fragments. -/
def separator : Char := '.'

/-- A text as it stands in a fragment. -/
def encodePart (text : String) : List Char := Base64.encode .standard (Utf8.bytes text)

/-- The text of a part of a fragment. -/
def decodePart (part : List Char) : Except StateError String :=
  match Base64.decode .standard (Utf8.encode part) with
  | .error fault => .error (.invalidFormat (.base64 fault))
  | .ok bytes =>
    match Utf8.decode bytes with
    | .error fault => .error (.invalidFormat (.utf8 fault))
    | .ok text => .ok (String.ofList text)

def encode (f : StateFragment) : List Char := encodePart f.id ++ '-' :: encodePart f.data.render

def decode (text : List Char) : Except StateError StateFragment :=
  match Text.cutFirst? '-' text with
  | none => .error (.invalidFormat .noSeparator)
  | some (id, data) => do
    let id ← decodePart id
    let json ← decodePart data
    match Json.parse? json with
    | none => throw .serialization
    | some data => return { id, data }

/-- The texts of fragments with separators between them. -/
def join (fragments : List StateFragment) : String :=
  String.ofList (List.intercalate [separator] (fragments.map encode))

/-- The texts between separators. -/
def split (joined : String) : List (List Char) := Text.splitAll separator joined.toList

end StateFragment

end WebLogin
