import WebLogin.Json.Writer
import WebLogin.Text.Quoted

/-!
# Descriptions of JSON values

The text of a value for readers of logs: each part has the name of its kind in front.
-/

namespace WebLogin.Json

mutual

def description : Json → String
  | .null => "Null"
  | .bool b => "Bool(" ++ toString b ++ ")"
  | .number n => "Number(" ++ String.ofList n.write ++ ")"
  | .string s => "String(" ++ Text.quote s ++ ")"
  | .array elements => "Array [" ++ String.intercalate ", " (elementDescriptions elements) ++ "]"
  | .object members =>
    "Object \x7b" ++ String.intercalate ", " (memberDescriptions members) ++ "\x7d"

def elementDescriptions : List Json → List String
  | [] => []
  | v :: vs => description v :: elementDescriptions vs

def memberDescriptions : List (String × Json) → List String
  | [] => []
  | (k, v) :: vs => (Text.quote k ++ ": " ++ description v) :: memberDescriptions vs

end

end WebLogin.Json
