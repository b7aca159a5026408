import WebLogin.Bytes.Utf8
import WebLogin.Text.Percent
import WebLogin.Url.Domain.Direction
import WebLogin.Url.Domain.Label
import WebLogin.Url.Error

/-!
# Names of hosts

A name is a list of labels with dots between them, and is written in ASCII. Where one label has
characters that are written from right to left, all labels have to be in order.
-/

namespace WebLogin.Url.Domain

def labels? (name : List Char) : Option (List Label) := do
  let labels ← (Text.splitAll '.' (← characters? name)).mapM Label.ofChars?
  if labels.any (·.text.any isTurned) ∧ !labels.all (isOrdered ·.text) then none
  else some labels

/-- The name in ASCII that a percent-coded text spells. -/
def read (text : List Char) : Except Fault (List Char) :=
  match Utf8.decode (Percent.decode (Utf8.encode text)) with
  | .error _ => .error .invalidDomainName
  | .ok name =>
    match labels? name with
    | some labels => .ok (List.intercalate ['.'] (labels.map Label.written))
    | none => .error .invalidDomainName

end WebLogin.Url.Domain
