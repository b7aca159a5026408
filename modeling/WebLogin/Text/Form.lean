import WebLogin.Text.Percent
import WebLogin.Text.Split

/-!
# Form coding

Pairs of names and values as a query string: pairs are parted by `&`, a name from its value by `=`,
and a space is written as `+`.
-/

namespace WebLogin.Form

/-- The bytes that stand for themselves. -/
def isPlain (b : UInt8) : Bool := Percent.isAlphanumeric b || Percent.isOneOf ['*', '-', '.', '_'] b

/-- A name or a value as it is written. -/
def encode (text : List Char) : List Char :=
  (Utf8.encode text).flatMap fun b =>
    if b = 32 then ['+'] else if isPlain b then [Char.ofNat b.toNat] else Percent.escape b

/-- The text of a written name or value. Bytes that are no text are replaced. -/
def decode (written : List Char) : List Char :=
  let plus := written.map fun c => if c = '+' then ' ' else c
  Utf8.decodeLossy (Percent.decode (Utf8.encode plus))

/-- The pair of a written pair. Without `=` the value is empty. -/
def decodePair (written : List Char) : String × String :=
  match Text.cutFirst? '=' written with
  | some (name, value) => (String.ofList (decode name), String.ofList (decode value))
  | none => (String.ofList (decode written), "")

/-- The pairs of a query string. Empty pieces are left out. -/
def pairs (query : List Char) : List (String × String) :=
  ((Text.splitAll '&' query).filter (· ≠ [])).map decodePair

/-- A pair as it is written. -/
def encodePair (name value : String) : List Char :=
  encode name.toList ++ '=' :: encode value.toList

end WebLogin.Form
