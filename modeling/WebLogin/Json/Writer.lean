import WebLogin.Json.Value

/-!
# Writing JSON

The compact text of a value, without blanks. In strings only the quote, the backslash and control
characters are escaped; doubles have at least one decimal or an exponent.
-/

namespace WebLogin.Json

/-- Doubles have no exponent between `1e-5` and `1e16`. -/
def doubleLayout : Double.Layout := ⟨16, 4⟩

/-- The two lowest hexadecimal digits of a control character. -/
def controlDigits (c : Char) : List Char :=
  [Nat.digitChar (c.toNat / 16), Nat.digitChar (c.toNat % 16)]

/-- A character of a string as it is written. -/
def escapeChar (c : Char) : List Char :=
  if c = '"' then ['\\', '"']
  else if c = '\\' then ['\\', '\\']
  else if c = '\x08' then ['\\', 'b']
  else if c = '\x0c' then ['\\', 'f']
  else if c = '\n' then ['\\', 'n']
  else if c = '\r' then ['\\', 'r']
  else if c = '\t' then ['\\', 't']
  else if c < ' ' then '\\' :: 'u' :: '0' :: '0' :: controlDigits c
  else [c]

def writeString (s : String) : List Char := '"' :: s.toList.flatMap escapeChar ++ ['"']

def Number.write : Number → List Char
  | .integer n => if n < 0 then '-' :: Nat.toDigits 10 n.natAbs else Nat.toDigits 10 n.natAbs
  | .double bits => doubleLayout.text bits

mutual

def write : Json → List Char
  | .null => ['n', 'u', 'l', 'l']
  | .bool true => ['t', 'r', 'u', 'e']
  | .bool false => ['f', 'a', 'l', 's', 'e']
  | .number n => n.write
  | .string s => writeString s
  | .array [] => ['[', ']']
  | .array (v :: vs) => '[' :: write v ++ writeElements vs
  | .object [] => ['\x7b', '\x7d']
  | .object ((k, v) :: ms) => '\x7b' :: writeString k ++ ':' :: write v ++ writeMembers ms

/-- The elements after the first, each after a comma, and the closing bracket. -/
def writeElements : List Json → List Char
  | [] => [']']
  | v :: vs => ',' :: write v ++ writeElements vs

/-- The members after the first, each after a comma, and the closing brace. -/
def writeMembers : List (String × Json) → List Char
  | [] => ['\x7d']
  | (k, v) :: ms => ',' :: writeString k ++ ':' :: write v ++ writeMembers ms

end

/-- The text of a value, as a string. -/
def render (v : Json) : String := String.ofList v.write

/-! ## Objects from pairs of values -/

/-- Why a value cannot be written. -/
inductive WriteFault where
  /-- The key of an entry is no string. -/
  | keyNotString
  deriving DecidableEq, Repr

def WriteFault.message : WriteFault → String
  | .keyNotString => "key must be a string"

/-- The object of some entries, whose keys have to be strings. -/
def ofEntries (entries : List (Json × Json)) : Except WriteFault Json := do
  let members ← entries.mapM fun (k, v) =>
    match k with
    | .string s => pure (s, v)
    | _ => throw .keyNotString
  return ofMembers members

end WebLogin.Json
