import WebLogin.Dictionary
import WebLogin.Number.Double

/-!
# JSON values

A value is what a text means: objects have distinct keys in ascending order, integers from
`-2 ^ 63` to `2 ^ 64 - 1` are exact, and every other number is a double.
-/

namespace WebLogin

namespace Json

/-- A number. -/
inductive Number where
  /-- An integer from `-2 ^ 63` to `2 ^ 64 - 1`. -/
  | integer (n : Int)
  /-- A finite double, given by its bits. -/
  | double (bits : UInt64)
  deriving DecidableEq, Repr

/-- The least and the greatest integer that is kept exactly. -/
def leastInteger : Int := -0x8000000000000000

/-- The greatest integer that is kept exactly. -/
def greatestInteger : Int := 0xffffffffffffffff

end Json

/-- A JSON value. -/
inductive Json where
  | null
  | bool (b : Bool)
  | number (n : Json.Number)
  | string (s : String)
  | array (elements : List Json)
  | object (members : List (String × Json))
  deriving Repr

namespace Json

instance : Inhabited Json := ⟨.null⟩

/-- The number value of an integer. -/
def ofInt (n : Int) : Json := .number (.integer n)

/-- The object of some members. They are sorted, and of several with one key the last counts. -/
def ofMembers (members : List (String × Json)) : Json :=
  .object (Dictionary.sortEntries members)

/-- An optional value; nothing is written as null. -/
def ofOption {α : Type} (f : α → Json) : Option α → Json
  | none => .null
  | some a => f a

/-! ## Equality -/

/-- Numbers are the same if both are integers and equal, or both are doubles and compare equal, as
the two zeros do. -/
def Number.same : Number → Number → Bool
  | .integer a, .integer b => a == b
  | .double a, .double b => Float.ofBits a == Float.ofBits b
  | _, _ => false

mutual

/-- Equality of values, with `Number.same` on the numbers. -/
def same : Json → Json → Bool
  | .null, .null => true
  | .bool a, .bool b => a == b
  | .number a, .number b => a.same b
  | .string a, .string b => a == b
  | .array a, .array b => sameElements a b
  | .object a, .object b => sameMembers a b
  | _, _ => false

/-- Equality of lists of values, one by one. -/
def sameElements : List Json → List Json → Bool
  | [], [] => true
  | a :: as, b :: bs => same a b && sameElements as bs
  | _, _ => false

/-- Equality of lists of members, one by one. -/
def sameMembers : List (String × Json) → List (String × Json) → Bool
  | [], [] => true
  | (k, a) :: as, (l, b) :: bs => k == l && same a b && sameMembers as bs
  | _, _ => false

end

/-! ## Parts of a value -/

/-- The value under a key of an object. -/
def get? (key : String) : Json → Option Json
  | .object members => Dictionary.lookup? key members
  | _ => none

/-- The text of a string value. -/
def text? : Json → Option String
  | .string s => some s
  | _ => none

/-- The integer of a number value. -/
def integer? : Json → Option Int
  | .number (.integer n) => some n
  | _ => none

/-- The truth value of a value. -/
def bool? : Json → Option Bool
  | .bool b => some b
  | _ => none

/-- The elements of an array; any other value has none. -/
def elements : Json → List Json
  | .array elements => elements
  | _ => []

/-- The members of an object; any other value has none. -/
def members : Json → List (String × Json)
  | .object members => members
  | _ => []

end Json

end WebLogin
