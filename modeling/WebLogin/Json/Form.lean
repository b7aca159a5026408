import WebLogin.Json.Record
import WebLogin.Json.Writer

/-!
# Forms of types in JSON

A form says how the values of a type are written as JSON and how they are read back from the form of
a text.
-/

namespace WebLogin.Json

/-- How a type is written and read. -/
structure Form (α : Type) where
  write : α → Json
  read? : Tree → Option α

namespace Form

def render {α : Type} (f : Form α) (a : α) : String := (f.write a).render

def parse? {α : Type} (f : Form α) (s : String) : Option α := (Json.tree? s).bind f.read?

/-- A field that has to be there. -/
def required {α : Type} (f : Form α) (field : Option Tree) : Option α := field.bind f.read?

/-- A field that may be missing or null. -/
def optional {α : Type} (f : Form α) : Option Tree → Option (Option α)
  | none => some none
  | some .null => some none
  | some t => (f.read? t).map some

def value : Form Json := ⟨id, Tree.shallowValue?⟩

def text : Form String := ⟨.string, Tree.text?⟩

/-- A number of 32 bits without a sign. -/
def unsigned32 : Form UInt32 := ⟨fun n => .ofInt n.toNat, Tree.unsigned32?⟩

/-- A record whose one field is a text. -/
def textRecord (field : String) : Form String where
  write s := .object [(field, .string s)]
  read? t := do
    match ← t.fields? [field] with
    | [found] => text.required found
    | _ => none

/-- The value that another value stands for. -/
def ofValue? {α : Type} (f : Form α) (v : Json) : Option α := f.read? (.ofValue v)

end Form

end WebLogin.Json
