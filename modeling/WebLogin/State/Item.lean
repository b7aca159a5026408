import WebLogin.Json.Description
import WebLogin.Json.Form

/-!
# Items of a state

A redirected login carries a state of items: a token against forged requests, and values of a host's
own types. An item is a value together with its kind, and two items can only be the same if their
kinds are. A value goes through JSON; some cannot be written.
-/

namespace WebLogin

/-- A type of items. -/
structure ItemType where
  Value : Type
  /-- The JSON of a value; none if it cannot be written. -/
  write? : Value → Option Json
  read? : Json → Option Value
  same : Value → Value → Bool
  /-- A text for readers of logs. -/
  describe : Value → String

namespace ItemType

def text : ItemType where
  Value := String
  write? s := some (.string s)
  read? := Json.text?
  same a b := a == b
  describe := Text.quote

/-- A number of 32 bits without a sign. -/
def unsigned32 : ItemType where
  Value := UInt32
  write? n := some (Json.Form.unsigned32.write n)
  read? := Json.Form.unsigned32.ofValue?
  same a b := a == b
  describe n := toString n.toNat

def value : ItemType where
  Value := Json
  write? := some
  read? := some
  same := Json.same
  describe := Json.description

/-- A record of a name whose one field is a text. -/
def textRecord (name field : String) : ItemType where
  Value := String
  write? s := some ((Json.Form.textRecord field).write s)
  read? := (Json.Form.textRecord field).ofValue?
  same a b := a == b
  describe s := Text.describe name [field ++ ": " ++ Text.quote s]

/-- A token against forged requests. -/
def csrf : ItemType := textRecord "CsrfStateItem" "token"

end ItemType

/-- The types of items of a host's own, each under its kind. -/
structure HostItems where
  Kind : Type
  [decideKind : DecidableEq Kind]
  type : Kind → ItemType

instance (H : HostItems) : DecidableEq H.Kind := H.decideKind

/-- The kinds of items. -/
inductive ItemKind (H : HostItems) where
  | csrf
  | host (kind : H.Kind)
  deriving DecidableEq

def ItemKind.type {H : HostItems} : ItemKind H → ItemType
  | csrf => .csrf
  | host kind => H.type kind

/-- A value with its kind. -/
structure StateItem (H : HostItems) where
  kind : ItemKind H
  value : kind.type.Value

namespace StateItem

variable {H : HostItems}

def csrf (token : String) : StateItem H := ⟨.csrf, token⟩

/-- The value, if the item is of a kind. -/
def value? (item : StateItem H) (kind : ItemKind H) : Option kind.type.Value :=
  if h : item.kind = kind then some (h ▸ item.value) else none

/-- Whether two items are of one kind and their values the same. -/
def same (a b : StateItem H) : Bool :=
  match a.value? b.kind with
  | some value => b.kind.type.same value b.value
  | none => false

/-- The JSON of the value. -/
def json? (item : StateItem H) : Option Json := item.kind.type.write? item.value

/-- A text for readers of logs. -/
def description (item : StateItem H) : String := item.kind.type.describe item.value

/-- The item of a kind that a JSON value stands for. -/
def ofJson? (kind : ItemKind H) (data : Json) : Option (StateItem H) :=
  (kind.type.read? data).map (⟨kind, ·⟩)

@[simp] theorem value?_self (item : StateItem H) : item.value? item.kind = some item.value := by
  simp [value?]

end StateItem

/-- The items of a redirected login in order. -/
abbrev LoginState (H : HostItems) := List (StateItem H)

namespace LoginState

variable {H : HostItems}

/-- Whether two states have the same items in the same order. -/
def same (a b : LoginState H) : Bool :=
  a.length == b.length && (a.zip b).all fun (x, y) => x.same y

/-- The value of the first item of a kind. -/
def first? (s : LoginState H) (kind : ItemKind H) : Option kind.type.Value :=
  s.findSome? (·.value? kind)

end LoginState

end WebLogin
