import WebLogin.Carrier.Basic
import WebLogin.Settings.Carriers
import WebLogin.Signed.Signer
import WebLogin.State.Fragment
import WebLogin.State.Item

/-!
# Handlers of items

A handler makes the items of one kind, writes them as fragments and takes fragments back. The
handler of a token against forged requests also puts the token into a signed cookie, and takes a
fragment back only from a client that sends the cookie along with the same token.
-/

namespace WebLogin

/-- The handler of a token that ties a state to the browser where the login began. -/
structure CsrfHandler where
  settings : CsrfSettings
  /-- The generator of tokens. -/
  generator : Nat
  /-- Signs the cookie. -/
  signer : Signer

namespace CsrfHandler

variable {δ : Type}

/-- The identifier of the handler in a fragment. -/
def id : String := "csrf-state"

/-- The token in the cookie of a request, if its signature is right. -/
def cookieToken (h : CsrfHandler) (request : Request) : Program δ (Option String) := do
  match request.cookie? h.settings.cookie.name with
  | none => return none
  | some raw =>
    match h.signer.extract raw with
    | .ok token => return some token
    | .error error =>
      Program.emit (.csrfCookieUnverified error)
      return none

/-- Whether the cookie of a request has a token. -/
def matchesCookie (h : CsrfHandler) (token : String) (request : Request) : Program δ Bool := do
  match ← h.cookieToken request with
  | none =>
    Program.emit .csrfCookieMissing
    return false
  | some cookieToken =>
    if cookieToken = token then return true
    else
      Program.emit .csrfTokenMismatch
      return false

/-- Whether a fragment is of this handler and goes with the cookie of the request. -/
def claims (h : CsrfHandler) (fragment : StateFragment) (request : Request) : Program δ Bool :=
  if fragment.id = id then
    match ItemType.csrf.read? fragment.data with
    | some token => h.matchesCookie token request
    | none => return false
  else return false

/-- Puts a token into the cookie of a response. -/
def publish (h : CsrfHandler) (token : String) (response : Response) : Program δ Response := do
  let value ← h.signer.signFresh token
  return response.setCookie (h.settings.cookie.cookie (some h.settings.expiry) value)

/-- Makes the browser drop the cookie. -/
def discard (h : CsrfHandler) (response : Response) : Response :=
  response.removeCookie h.settings.cookie.removal

end CsrfHandler

/-- A handler of items. -/
inductive StateHandler (H : HostItems) where
  | csrf (handler : CsrfHandler)
  /-- Carries one item of a host under an identifier. -/
  | carrying (id : String) (item : StateItem H)

namespace StateHandler

variable {H : HostItems} {δ : Type}

/-- The handler of a host's item under a name. -/
def named (name : String) (item : StateItem H) : StateHandler H :=
  .carrying ("user-state:" ++ name) item

/-- The identifier of a host's handler. -/
def hostId? : StateHandler H → Option String
  | csrf _ => none
  | carrying id _ => some id

/-- The identifier that the fragments of the handler have. -/
def id : StateHandler H → String
  | csrf _ => CsrfHandler.id
  | carrying id _ => id

/-- The kind of the items of the handler. -/
def kind : StateHandler H → ItemKind H
  | csrf _ => .csrf
  | carrying _ item => item.kind

/-- The item for a new login. -/
def freshItem : StateHandler H → Program δ (Except StateError (StateItem H))
  | csrf handler => do
    match ← Program.query (.freshId handler.generator) with
    | .ok token => return .ok (.csrf token)
    | .error fault => return .error (.itemGeneration (.generator fault))
  | carrying _ item => return .ok item

/-- Whether an item is one of the handler. -/
def takes (h : StateHandler H) (item : StateItem H) : Bool := h.kind = item.kind

def serialize (h : StateHandler H) (item : StateItem H) : Except StateError StateFragment :=
  if h.takes item then
    match item.json? with
    | some data => .ok ⟨h.id, data⟩
    | none => .error .serialization
  else .error (.missingHandler item.description)

/-- Whether a fragment is one of the handler. -/
def claims (h : StateHandler H) (fragment : StateFragment) (request : Request) : Program δ Bool :=
  match h with
  | csrf handler => handler.claims fragment request
  | carrying id item =>
    return fragment.id = id && (item.kind.type.read? fragment.data).isSome

def unserialize (h : StateHandler H) (fragment : StateFragment) :
    Except StateError (StateItem H) :=
  match StateItem.ofJson? h.kind fragment.data with
  | some item => .ok item
  | none => .error .serialization

/-- The handler, if it puts its items into responses. -/
def publisher? : StateHandler H → Option CsrfHandler
  | csrf handler => some handler
  | carrying .. => none

/-- Puts an item of the handler into a response; any other item leaves it as it is. -/
def publish (h : StateHandler H) (item : StateItem H) (response : Response) :
    Program δ Response :=
  match h.publisher?, item.value? .csrf with
  | some handler, some token => handler.publish token response
  | _, _ => return response

end StateHandler

end WebLogin
