import WebLogin.State.Handler
import WebLogin.Url.Read

/-!
# Redirected logins

A login at a provider starts with a redirect that carries a signed state and ends with a request
that brings the state back. Every item of the state has a handler, and a state is taken back only as
a whole: each fragment has to be claimed by a handler. Without handlers nothing is carried, and
nothing is checked.
-/

namespace WebLogin

/-- The handlers of a host in order, and the signer of states. -/
structure StateHandlers (H : HostItems) where
  handlers : List (StateHandler H) := []
  signer : Signer

namespace StateHandlers

variable {H : HostItems} {δ : Type}

/-- The handlers with one more at the end. -/
def withHandler (s : StateHandlers H) (h : StateHandler H) : StateHandlers H :=
  { s with handlers := s.handlers ++ [h] }

/-- One new item from each handler. -/
def state (s : StateHandlers H) : Program δ (Except StateError (LoginState H)) :=
  Program.collect StateHandler.freshItem s.handlers

/-- The fragment of an item, made by the first handler that takes it. -/
def fragment (s : StateHandlers H) (item : StateItem H) : Except StateError StateFragment :=
  match s.handlers.find? (·.takes item) with
  | some handler => handler.serialize item
  | none => .error (.missingHandler item.description)

/-- The signed text of a state; no text for the empty state. -/
def serialize (s : StateHandlers H) (state : LoginState H) :
    Program δ (Except StateError String) := do
  if state.isEmpty then return .ok ""
  match state.mapM s.fragment with
  | .error error => return .error error
  | .ok fragments => return .ok (← s.signer.signFresh (StateFragment.join fragments))

/-- The item of the text of a fragment, taken back by the first handler that claims it. -/
def takeBack (s : StateHandlers H) (request : Request) (text : List Char) :
    Program δ (Except StateError (StateItem H)) := do
  match StateFragment.decode text with
  | .error error => return .error error
  | .ok fragment =>
    match ← Program.first? (·.claims fragment request) s.handlers with
    | none => return .error (.missingHandler fragment.id)
    | some handler => return handler.unserialize fragment

/-- The state of a signed text that a request brings back. -/
def unserialize (s : StateHandlers H) (raw : String) (request : Request) :
    Program δ (Except StateError (LoginState H)) :=
  if s.handlers.isEmpty then return .ok []
  else
    match s.signer.extract raw with
    | .error error => return .error (.ofCodec error)
    | .ok joined => Program.collect (s.takeBack request) (StateFragment.split joined)

/-- Puts an item into a response, if a handler does that for its kind. -/
def publishItem (s : StateHandlers H) (response : Response) (item : StateItem H) :
    Program δ Response :=
  match s.handlers.find? fun h => h.publisher?.isSome && h.takes item with
  | some handler => handler.publish item response
  | none => return response

/-- Puts the items of a state into a response. -/
def publish (s : StateHandlers H) (state : LoginState H) (response : Response) :
    Program δ Response :=
  state.foldlM s.publishItem response

/-- The name of the query parameter that carries the state. -/
def parameter : String := "state"

/-- Redirects to a provider with a new state. -/
def redirect (s : StateHandlers H) (provider : String) (response : Response) :
    Program δ (Except StateError Response) := do
  match Url.ofString? provider with
  | .error fault => return .error (.invalidUrl fault)
  | .ok url =>
    match ← s.state with
    | .error error => return .error error
    | .ok state =>
      match ← s.serialize state with
      | .error error => return .error error
      | .ok text =>
        let target := if text = "" then url else url.appendPair parameter text
        Program.emit (.redirecting state.length)
        return .ok ((← s.publish state response).redirectTo target.text)

/-- The handlers for readers of logs. -/
def description (s : StateHandlers H) : String :=
  Text.describe "SocialStateHandler" ["handlers: " ++ toString s.handlers.length, Text.more]

end StateHandlers

end WebLogin
