import WebLogin.Program
import WebLogin.Web.Request
import WebLogin.Web.Response

/-!
# The lifecycle of an authenticator

A carrier says how an authenticator travels between server and client: what a new one is given, how
its wire value is made, found and read, and how it is put into a response or taken out. The steps of
the lifecycle are the same for all carriers and are written once, over a `Carrier`.

`create` makes an authenticator, `start` makes its wire value and, where there is a store, stores
it, and `embed` puts the value into a response. `retrieve` finds a valid authenticator in a request;
`update` writes a touched one back; `renew` puts a successor in the place of an authenticator, after
the old one is revoked; `discard` ends it.
-/

namespace WebLogin

/-- Why a wire value gives no authenticator. -/
inductive DecodeFault where
  /-- The value is bad, and counts as no login. -/
  | codec (error : CodecError)
  /-- The store could not be asked. -/
  | store (fault : StoreFault)
  deriving DecidableEq, Repr

/-- How authenticators with details `δ` travel as values `ν`. -/
structure Carrier (δ ν : Type) where
  name : CarrierName
  /-- How long a new authenticator lasts. -/
  expiry : Duration
  /-- How long a new authenticator may stay unused. -/
  idle : Option Duration
  /-- The details of a new authenticator. -/
  imprint : Request → δ
  /-- What the details of a successor take over from those of its predecessor. -/
  inherit : (old new : δ) → δ
  /-- The wire value that a request brings. -/
  locate : Request → Option String
  /-- The authenticator of a wire value. -/
  decode : String → Program δ (Except DecodeFault (Option (Authenticator δ)))
  /-- Whether an authenticator belongs to the client of a request. -/
  belongs : Request → Authenticator δ → Bool
  /-- Makes the wire value of a new authenticator and stores it where there is a store. -/
  issue : Authenticator δ → Program δ (Except Cause String)
  /-- Writes a changed authenticator back; gives a wire value if that changed. -/
  reissue : Authenticator δ → Program δ (Except Cause (Option String))
  /-- Makes the wire value of an authenticator worthless, where there is a store. -/
  revoke : (id : String) → Program δ (Except Cause Unit)
  /-- The value around a wire value. -/
  wrap : Authenticator δ → String → ν
  /-- Puts a value into a response. -/
  place : ν → Response → Except Cause Response
  /-- Puts a value into a request, in place of a former one. -/
  placeInRequest : ν → Request → Except Cause Request
  /-- Takes the value out of a response, or has the client drop it. -/
  clear : Response → Response

namespace Carrier

variable {δ ν : Type}

/-- The generator of identifiers that carriers use. -/
def generator : Nat := 0

/-- The error of a failed step. -/
def failure (c : Carrier δ ν) (phase : Phase) (cause : Cause) : LifecycleError :=
  .failed c.name phase cause

/-- A result whose failure is that of a step. -/
def blame {α : Type} (c : Carrier δ ν) (phase : Phase) :
    Except Cause α → Except LifecycleError α :=
  Except.mapError (c.failure phase)

/-- A result whose failure is that of a renewal. -/
def blameRenewal {α : Type} (c : Carrier δ ν) :
    Except LifecycleError α → Except LifecycleError α :=
  Except.mapError (.within c.name .renewal)

/-! ## Steps -/

/-- Makes a new authenticator for a login. -/
def create (c : Carrier δ ν) (login : Login) (request : Request) :
    Program δ (Except LifecycleError (Authenticator δ)) := do
  match ← Program.query (.freshId generator) with
  | .error fault => return .error (c.failure .creation (.generator fault))
  | .ok id =>
    let now ← Program.query .now
    match now.add? c.expiry with
    | none => return .error (c.failure .creation (.expiry c.expiry))
    | some expires =>
      Program.emit (.created c.name id)
      return .ok {
        id, login, lastUsed := now, expires, idle := c.idle, details := c.imprint request }

/-- What is left of a decoded authenticator: none if it belongs to another client or is not valid
any more. -/
def accept (c : Carrier δ ν) (request : Request) (a : Authenticator δ) :
    Program δ (Option (Authenticator δ)) := do
  if c.belongs request a then
    let now ← Program.query .now
    if a.isValid now then return some a
    else
      Program.emit (.expired c.name a.id)
      return none
  else
    Program.emit (.fingerprintMismatch c.name a.id)
    return none

/-- Finds a valid authenticator in a request. A value that cannot be decoded is none. -/
def retrieve (c : Carrier δ ν) (request : Request) :
    Program δ (Except LifecycleError (Option (Authenticator δ))) := do
  match c.locate request with
  | none => return .ok none
  | some raw =>
    match ← c.decode raw with
    | .error (.store fault) => return .error (c.failure .retrieval (.store fault))
    | .error (.codec error) =>
      Program.emit (.undecodable c.name error)
      return .ok none
    | .ok none => return .ok none
    | .ok (some a) => return .ok (← c.accept request a)

/-- Makes the value of a new authenticator. -/
def start (c : Carrier δ ν) (a : Authenticator δ) : Program δ (Except LifecycleError ν) := do
  match ← c.issue a with
  | .error cause => return .error (c.failure .initialization cause)
  | .ok raw => return .ok (c.wrap a raw)

/-- Puts a value into a response. -/
def embed (c : Carrier δ ν) (value : ν) (response : Response) : Except LifecycleError Response :=
  c.blame .initialization (c.place value response)

/-- Puts a value into a request. -/
def embedInRequest (c : Carrier δ ν) (value : ν) (request : Request) :
    Except LifecycleError Request :=
  c.blame .initialization (c.placeInRequest value request)

/-- Touches an authenticator now. -/
def touch (_ : Carrier δ ν) (a : Authenticator δ) : Program δ (Touched (Authenticator δ)) := do
  return a.touch (← Program.query .now)

def update (c : Carrier δ ν) (a : Authenticator δ) (response : Response) :
    Program δ (Except LifecycleError Response) := do
  match ← c.reissue a with
  | .error cause => return .error (c.failure .update cause)
  | .ok none => return .ok response
  | .ok (some raw) => return c.blame .update (c.place (c.wrap a raw) response)

/-- Writes a touched authenticator back, if it changed. -/
def updateTouched (c : Carrier δ ν) (t : Touched (Authenticator δ)) (response : Response) :
    Program δ (Except LifecycleError Response) :=
  match t with
  | .changed a => c.update a response
  | .unchanged _ => return .ok response

/-- Revokes an authenticator and makes the value of its successor. -/
def renewValue (c : Carrier δ ν) (a : Authenticator δ) (request : Request) :
    Program δ (Except LifecycleError ν) := do
  match ← c.revoke a.id with
  | .error cause => return .error (c.failure .renewal cause)
  | .ok () =>
    match c.blameRenewal (← c.create a.login request) with
    | .error error => return .error error
    | .ok fresh =>
      let successor := { fresh with details := c.inherit a.details fresh.details }
      match c.blameRenewal (← c.start successor) with
      | .error error => return .error error
      | .ok value =>
        Program.emit (.renewed c.name a.id successor.id)
        return .ok value

/-- Revokes an authenticator and puts its successor into a response. -/
def renew (c : Carrier δ ν) (a : Authenticator δ) (request : Request) (response : Response) :
    Program δ (Except LifecycleError Response) := do
  match ← c.renewValue a request with
  | .error error => return .error error
  | .ok value => return c.blameRenewal (c.embed value response)

/-- Ends an authenticator. -/
def discard (c : Carrier δ ν) (a : Authenticator δ) (response : Response) :
    Program δ (Except LifecycleError Response) := do
  match ← c.revoke a.id with
  | .error cause => return .error (c.failure .discard cause)
  | .ok () =>
    Program.emit (.discarded c.name a.id)
    return .ok (c.clear response)

end Carrier

/-- Reports an error and gives the message for the client. -/
def LifecycleError.report {δ : Type} (e : LifecycleError) : Program δ Message := do
  Program.emit (.lifecycleFailed e)
  return LifecycleError.reply

/-- Reports an error and gives the message for the client. -/
def StateError.report {δ : Type} (e : StateError) : Program δ Message := do
  Program.emit (.stateRejected e)
  return StateError.reply

end WebLogin
