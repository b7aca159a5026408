import WebLogin.Dictionary
import WebLogin.Web.Cookie

/-!
# Responses

The changes that a login makes to a response: cookies, headers, values of the host's session, and a
redirect. Of several changes under one name the last counts. `Response.render` turns them into a
message, and `Response.overlay` lays them over a message that is already there.
-/

namespace WebLogin

/-- Changes of a session: the values to be set and the keys to be removed. -/
structure SessionChanges where
  set : Dictionary String := .empty
  removed : Dictionary Unit := .empty
  deriving DecidableEq, Repr

namespace SessionChanges

def insert (c : SessionChanges) (key value : String) : SessionChanges :=
  ⟨c.set.insert key value, c.removed.erase key⟩

def erase (c : SessionChanges) (key : String) : SessionChanges :=
  ⟨c.set.erase key, c.removed.insert key ()⟩

def isEmpty (c : SessionChanges) : Bool := c.set.isEmpty && c.removed.isEmpty

/-- A session after the changes: the removals come first. -/
def applyTo (c : SessionChanges) (session : Dictionary String) : Dictionary String :=
  c.set.entries.foldl (fun s e => s.insert e.1 e.2) (c.removed.keys.foldl Dictionary.erase session)

end SessionChanges

/-- The changes that make up a response. -/
structure Response where
  /-- The cookies to be set or dropped, under their names. -/
  cookies : Dictionary Cookie := .empty
  /-- The headers to be set, under their names. -/
  headers : Dictionary HeaderValue := .empty
  session : SessionChanges := {}
  redirect : Option String := none
  deriving DecidableEq, Repr

/-- A message to be sent. -/
structure Message where
  status : Nat
  /-- Names in small letters with values; a name may stand more than once. -/
  headers : List (String × HeaderValue)
  session : Option SessionChanges
  body : String
  deriving Repr

namespace Message

/-- The header of a redirect's target. -/
def locationHeader : String := "location"

/-- The header that sets a cookie. -/
def setCookieHeader : String := "set-cookie"

/-- The header of the kind of body. -/
def contentTypeHeader : String := "content-type"

/-- The kind of a body of text. -/
def plainText : HeaderValue :=
  ⟨"text/plain; charset=utf-8".toList.map (UInt8.ofNat ·.toNat), by decide⟩

def blank : Message := ⟨200, [], none, ""⟩

/-- A message with a body of text. -/
def ofText (status : Nat) (body : String) : Message :=
  ⟨status, [(contentTypeHeader, plainText)], none, body⟩

/-- The message that redirects to a target. A target that is no header value makes a message of
failure. -/
def redirect (target : String) : Message :=
  match HeaderValue.ofString? target with
  | some value => ⟨303, [(locationHeader, value)], none, ""⟩
  | none => ofText 500 HeaderValue.invalidMessage

/-- The message with a header in place of all former ones of its name. -/
def setHeader (m : Message) (name : String) (value : HeaderValue) : Message :=
  { m with headers := m.headers.filter (fun h => h.1 ≠ name) ++ [(name, value)] }

end Message

namespace Response

/-! ## Changes -/

def setCookie (r : Response) (c : Cookie) : Response :=
  { r with cookies := r.cookies.insert c.name c }

/-- Makes the browser drop a cookie. -/
def removeCookie (r : Response) (c : Cookie) : Response := r.setCookie c.removal

def setHeader (r : Response) (name : HeaderName) (value : HeaderValue) : Response :=
  { r with headers := r.headers.insert name.text value }

/-- Sets a header to a text; none if it is no header value. -/
def setHeaderText? (r : Response) (name : HeaderName) (text : String) : Option Response :=
  (HeaderValue.ofString? text).map (r.setHeader name)

def removeHeader (r : Response) (name : HeaderName) : Response :=
  { r with headers := r.headers.erase name.text }

/-- Sets a value of the session. -/
def setSessionValue (r : Response) (key value : String) : Response :=
  { r with session := r.session.insert key value }

/-- Removes a value of the session. -/
def removeSessionValue (r : Response) (key : String) : Response :=
  { r with session := r.session.erase key }

/-- Sets the target of a redirect. -/
def redirectTo (r : Response) (target : String) : Response := { r with redirect := some target }

/-! ## Looking up -/

def cookie? (r : Response) (name : String) : Option Cookie := r.cookies.find? name

@[simp] theorem cookie?_setCookie (r : Response) (c : Cookie) :
    (r.setCookie c).cookie? c.name = some c := r.cookies.find?_insert_self c.name c

/-- The value of a header, if it is readable. -/
def header? (r : Response) (name : HeaderName) : Option String :=
  (r.headers.find? name.text).bind HeaderValue.text?

/-! ## The message -/

/-- Lays cookies, headers and session changes over a message. A cookie whose text is no header value
is left out; the headers replace what the message and the cookies set. -/
def overlay (r : Response) (m : Message) : Message :=
  let cookies := r.cookies.entries.filterMap fun e =>
    e.2.header?.map fun value => (Message.setCookieHeader, value)
  let m := { m with headers := m.headers ++ cookies }
  let m := r.headers.entries.foldl (fun m e => m.setHeader e.1 e.2) m
  if r.session.isEmpty then m else { m with session := some r.session }

def render (r : Response) : Message :=
  match r.redirect with
  | some target => r.overlay (.redirect target)
  | none => r.overlay .blank

end Response

end WebLogin
