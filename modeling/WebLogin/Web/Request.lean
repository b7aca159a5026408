import WebLogin.Dictionary
import WebLogin.Text.Blank
import WebLogin.Text.Form
import WebLogin.Web.Address
import WebLogin.Web.Cookie

/-!
# Requests

What a login needs of a request: named values in its headers, its query string, its cookies and the
session that the host keeps for it, and the address it comes from. The cookies are read once, from
the headers that the request arrives with; later changes of headers and of cookies do not meet.
-/

namespace WebLogin

/-- A place where a value may be looked for. -/
inductive RequestPart where
  | headers
  | query
  deriving DecidableEq, Repr

/-- A request. -/
structure Request where
  headers : Headers := []
  target : String := "/"
  cookies : Dictionary String := .empty
  session : Dictionary String := .empty
  peer : Option Address := none
  deriving Repr

namespace Request

/-- The name of the header that brings cookies. -/
def cookieHeader : HeaderName := ⟨"cookie", by decide⟩

/-- The cookies of some headers. Of several with one name the last counts. -/
def readCookies (headers : Headers) : Dictionary String :=
  .ofList ((headers.all cookieHeader).flatMap fun v =>
    match v.text? with
    | some text => Cookie.readPairs text.toList
    | none => [])

/-- The request that arrives with some headers, a target and what the host adds. -/
def arriving (headers : Headers) (target : String) (session : Dictionary String)
    (peer : Option Address) : Request :=
  { headers, target, cookies := readCookies headers, session, peer }

/-! ## Looking up -/

/-- The first value of a header, if it is readable. -/
def header? (r : Request) (name : HeaderName) : Option String :=
  (r.headers.first? name).bind HeaderValue.text?

/-- The query string of a target: what stands between the first `?` and a fragment. -/
def queryOf? (target : List Char) : Option (List Char) :=
  let whole := target.takeWhile (· ≠ '#')
  (Text.cutFirst? '?' whole).map (·.2)

/-- The first value of a query parameter. -/
def query? (r : Request) (name : String) : Option String := do
  let query ← queryOf? r.target.toList
  (← (Form.pairs query).find? fun p => p.1 = name).2

def cookie? (r : Request) (name : String) : Option String := r.cookies.find? name

def sessionValue? (r : Request) (key : String) : Option String := r.session.find? key

/-- The first value of a name in the given places, in their order. -/
def findValue? (r : Request) (name : HeaderName) (parts : List RequestPart) : Option String :=
  parts.findSome? fun
    | .headers => r.header? name
    | .query => r.query? name.text

/-- The name of the header that lists the addresses a request was passed on for. -/
def forwardedFor : HeaderName := ⟨"x-forwarded-for", by decide⟩

/-- The name of the header with the address of the client. -/
def realAddress : HeaderName := ⟨"x-real-ip", by decide⟩

/-- The address of the client: the first one that the request was passed on for, else the one that a
proxy names, else that of the peer. -/
def clientAddress? (r : Request) : Option String :=
  let forwarded := (r.header? forwardedFor).map fun list =>
    Text.trim (String.ofList (list.toList.takeWhile (· ≠ ',')))
  forwarded <|> r.header? realAddress <|> r.peer.map Address.text

/-! ## Amending -/

/-- The request with a header value in place of all former ones of its name. -/
def withHeader (r : Request) (name : HeaderName) (value : HeaderValue) : Request :=
  { r with headers := r.headers.set name value }

/-- The request with a header text; none if it is no header value. -/
def withHeaderText? (r : Request) (name : HeaderName) (text : String) : Option Request :=
  (HeaderValue.ofString? text).map (r.withHeader name)

/-- The request with a cookie in place of a former one of its name. -/
def withCookie (r : Request) (name value : String) : Request :=
  { r with cookies := r.cookies.insert name value }

/-- The request with a value in its session. -/
def withSessionValue (r : Request) (key value : String) : Request :=
  { r with session := r.session.insert key value }

def withTarget (r : Request) (target : String) : Request := { r with target }

def withPeer (r : Request) (peer : Address) : Request := { r with peer := some peer }

end Request

end WebLogin
