import WebLogin.Dictionary
import WebLogin.Text.Percent
import WebLogin.Text.Blank
import WebLogin.Text.Split
import WebLogin.Time.Instant
import WebLogin.Web.Header

/-!
# Cookies

A cookie as a server sets it, with its attributes, and the text that it is set by. Names and values
are percent-coded so that nothing in them is taken for a separator. `readPairs` reads what a browser
sends back: it keeps names and values only.
-/

namespace WebLogin

/-- When a cookie goes along with requests from other sites. -/
inductive SameSite where
  | strict
  | lax
  | none
  deriving DecidableEq, Repr

/-- The name of a rule as it is written. -/
def SameSite.text : SameSite → String
  | .strict => "Strict"
  | .lax => "Lax"
  | .none => "None"

/-- The rule that a text names, in letters of either case. -/
def SameSite.ofString? (s : String) : Option SameSite :=
  let name := Text.lowercase s
  if name = "lax" then some .lax
  else if name = "strict" then some .strict
  else if name = "none" then some .none
  else Option.none

/-- When a cookie ends. -/
inductive Expiry where
  | at (time : Instant)
  /-- At some time in the past, so that the browser drops the cookie. -/
  | past
  deriving DecidableEq, Repr

/-- A cookie with the attributes that are set. -/
structure Cookie where
  name : String
  value : String
  path : Option String := none
  domain : Option String := none
  secure : Option Bool := none
  httpOnly : Option Bool := none
  sameSite : Option SameSite := none
  maxAge : Option Duration := none
  expires : Option Expiry := none
  deriving DecidableEq, Repr

namespace Cookie

/-- The domain without a dot in front. -/
def bareDomain (c : Cookie) : Option String :=
  c.domain.map fun d =>
    match d.toList with
    | '.' :: rest => String.ofList rest
    | _ => d

/-- The cookie that makes a browser drop this one: without value, and over. -/
def removal (c : Cookie) : Cookie :=
  { c with value := "", maxAge := some .zero, expires := some .past }

/-- The last instant that a cookie may end at, to the microsecond. -/
def latest : Instant := ⟨253402300799999999000, by decide, by decide⟩

/-- The expiry of a cookie that is to end at an instant. -/
def endingAt (time : Instant) : Expiry := .at (if latest < time then latest else time)

/-! ## Writing -/

/-- The marks, besides letters and digits, that stand for themselves in a name or a value. -/
def plainMarks : List Char := ['!', '$', '&', '\'', '*', '+', '-', '.', '_', '~']

/-- The bytes that stand for themselves in a name or a value. -/
def isPlain (b : UInt8) : Bool := Percent.isAlphanumeric b || Percent.isOneOf plainMarks b

/-- A name or a value as it is written. -/
def encode (s : String) : List Char := Percent.encode isPlain s.toList

/-- The names of the days from Sunday on. -/
def dayNames : List String := ["Sun", "Mon", "Tue", "Wed", "Thu", "Fri", "Sat"]

/-- The names of the months from January on. -/
def monthNames : List String :=
  ["Jan", "Feb", "Mar", "Apr", "May", "Jun", "Jul", "Aug", "Sep", "Oct", "Nov", "Dec"]

/-- A number in two digits. -/
def twoDigits (n : Nat) : String := (if n < 10 then "0" else "") ++ toString n

/-- The date of an instant as a cookie gives it. -/
def date (time : Instant) : String :=
  let c := time.calendar
  let s := c.secondOfDay
  dayNames.getD c.weekday "" ++ ", " ++ twoDigits c.day ++ " " ++
    monthNames.getD (c.month - 1) "" ++ " " ++ toString c.year ++ " " ++
    twoDigits (s / 3600) ++ ":" ++ twoDigits (s / 60 % 60) ++ ":" ++ twoDigits (s % 60) ++ " GMT"

/-- The text of an expiry. For one in the past the word `removed` stands for any such date. -/
def Expiry.text : Expiry → String
  | .at time => date time
  | .past => "removed"

/-- Whether `Secure` is written: when it is set, or when it was left open and the cookie goes along
from everywhere. -/
def isSecure (c : Cookie) : Bool := c.secure.getD (c.sameSite == some .none)

/-- The attributes that are written, in order. -/
def attributes (c : Cookie) : List String :=
  [(if c.httpOnly = some true then some "HttpOnly" else none),
   c.sameSite.map ("SameSite=" ++ ·.text),
   (if c.isSecure then some "Secure" else none),
   c.path.map ("Path=" ++ ·),
   c.bareDomain.map ("Domain=" ++ ·),
   c.maxAge.map (fun d => "Max-Age=" ++ toString d.wholeSeconds),
   c.expires.map (fun e => "Expires=" ++ Expiry.text e)].filterMap id

/-- The written name and value, which a browser sends back. -/
def pair (c : Cookie) : List Char := encode c.name ++ '=' :: encode c.value

/-- The text that sets the cookie. -/
def text (c : Cookie) : String :=
  String.ofList c.pair ++ String.join (c.attributes.map ("; " ++ ·))

/-- The header value that sets the cookie; none if an attribute has a character that no header
value can have. -/
def header? (c : Cookie) : Option HeaderValue := HeaderValue.ofString? c.text

/-! ## Reading -/

/-- The text of a coded name or value. -/
def decode? (written : List Char) : Option String :=
  (Utf8.decode (Percent.decode (Utf8.encode written))).toOption.map String.ofList

/-- The name and value of one piece of a cookie header. -/
def readPair? (piece : List Char) : Option (String × String) := do
  let (name, value) ← Text.cutFirst? '=' piece
  let name := Text.trimChars name
  if name = [] then none
  return (← decode? name, ← decode? (Text.trimChars value))

/-- The names and values of a cookie header in order; a piece that is no pair is left out. -/
def readPairs (header : List Char) : List (String × String) :=
  (Text.splitAll ';' header).filterMap readPair?

end Cookie

end WebLogin
