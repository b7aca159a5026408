import WebLogin.Settings.Environment

/-!
# Templates of cookies

What the cookies of one purpose have in common. The removal of a cookie keeps its name, path and
domain, by which a browser tells cookies apart.
-/

namespace WebLogin

/-- The attributes that the cookies of one purpose have in common. -/
structure CookieTemplate where
  name : String
  path : String
  domain : Option String
  secure : Bool
  httpOnly : Bool
  sameSite : Option SameSite
  deriving DecidableEq, Repr

namespace CookieTemplate

/-- The cookie with a value; without an age it lasts as long as the browser's session. -/
def cookie (t : CookieTemplate) (maxAge : Option Duration) (value : String) : Cookie :=
  { name := t.name, value, path := some t.path, domain := t.domain, secure := some t.secure,
    httpOnly := some t.httpOnly, sameSite := t.sameSite, maxAge }

/-- The cookie that makes a browser drop the one of this template. -/
def removal (t : CookieTemplate) : Cookie :=
  { name := t.name, value := "", path := some t.path, domain := t.domain, maxAge := some .zero,
    expires := some (.at .epoch) }

/-- The template with what the variables of a family say, read in the order of the fields. -/
def readFrom (t : CookieTemplate) (env : Environment) (family : String) :
    Except ConfigError CookieTemplate := do
  let secure ← env.readOr Variable.boolean (family ++ "SECURE") t.secure
  let httpOnly ← env.readOr Variable.boolean (family ++ "HTTP_ONLY") t.httpOnly
  let sameSite ← env.read? Variable.sameSite (family ++ "SAME_SITE")
  return {
    name := (env.text? (family ++ "NAME")).getD t.name
    path := (env.text? (family ++ "PATH")).getD t.path
    domain := env.text? (family ++ "DOMAIN") <|> t.domain
    secure, httpOnly
    sameSite := sameSite <|> t.sameSite }

end CookieTemplate

end WebLogin
