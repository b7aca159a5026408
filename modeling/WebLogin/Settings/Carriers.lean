import WebLogin.Settings.CookieTemplate

/-!
# Settings

The settings of each carrier and of the state of a redirected login, with their defaults. What is
read from variables is read in a fixed order, and the first text that its reader does not take
decides the error.
-/

namespace WebLogin

/-- Twelve hours, the lifetime of an authenticator if no other is set. -/
def defaultExpiry : Duration := ⟨12 * 3600 * 1000000000, by decide, by decide⟩

/-- The header of a token if no other is set. -/
def defaultTokenHeader : HeaderName := ⟨"x-auth-token", by decide⟩

/-- The settings of the cookie carrier. -/
structure CookieSettings where
  cookie : CookieTemplate := ⟨"authenticator", "/", none, true, true, some .lax⟩
  fingerprinting : Bool := true
  maxAge : Option Duration := none
  idle : Option Duration := none
  expiry : Duration := defaultExpiry

/-- The settings of the session carrier. -/
structure SessionSettings where
  key : String := "authenticator"
  fingerprinting : Bool := true
  idle : Option Duration := none
  expiry : Duration := defaultExpiry

/-- The settings of the carrier of bearer tokens. -/
structure BearerSettings where
  header : HeaderName := defaultTokenHeader
  parts : List RequestPart := [.headers]
  idle : Option Duration := none
  expiry : Duration := defaultExpiry

/-- The settings of the carrier of signed tokens. -/
structure JwtSettings where
  header : HeaderName := defaultTokenHeader
  parts : List RequestPart := [.headers]
  issuer : String := "authwright"
  encryptSubject : Bool := true
  idle : Option Duration := none
  expiry : Duration := defaultExpiry

/-- The settings of the cookie that goes along with a redirected login. -/
structure CsrfSettings where
  cookie : CookieTemplate := ⟨"OAuth2State", "/", none, true, true, some .lax⟩
  expiry : Duration := ⟨5 * 60 * 1000000000, by decide, by decide⟩

/-- Reads a duration that may stay unset. -/
def Environment.seconds? (env : Environment) (name : String) (current : Option Duration) :
    Except ConfigError (Option Duration) := do
  return (← env.read? Variable.seconds name) <|> current

/-- The settings of the cookie carrier that the variables give. -/
def CookieSettings.ofEnvironment (env : Environment) : Except ConfigError CookieSettings := do
  let d : CookieSettings := {}
  let cookie ← d.cookie.readFrom env "AUTH_COOKIE_"
  let fingerprinting ← env.readOr Variable.boolean "AUTH_COOKIE_FINGERPRINTING" d.fingerprinting
  let maxAge ← env.seconds? "AUTH_COOKIE_MAX_AGE_SECS" d.maxAge
  let idle ← env.seconds? "AUTH_COOKIE_IDLE_TIMEOUT_SECS" d.idle
  let expiry ← env.readOr Variable.seconds "AUTH_COOKIE_EXPIRY_SECS" d.expiry
  return { cookie, fingerprinting, maxAge, idle, expiry }

/-- The settings of the session carrier that the variables give. -/
def SessionSettings.ofEnvironment (env : Environment) : Except ConfigError SessionSettings := do
  let d : SessionSettings := {}
  let fingerprinting ← env.readOr Variable.boolean "AUTH_SESSION_FINGERPRINTING" d.fingerprinting
  let idle ← env.seconds? "AUTH_SESSION_IDLE_TIMEOUT_SECS" d.idle
  let expiry ← env.readOr Variable.seconds "AUTH_SESSION_EXPIRY_SECS" d.expiry
  return { key := (env.text? "AUTH_SESSION_KEY").getD d.key, fingerprinting, idle, expiry }

/-- The settings of the carrier of bearer tokens that the variables give. -/
def BearerSettings.ofEnvironment (env : Environment) : Except ConfigError BearerSettings := do
  let d : BearerSettings := {}
  let header ← env.readOr Variable.headerName "AUTH_BEARER_HEADER_NAME" d.header
  let parts ← env.readOr Variable.requestParts "AUTH_BEARER_REQUEST_PARTS" d.parts
  let idle ← env.seconds? "AUTH_BEARER_IDLE_TIMEOUT_SECS" d.idle
  let expiry ← env.readOr Variable.seconds "AUTH_BEARER_EXPIRY_SECS" d.expiry
  return { header, parts, idle, expiry }

/-- The settings of the carrier of signed tokens that the variables give. -/
def JwtSettings.ofEnvironment (env : Environment) : Except ConfigError JwtSettings := do
  let d : JwtSettings := {}
  let header ← env.readOr Variable.headerName "AUTH_JWT_HEADER_NAME" d.header
  let parts ← env.readOr Variable.requestParts "AUTH_JWT_REQUEST_PARTS" d.parts
  let encryptSubject ← env.readOr Variable.boolean "AUTH_JWT_ENCRYPT_SUBJECT" d.encryptSubject
  let idle ← env.seconds? "AUTH_JWT_IDLE_TIMEOUT_SECS" d.idle
  let expiry ← env.readOr Variable.seconds "AUTH_JWT_EXPIRY_SECS" d.expiry
  return {
    header, parts, encryptSubject, idle, expiry
    issuer := (env.text? "AUTH_JWT_ISSUER").getD d.issuer }

/-- The settings of the cookie of a redirected login that the variables give. -/
def CsrfSettings.ofEnvironment (env : Environment) : Except ConfigError CsrfSettings := do
  let d : CsrfSettings := {}
  let cookie ← d.cookie.readFrom env "AUTH_CSRF_COOKIE_"
  let expiry ← env.readOr Variable.seconds "AUTH_CSRF_EXPIRY_SECS" d.expiry
  return { cookie, expiry }

end WebLogin
