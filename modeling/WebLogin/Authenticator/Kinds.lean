import WebLogin.Authenticator.Basic
import WebLogin.Json.Form

/-!
# The kinds of authenticator

What each carrier adds to an authenticator, and the JSON of those that are kept inside a wire value.
Times are written as whole seconds since 1970, rounded down, and durations as whole seconds towards
zero; a field that is not set is written as null and may be missing when it is read.
-/

namespace WebLogin

/-- What the cookie carrier adds: how long the cookie lasts, and the client's fingerprint. -/
structure CookieDetails where
  maxAge : Option Duration
  fingerprint : Option String
  deriving DecidableEq, Repr

/-- What the session carrier adds: the client's fingerprint. -/
structure SessionDetails where
  fingerprint : Option String
  deriving DecidableEq, Repr

/-- What the token carrier adds: claims of the host's own. -/
structure JwtDetails where
  claims : Option (Dictionary Json)
  deriving Repr

abbrev CookieAuthenticator := Authenticator CookieDetails

/-- An authenticator in the host's session. -/
abbrev SessionAuthenticator := Authenticator SessionDetails

/-- An authenticator behind a bearer token, which adds nothing. -/
abbrev BearerAuthenticator := Authenticator Unit

/-- An authenticator in a signed token. -/
abbrev JwtAuthenticator := Authenticator JwtDetails

namespace Json.Form

def login : Form Login where
  write l := .object [("providerID", .string l.provider), ("providerKey", .string l.key)]
  read? t := do
    match ← t.fields? ["providerID", "providerKey"] with
    | [provider, key] => return ⟨← text.required provider, ← text.required key⟩
    | _ => none

/-- An instant as whole seconds. -/
def instant : Form Instant where
  write t := .ofInt t.seconds
  read? t := t.integer64?.bind Instant.ofSeconds?

/-- A duration as whole seconds. -/
def duration : Form Duration where
  write d := .ofInt d.wholeSeconds
  read? t := t.integer64?.bind Duration.ofSeconds?

/-- The fields that all authenticators have. -/
def commonFields {δ : Type} (a : Authenticator δ) : List (String × Json) :=
  [("id", .string a.id), ("loginInfo", login.write a.login),
   ("lastUsedAt", instant.write a.lastUsed), ("expiresAt", instant.write a.expires),
   ("idleTimeout", .ofOption duration.write a.idle)]

/-- The names of the fields that all authenticators have. -/
def commonNames : List String := ["id", "loginInfo", "lastUsedAt", "expiresAt", "idleTimeout"]

def cookieAuthenticator : Form CookieAuthenticator where
  write a := .object (commonFields a ++
    [("cookieMaxAge", .ofOption duration.write a.details.maxAge),
     ("fingerprint", .ofOption .string a.details.fingerprint)])
  read? t := do
    match ← t.fields? (commonNames ++ ["cookieMaxAge", "fingerprint"]) with
    | [id, info, lastUsed, expires, idle, maxAge, fingerprint] =>
      return {
        id := ← text.required id
        login := ← login.required info
        lastUsed := ← instant.required lastUsed
        expires := ← instant.required expires
        idle := ← duration.optional idle
        details := ⟨← duration.optional maxAge, ← text.optional fingerprint⟩ }
    | _ => none

def sessionAuthenticator : Form SessionAuthenticator where
  write a := .object (commonFields a ++
    [("fingerprint", .ofOption .string a.details.fingerprint)])
  read? t := do
    match ← t.fields? (commonNames ++ ["fingerprint"]) with
    | [id, info, lastUsed, expires, idle, fingerprint] =>
      return {
        id := ← text.required id
        login := ← login.required info
        lastUsed := ← instant.required lastUsed
        expires := ← instant.required expires
        idle := ← duration.optional idle
        details := ⟨← text.optional fingerprint⟩ }
    | _ => none

end Json.Form

end WebLogin
