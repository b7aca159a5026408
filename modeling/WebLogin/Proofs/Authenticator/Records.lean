import WebLogin.Authenticator.Kinds
import WebLogin.Proofs.Authenticator.Rounding
import WebLogin.Proofs.Json.Form

/-!
# Records and their JSON

A record that is written as JSON is read back with its times in whole seconds and all its texts as
they were, whatever they hold.

* `truncates_fromCookie`, `truncates_fromSession`: what a record loses, and that it loses no more of it
  later (`fromCookie_fromCookie`, `fromSession_fromSession`).
* `reads_instant`, `reads_duration`: times, rounded down and cut.
* `reads_login`: the login, which is also the subject of a token.
* `reads_cookieAuthenticator`, `reads_sessionAuthenticator`: the records.
-/

namespace WebLogin

/-- How a record comes back out of a cookie: its times rounded down, its durations cut. -/
def Authenticator.fromCookie (a : CookieAuthenticator) : CookieAuthenticator :=
  a.rounded (a.idle.map Duration.cut) ⟨a.details.maxAge.map Duration.cut, a.details.fingerprint⟩

/-- How a record comes back out of a session. -/
def Authenticator.fromSession (a : SessionAuthenticator) : SessionAuthenticator :=
  a.rounded (a.idle.map Duration.cut) a.details

namespace Authenticator

/-- The second record is the first with its times in whole seconds: instants rounded down, and the
timeout cut towards zero. `Details` says what becomes of the details. -/
structure Truncates {δ : Type} (Details : δ → δ → Prop) (a b : Authenticator δ) : Prop where
  id : b.id = a.id
  login : b.login = a.login
  lastUsed : a.lastUsed.RoundsTo b.lastUsed
  expires : a.expires.RoundsTo b.expires
  idle : Option.Rel Duration.CutsTo a.idle b.idle
  details : Details a.details b.details

theorem truncates_fromCookie (a : CookieAuthenticator) :
    Truncates (fun d e => Option.Rel Duration.CutsTo d.maxAge e.maxAge ∧
      e.fingerprint = d.fingerprint) a a.fromCookie where
  id := rfl
  login := rfl
  lastUsed := a.lastUsed.roundsTo_floor
  expires := a.expires.roundsTo_floor
  idle := Duration.rel_cutsTo_map a.idle
  details := ⟨Duration.rel_cutsTo_map a.details.maxAge, rfl⟩

theorem truncates_fromSession (a : SessionAuthenticator) :
    Truncates (fun d e => e = d) a a.fromSession where
  id := rfl
  login := rfl
  lastUsed := a.lastUsed.roundsTo_floor
  expires := a.expires.roundsTo_floor
  idle := Duration.rel_cutsTo_map a.idle
  details := rfl

/-- What has come out of a cookie once comes out of it unchanged. -/
theorem fromCookie_fromCookie (a : CookieAuthenticator) :
    a.fromCookie.fromCookie = a.fromCookie := by
  rw [fromCookie, fromCookie, rounded_rounded]
  simp only [rounded, Duration.map_cut_cut]

theorem fromSession_fromSession (a : SessionAuthenticator) :
    a.fromSession.fromSession = a.fromSession := by
  rw [fromSession, fromSession, rounded_rounded]
  simp only [rounded, Duration.map_cut_cut]

end Authenticator

namespace Json.Form

/-! ## Times -/

theorem reads_instant (t : Instant) : instant.Reads t t.floor := by
  obtain ⟨hLower, hUpper⟩ := t.seconds_bounds
  refine ⟨exact_ofInt hLower hUpper, ?_⟩
  change (Tree.ofValue (.ofInt t.seconds)).integer64?.bind Instant.ofSeconds? = some t.floor
  rw [integer64?_ofInt hLower hUpper]
  exact t.ofSeconds?_seconds

theorem reads_duration (d : Duration) : duration.Reads d d.cut := by
  obtain ⟨hLower, hUpper⟩ := d.wholeSeconds_bounds
  refine ⟨exact_ofInt hLower hUpper, ?_⟩
  change (Tree.ofValue (.ofInt d.wholeSeconds)).integer64?.bind Duration.ofSeconds? = some d.cut
  rw [integer64?_ofInt hLower hUpper]
  exact d.ofSeconds?_wholeSeconds

theorem optional_duration (o : Option Duration) :
    duration.optional (some (.ofValue (.ofOption duration.write o))) = some (o.map Duration.cut) :=
  optional_ofOption (fun d => reads_duration d) (fun _ h => by cases h) o

/-! ## Records -/

theorem reads_login (l : Login) : login.Reads l l := by
  refine ⟨⟨trivial, trivial, trivial⟩, ?_⟩
  have hFields : (Tree.ofValue (login.write l)).fields? ["providerID", "providerKey"] =
      some [some (.string (some l.provider)), some (.string (some l.key))] :=
    fields?_ofValue rfl (by decide)
  simp only [login] at hFields ⊢
  rw [hFields]
  rfl

theorem exact_commonFields {δ : Type} (a : Authenticator δ) {more : List (String × Json)}
    (h : MembersExact more) : MembersExact (commonFields a ++ more) :=
  ⟨trivial, (reads_login a.login).exact, (reads_instant a.lastUsed).exact,
    (reads_instant a.expires).exact, exact_ofOption (fun d => (reads_duration d).exact) a.idle, h⟩

theorem reads_cookieAuthenticator (a : CookieAuthenticator) :
    cookieAuthenticator.Reads a a.fromCookie := by
  refine ⟨exact_commonFields a ⟨?_, ?_, trivial⟩, ?_⟩
  · exact exact_ofOption (fun d => (reads_duration d).exact) a.details.maxAge
  · exact exact_ofOption (fun s => (reads_text s).exact) a.details.fingerprint
  · have hFields : (Tree.ofValue (cookieAuthenticator.write a)).fields?
        (commonNames ++ ["cookieMaxAge", "fingerprint"]) =
        some [some (.ofValue (text.write a.id)), some (.ofValue (login.write a.login)),
          some (.ofValue (instant.write a.lastUsed)), some (.ofValue (instant.write a.expires)),
          some (.ofValue (.ofOption duration.write a.idle)),
          some (.ofValue (.ofOption duration.write a.details.maxAge)),
          some (.ofValue (.ofOption .string a.details.fingerprint))] :=
      fields?_ofValue rfl (by decide)
    simp only [cookieAuthenticator] at hFields ⊢
    rw [hFields]
    simp only [Option.bind_eq_bind, Option.bind_some, (reads_text _).required,
      (reads_login _).required, (reads_instant _).required, optional_duration, optional_text]
    rfl

theorem reads_sessionAuthenticator (a : SessionAuthenticator) :
    sessionAuthenticator.Reads a a.fromSession := by
  refine ⟨exact_commonFields a ⟨?_, trivial⟩, ?_⟩
  · exact exact_ofOption (fun s => (reads_text s).exact) a.details.fingerprint
  · have hFields : (Tree.ofValue (sessionAuthenticator.write a)).fields?
        (commonNames ++ ["fingerprint"]) =
        some [some (.ofValue (text.write a.id)), some (.ofValue (login.write a.login)),
          some (.ofValue (instant.write a.lastUsed)), some (.ofValue (instant.write a.expires)),
          some (.ofValue (.ofOption duration.write a.idle)),
          some (.ofValue (.ofOption .string a.details.fingerprint))] :=
      fields?_ofValue rfl (by decide)
    simp only [sessionAuthenticator] at hFields ⊢
    rw [hFields]
    simp only [Option.bind_eq_bind, Option.bind_some, (reads_text _).required,
      (reads_login _).required, (reads_instant _).required, optional_duration, optional_text]
    rfl

end Json.Form

end WebLogin
