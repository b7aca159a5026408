import WebLogin.Proofs.Lifecycle.Embedding
import WebLogin.Proofs.Lifecycle.Likeness

/-!
# Requests that bring a value

A client comes back with what it holds. Where its request brings that to the carrier, and is otherwise the
request that it would be with any other value, two such requests with wire values of twins match.

* `Asking`: such requests, whichever way the value is brought.
* `Asking.requestsMatch`: they match.
* `Asking.embedding`: the way of the carrier itself, which puts the value into a request; with tokens
  looked for in any places.
-/

namespace WebLogin

open Text (Unreserved)

/-! ## Requests that bring a value -/

/-- Where a token is looked for, what stands before the header decides; or the header does. -/
theorem Request.findValue?_decided (r : Request) (name : HeaderName) (parts : List RequestPart) :
    (∃ found, ∀ r' : Request, r'.query? name.text = r.query? name.text →
        r'.findValue? name parts = found) ∨
      ∀ (r' : Request) (text : String), r'.query? name.text = r.query? name.text →
        r'.header? name = some text → r'.findValue? name parts = some text := by
  unfold findValue?
  induction parts with
  | nil => exact .inl ⟨none, fun _ _ => rfl⟩
  | cons part rest ih =>
    simp only [List.findSome?_cons]
    cases part with
    | headers => exact .inr fun r' text _ hHeader => by simp only [hHeader]
    | query =>
      cases hQuery : r.query? name.text with
      | some value => exact .inl ⟨some value, fun r' hSame => by simp only [hSame]⟩
      | none =>
        rw [hQuery] at ih
        rcases ih with ⟨found, hFound⟩ | hText
        · refine .inl ⟨found, fun r' hSame => ?_⟩
          simpa only [hSame] using hFound r' hSame
        · refine .inr fun r' text hSame hHeader => ?_
          simpa only [hSame] using hText r' text hSame hHeader

namespace Service

variable {δ ν : Type}

/-- A request as it comes with what its client holds. What it brings leaves the client the one that it is,
and the service looks up that very value, or looks elsewhere. -/
structure Asking (S : Service δ ν) where
  bring : Option String → Request
  imprint_bring : ∀ held held', S.carrier.imprint (bring held) = S.carrier.imprint (bring held')
  belongs_bring : ∀ held held' a, S.carrier.belongs (bring held) a = S.carrier.belongs (bring held') a
  locate_bring : (∀ raw, Unreserved raw → S.carrier.locate (bring (some raw)) = some raw) ∨
    ∀ held held', S.carrier.locate (bring held) = S.carrier.locate (bring held')

namespace Asking

variable {S : Service δ ν}

/-- A request that is the same whatever its client holds. -/
def still (S : Service δ ν) (request : Request) : S.Asking where
  bring _ := request
  imprint_bring _ _ := rfl
  belongs_bring _ _ _ := rfl
  locate_bring := .inr fun _ _ => rfl

theorem requestsMatch (asking : S.Asking) {held held' : Option String}
    (hHeld : Option.Rel S.Counterpart held held') :
    S.RequestsMatch (asking.bring held) (asking.bring held') := by
  refine ⟨asking.imprint_bring held held', asking.belongs_bring held held', ?_⟩
  cases hHeld with
  | none => exact Option.rel_of_eq (Counterpart.refl S) rfl
  | @some raw raw' hRaws =>
    rcases unreserved_of_counterpart hRaws with rfl | ⟨hText, hText'⟩
    · exact Option.rel_of_eq (Counterpart.refl S) rfl
    rcases asking.locate_bring with hFound | hSame
    · exact Option.rel_of_eq_some (hFound raw hText) (hFound raw' hText') hRaws
    · exact Option.rel_of_eq (Counterpart.refl S) (hSame (some raw) (some raw'))

end Asking

/-- The request with a wire value in the place where the carrier puts it. A text that no header can have is
left out. -/
def withRaw : Service δ ν → Request → String → Request
  | cookie settings _ _, r, raw => r.withCookie settings.cookie.name raw
  | session settings _ _, r, raw => r.withSessionValue settings.key raw
  | bearer settings, r, raw => (r.withHeaderText? settings.header raw).getD r
  | jwt settings _ _, r, raw => (r.withHeaderText? settings.header raw).getD r

variable {S : Service δ ν}

/-- It is the request that the carrier makes. -/
theorem withRaw_of_placeInRequest {a : Authenticator δ} {r r' : Request} {raw : String}
    (hPlaced : S.carrier.placeInRequest (S.carrier.wrap a raw) r = .ok r') : S.withRaw r raw = r' := by
  cases S with
  | cookie settings keeping fingerprint => exact Except.ok.inj hPlaced
  | session settings codec fingerprint => exact Except.ok.inj hPlaced
  | bearer settings => exact congrArg (Option.getD · r) (placeInRequest_eq_ok hPlaced)
  | jwt settings codec stored => exact congrArg (Option.getD · r) (placeInRequest_eq_ok hPlaced)

/-- The request with what a client holds, if it holds anything. -/
def bringing (S : Service δ ν) (r : Request) (held : Option String) : Request :=
  held.elim r (S.withRaw r)

/-- Two requests with the same metadata come from the same client. -/
theorem client_of_metadata (hMetadata : S.FingerprintsMetadata) {r r' : Request}
    (hHeaders : r.headers = r'.headers) (hTarget : r.target = r'.target) (hPeer : r.peer = r'.peer) :
    S.carrier.imprint r = S.carrier.imprint r' ∧
      ∀ a, S.carrier.belongs r a = S.carrier.belongs r' a := by
  cases S with
  | cookie settings keeping fingerprint =>
    have hSame : fingerprint r = fingerprint r' := hMetadata r r' hHeaders hTarget hPeer
    simp only [carrier, cookieCarrier, hSame, implies_true, and_self]
  | session settings codec fingerprint =>
    have hSame : fingerprint r = fingerprint r' := hMetadata r r' hHeaders hTarget hPeer
    simp only [carrier, sessionCarrier, hSame, implies_true, and_self]
  | bearer settings => exact ⟨rfl, fun _ => rfl⟩
  | jwt settings codec stored => exact ⟨rfl, fun _ => rfl⟩

/-- What a client brings leaves it the client that it is. -/
theorem client_bringing (hMetadata : S.FingerprintsMetadata) (r : Request) (held : Option String) :
    S.carrier.imprint (S.bringing r held) = S.carrier.imprint r ∧
      ∀ a, S.carrier.belongs (S.bringing r held) a = S.carrier.belongs r a := by
  cases held with
  | none => exact ⟨rfl, fun _ => rfl⟩
  | some raw =>
    cases S with
    | cookie settings keeping fingerprint =>
      exact client_of_metadata (S := cookie settings keeping fingerprint) hMetadata rfl rfl rfl
    | session settings codec fingerprint =>
      exact client_of_metadata (S := session settings codec fingerprint) hMetadata rfl rfl rfl
    | bearer settings => exact ⟨rfl, fun _ => rfl⟩
    | jwt settings codec stored => exact ⟨rfl, fun _ => rfl⟩

/-- A token in its header is found there, or what is found does not depend on it. -/
theorem findToken_withHeaderText? (r : Request) (header : HeaderName) (parts : List RequestPart) :
    (∀ raw, Unreserved raw →
        ((r.withHeaderText? header raw).getD r).findValue? header parts = some raw) ∨
      ∀ held : Option String, (held.elim r fun raw => (r.withHeaderText? header raw).getD r).findValue?
        header parts = r.findValue? header parts := by
  have hQuery (raw : String) :
      ((r.withHeaderText? header raw).getD r).query? header.text = r.query? header.text := by
    unfold Request.withHeaderText?
    cases HeaderValue.ofString? raw with
    | none => rfl
    | some value => rfl
  rcases r.findValue?_decided header parts with ⟨found, hFound⟩ | hHeader
  · refine .inr fun held => ?_
    cases held with
    | none => rfl
    | some raw => exact (hFound _ (hQuery raw)).trans (hFound r rfl).symm
  · refine .inl fun raw hText => hHeader _ raw (hQuery raw) ?_
    obtain ⟨value, hValue⟩ := HeaderValue.exists_ofString? hText.readable
    have hPlaced : r.withHeaderText? header raw = some (r.withHeader header value) := by
      rw [Request.withHeaderText?, hValue]
      rfl
    rw [hPlaced]
    exact (Request.read_withHeaderText?_self hPlaced raw).mpr ⟨hText.readable, rfl⟩

theorem locate_bringing (S : Service δ ν) (r : Request) :
    (∀ raw, Unreserved raw → S.carrier.locate (S.bringing r (some raw)) = some raw) ∨
      ∀ held, S.carrier.locate (S.bringing r held) = S.carrier.locate r := by
  cases S with
  | cookie settings keeping fingerprint =>
    exact .inl fun raw _ => r.cookie?_withCookie settings.cookie.name raw
  | session settings codec fingerprint =>
    exact .inl fun raw _ => r.sessionValue?_withSessionValue settings.key raw
  | bearer settings => exact findToken_withHeaderText? r settings.header settings.parts
  | jwt settings codec stored => exact findToken_withHeaderText? r settings.header settings.parts

/-- A request with what its client holds in the place where the carrier puts it. Fingerprints, where they
are taken, are taken of other parts of the request. -/
def Asking.embedding (hMetadata : S.FingerprintsMetadata) (request : Request) : S.Asking where
  bring := S.bringing request
  imprint_bring held held' :=
    (client_bringing hMetadata request held).1.trans (client_bringing hMetadata request held').1.symm
  belongs_bring held held' a := ((client_bringing hMetadata request held).2 a).trans
    ((client_bringing hMetadata request held').2 a).symm
  locate_bring := (S.locate_bringing request).imp_right fun hSame held held' =>
    (hSame held).trans (hSame held').symm

end Service

end WebLogin
