import WebLogin.Proofs.Lifecycle.Login

/-!
# Values in requests

A value that is put into a request takes the place of one value there and of no other. Where one carrier
writes and looks up in the same place, that is where the value is found. A token is always written to its
header, but it is looked up in the places of the settings, in their order; so a value of the same name in
the query string may come before it.

* `Request.Shows`: when a token in its header is what is looked up.
* `embedded_found_iff`: every carrier, settings, value and request.
* `embedded_token_shadowed`: a token that is not found where it was put.
-/

namespace WebLogin

/-- Whether a token that is put into its header is what is looked up then: the header is one of the
places, it is read, and no value of the query string is found first; or the query string has this very
token. -/
def Request.Shows (r : Request) (header : HeaderName) (parts : List RequestPart) (token : String) :
    Prop :=
  HeaderValue.Readable token ∧ .headers ∈ parts ∧
      (parts.head? = some .headers ∨ r.query? header.text = none) ∨
    .query ∈ parts ∧ r.query? header.text = some token

theorem Request.read_withHeaderText?_self {r r' : Request} {name : HeaderName} {text : String}
    (h : r.withHeaderText? name text = some r') (other : String) :
    r'.header? name = some other ↔ HeaderValue.Readable text ∧ other = text := by
  obtain ⟨value, hValue, rfl⟩ := Option.map_eq_some_iff.mp h
  have hHeader : (r.withHeader name value).header? name = value.text? := by
    simp only [header?, withHeader, first?_set, Option.bind_some]
  rw [hHeader]
  constructor
  · exact HeaderValue.readable_of_text? hValue
  · rintro ⟨hReadable, rfl⟩
    exact HeaderValue.text?_ofString? hReadable hValue

theorem TokenHeader.found_iff {header : HeaderName} {token : String} {r r' : Request}
    (hPlaced : TokenHeader.placeInRequest header token r = .ok r') (parts : List RequestPart) :
    r'.findValue? header parts = some token ↔ r.Shows header parts token := by
  have hHeader := Request.read_withHeaderText?_self (Service.placeInRequest_eq_ok hPlaced)
  have hQuery : r'.query? header.text = r.query? header.text := by
    obtain ⟨value, -, rfl⟩ := Option.map_eq_some_iff.mp (Service.placeInRequest_eq_ok hPlaced)
    exact r.query?_withHeader header value header.text
  rw [Request.findValue?_eq_some_iff fun other hOther => ((hHeader other).mp hOther).2, hQuery,
    hHeader token, Request.Shows]
  simp only [and_true]

namespace Service

variable {δ ν : Type}

/-- The place of a request that a value is written to. -/
def slot : Service δ ν → ν → Request.Slot
  | cookie _ _ _, value => .cookie value.name
  | session settings _ _, _ => .session settings.key
  | bearer settings, _ => .header settings.header
  | jwt settings _ _, _ => .header settings.header

/-- Whether a value that is put into a request is the one that the service looks up then. A cookie that
the service made has the name of the settings. -/
def Installs : Service δ ν → Request → ν → Prop
  | cookie settings _ _, r, value =>
    value.name = settings.cookie.name ∨ r.cookie? settings.cookie.name = some value.value
  | session _ _ _, _, _ => True
  | bearer settings, r, value => r.Shows settings.header settings.parts value
  | jwt settings _ _, r, value => r.Shows settings.header settings.parts value

theorem frame_of_placeInRequest {header : HeaderName} {token : String} {r r' : Request}
    (hPlaced : TokenHeader.placeInRequest header token r = .ok r') :
    (∀ slot, slot ≠ .header header → r'.read slot = r.read slot) ∧ r'.peer = r.peer := by
  obtain ⟨value, -, rfl⟩ := Option.map_eq_some_iff.mp (placeInRequest_eq_ok hPlaced)
  exact ⟨fun slot hSlot => Request.read_withHeader hSlot r value, rfl⟩

theorem cookie?_withCookie_iff (r : Request) (value : Cookie) (name : String) :
    (r.withCookie value.name value.value).cookie? name = some value.value ↔
      value.name = name ∨ r.cookie? name = some value.value := by
  by_cases hName : value.name = name
  · subst hName
    simp [Request.cookie?_withCookie]
  · have hOther : Request.Slot.cookie name ≠ .cookie value.name := by
      rintro ⟨⟩
      exact hName rfl
    have hSame := Request.read_withCookie hOther r value.value
    simp only [Request.read] at hSame
    simp [hSame, hName]

/-- A value that is put into a request is the one that is looked up then: in the session always, as a
cookie if it has the name of the settings, whatever stood there, and as a token exactly if the request
shows it. Every other place reads the same as before, and so does the peer. -/
theorem embedded_found_iff (S : Service δ ν) {value : ν} {r r' : Request}
    (hEmbedded : S.carrier.embedInRequest value r = .ok r') :
    (S.carrier.locate r' = some (S.wire value) ↔ S.Installs r value) ∧
      (∀ slot, slot ≠ S.slot value → r'.read slot = r.read slot) ∧ r'.peer = r.peer := by
  have hPlaced : S.carrier.placeInRequest value r = .ok r' :=
    Except.mapError_eq_ok_iff.mp hEmbedded
  cases S with
  | cookie settings keeping fingerprint =>
    obtain rfl := Except.ok.inj hPlaced
    refine ⟨?_, fun slot hSlot => ?_, rfl⟩
    · exact cookie?_withCookie_iff r value settings.cookie.name
    · exact Request.read_withCookie hSlot r value.value
  | session settings codec fingerprint =>
    obtain rfl := Except.ok.inj hPlaced
    refine ⟨⟨fun _ => trivial, fun _ => ?_⟩, fun slot hSlot => ?_, rfl⟩
    · exact Request.sessionValue?_withSessionValue r settings.key value
    · exact Request.read_withSessionValue hSlot r value
  | bearer settings =>
    exact ⟨TokenHeader.found_iff hPlaced settings.parts, frame_of_placeInRequest hPlaced⟩
  | jwt settings codec stored =>
    exact ⟨TokenHeader.found_iff hPlaced settings.parts, frame_of_placeInRequest hPlaced⟩

theorem embedInRequest_bearer (settings : BearerSettings) {token : String} {value : HeaderValue}
    (h : HeaderValue.ofString? token = some value) (r : Request) :
    (bearer settings).carrier.embedInRequest token r = .ok (r.withHeader settings.header value) := by
  have hPlaced : TokenHeader.placeInRequest settings.header token r =
      .ok (r.withHeader settings.header value) := by
    unfold TokenHeader.placeInRequest Request.withHeaderText?
    rw [h]
    rfl
  exact Except.mapError_eq_ok_iff.mpr hPlaced

/-- A token is found in place of a former one in its header, though the query string has another. -/
theorem embedded_found_in_header :
    let S : Service Unit String := .bearer { parts := [.headers, .query] }
    let r : Request :=
      { headers := [(defaultTokenHeader, ⟨[105, 100], by decide⟩)], target := "/?x-auth-token=id-1" }
    ∃ r', S.carrier.embedInRequest "id-2" r = .ok r' ∧ S.carrier.locate r' = some "id-2" ∧
      r'.query? "x-auth-token" = r.query? "x-auth-token" := by
  intro S r
  have hReadable : HeaderValue.Readable "id-2" := by
    intro c hc
    have hChars : c ∈ ['i', 'd', '-', '2'] := hc
    simp only [List.mem_cons, List.not_mem_nil, or_false] at hChars
    rcases hChars with rfl | rfl | rfl | rfl <;> decide
  obtain ⟨value, hValue⟩ := HeaderValue.exists_ofString? hReadable
  have hEmbedded := embedInRequest_bearer { parts := [.headers, .query] } hValue r
  obtain ⟨hFound, hOthers, -⟩ := S.embedded_found_iff hEmbedded
  refine ⟨_, hEmbedded, hFound.mpr (.inl ⟨hReadable, by decide, .inl rfl⟩), ?_⟩
  exact hOthers (.query "x-auth-token") (by rintro ⟨⟩)

/-- The token of a new login is put into a request whose query string has the token of a former one. With
the query string before the header, what is looked up is the former one. -/
theorem embedded_token_shadowed :
    let S : Service Unit String := .bearer { parts := [.query, .headers] }
    let r : Request := { target := "/?x-auth-token=id-1" }
    ∃ r', S.carrier.embedInRequest "id-2" r = .ok r' ∧ S.carrier.locate r' = some "id-1" := by
  intro S r
  have hValue : HeaderValue.ofString? "id-2" = some ⟨[105, 100, 45, 50], by decide⟩ := by decide
  refine ⟨_, embedInRequest_bearer { parts := [.query, .headers] } hValue r, ?_⟩
  have hQuery : r.query? defaultTokenHeader.text = some "id-1" := by decide +kernel
  change Request.findValue? (r.withHeader _ _) defaultTokenHeader [.query, .headers] = some "id-1"
  unfold Request.findValue?
  rw [List.findSome?_cons]
  simp only [Request.query?_withHeader, hQuery]

end Service

end WebLogin
