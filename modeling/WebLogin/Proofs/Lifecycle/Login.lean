import WebLogin.Proofs.Lifecycle.Service
import WebLogin.Proofs.Web.Unreserved

/-!
# A login is usable at once

What a client is given at its login gives the login back as soon as it comes with a request.

* `read_issued`: an issued wire value is read as the authenticator that it was issued for.
* `locate_placed`, `belongs_placed`: the value is found where it was put, and the client it came
  from is the client it belongs to.
* `retrieve_of_read`: what is read is found, if it is the client's own and valid.
* `retrieve_new_login`: the whole way, from `create` over `start` and `embedInRequest` to
  `retrieve`.
-/

namespace WebLogin

theorem JwtCodec.readable_token (c : JwtCodec) (claims : Jwt.Claims) :
    HeaderValue.Readable (c.token claims) :=
  (c.unreserved_token claims).readable

namespace Service

variable {δ ν σ : Type}

/-! ## What the statement is about -/

/-- A new authenticator of a carrier, made for a request. -/
structure IsNew (S : Service δ ν) (request : Request) (a : Authenticator δ) : Prop where
  expires : a.lastUsed.add? S.carrier.expiry = some a.expires
  idle : a.idle = S.carrier.idle
  details : a.details = S.carrier.imprint request

/-- Tokens are looked for in the headers first. -/
def HeadersFirst : Service δ ν → Prop
  | bearer settings => settings.parts.head? = some .headers
  | jwt settings _ _ => settings.parts.head? = some .headers
  | _ => True

/-- Settings of which every time is a second or more, with tokens looked for in the headers
first. -/
structure Admitted (S : Service δ ν) : Prop where
  expiry : 1000000000 ≤ S.carrier.expiry.nanoseconds
  idle : Authenticator.Patient S.carrier.idle
  headers : S.HeadersFirst

/-- Fingerprints, where they are taken, are taken of a request's metadata. -/
def FingerprintsMetadata : Service δ ν → Prop
  | cookie _ _ fingerprint => ReadsMetadata fingerprint
  | session _ _ fingerprint => ReadsMetadata fingerprint
  | _ => True

/-- What a token asks of its authenticator: an identifier that a header can bring back, or an expiry
that is not before 1970. -/
def Presentable : Service δ ν → Authenticator δ → Prop
  | bearer _, a => HeaderValue.Readable a.id
  | jwt _ _ _, a => 0 ≤ a.expires.nanoseconds
  | _, _ => True

/-- What a service gives back of a new authenticator: all of it out of a store, and out of a wire
value all of it with times in whole seconds. -/
def kept : Service δ ν → Authenticator δ → Authenticator δ
  | cookie _ .storeBacked _, a => a
  | cookie _ (.selfContained _) _, a => a.fromCookie
  | session _ _ _, a => a.fromSession
  | bearer _, a => a
  | jwt _ _ stored, a => if stored then a else a.rounded a.idle a.details

/-! ## The way there -/

theorem isNew_of_create {S : Service δ ν} {h : Host δ σ} {login : Login} {request : Request} {s : σ}
    {a : Authenticator δ} (hCreate : (h.run (S.carrier.create login request) s).1 = .ok a) :
    S.IsNew request a ∧ a.lastUsed = h.clock s := by
  rw [Carrier.run_create] at hCreate
  split at hCreate
  · cases hCreate
  split at hCreate
  · cases hCreate
  next id hId expires hExpires =>
    obtain rfl := Except.ok.inj hCreate
    exact ⟨⟨hExpires, rfl, rfl⟩, rfl⟩

/-- An issued wire value is read as its authenticator. -/
theorem read_issued {S : Service δ ν} {request : Request} {a : Authenticator δ} {raw : String}
    {store : Store δ} (hNew : S.IsNew request a) (hPresentable : S.Presentable a)
    (hIssues : S.Issues a raw) (hStore : S.isStored = true → store.find? a.id = some a) :
    S.read store raw = .ok (some (S.kept a)) := by
  cases S with
  | cookie settings keeping fingerprint =>
    cases keeping with
    | storeBacked =>
      obtain rfl : raw = a.id := hIssues
      exact congrArg Except.ok (hStore rfl)
    | selfContained codec =>
      obtain ⟨sealing, signing, rfl⟩ := hIssues
      simp only [read, kept]
      rw [codec.decode_wire (Json.Form.reads_cookieAuthenticator a)]
      rfl
  | session settings codec fingerprint =>
    obtain ⟨sealing, signing, rfl⟩ := hIssues
    simp only [read, kept]
    rw [codec.decode_wire (Json.Form.reads_sessionAuthenticator a)]
    rfl
  | bearer settings =>
    obtain rfl : raw = a.id := hIssues
    exact congrArg Except.ok (hStore rfl)
  | jwt settings codec stored =>
    obtain ⟨hClash, nonce, rfl⟩ := hIssues
    have hCustom : a.details = ⟨none⟩ := hNew.details
    have hEpoch : 0 ≤ a.expires.seconds := Int.ediv_nonneg hPresentable (by decide)
    simp only [read, kept]
    rw [codec.decode_token_of_none settings (by rw [hCustom]) hEpoch]
    cases stored with
    | true => exact congrArg Except.ok (hStore rfl)
    | false =>
      have hIdle : a.idle = settings.idle := hNew.idle
      rw [hIdle, hCustom]
      rfl

theorem placeInRequest_eq_ok {header : HeaderName} {token : String} {r r' : Request}
    (h : TokenHeader.placeInRequest header token r = .ok r') :
    r.withHeaderText? header token = some r' := by
  unfold TokenHeader.placeInRequest at h
  cases hRequest : r.withHeaderText? header token with
  | none =>
    rw [hRequest] at h
    cases h
  | some found =>
    rw [hRequest] at h
    exact congrArg some (Except.ok.inj h)

/-- A value that was put into a request is found there. -/
theorem locate_placed {S : Service δ ν} {a : Authenticator δ} {raw : String} {r r' : Request}
    (hHeaders : S.HeadersFirst) (hPresentable : S.Presentable a) (hIssues : S.Issues a raw)
    (hPlace : S.carrier.placeInRequest (S.carrier.wrap a raw) r = .ok r') :
    S.carrier.locate r' = some raw := by
  cases S with
  | cookie settings keeping fingerprint =>
    obtain rfl := Except.ok.inj hPlace
    exact Request.cookie?_withCookie r settings.cookie.name raw
  | session settings codec fingerprint =>
    obtain rfl := Except.ok.inj hPlace
    exact Request.sessionValue?_withSessionValue r settings.key raw
  | bearer settings =>
    obtain rfl : raw = a.id := hIssues
    exact Request.findValue?_withHeaderText? hPresentable hHeaders (placeInRequest_eq_ok hPlace)
  | jwt settings codec stored =>
    obtain ⟨hClash, nonce, hRaw⟩ := hIssues
    have hReadable : HeaderValue.Readable raw := hRaw ▸ codec.readable_token _
    exact Request.findValue?_withHeaderText? hReadable hHeaders (placeInRequest_eq_ok hPlace)

/-- To put a value into a request leaves the fingerprint of its client as it is. -/
theorem belongs_placed {S : Service δ ν} {a : Authenticator δ} {raw : String} {r r' : Request}
    (hMetadata : S.FingerprintsMetadata) (hNew : S.IsNew r a)
    (hPlace : S.carrier.placeInRequest (S.carrier.wrap a raw) r = .ok r') :
    S.carrier.belongs r' (S.kept a) = true := by
  cases S with
  | cookie settings keeping fingerprint =>
    obtain rfl := Except.ok.inj hPlace
    have hSame : fingerprint (r.withCookie settings.cookie.name raw) = fingerprint r :=
      hMetadata _ _ rfl rfl rfl
    have hKept : ((cookie settings keeping fingerprint).kept a).details.fingerprint =
        a.details.fingerprint := by
      cases keeping <;> rfl
    have hDetails : a.details.fingerprint =
        if settings.fingerprinting then some (fingerprint r) else none :=
      congrArg CookieDetails.fingerprint hNew.details
    change (!settings.fingerprinting ||
      ((cookie settings keeping fingerprint).kept a).details.fingerprint ==
        some (fingerprint (r.withCookie settings.cookie.name raw))) = true
    rw [hKept, hSame, hDetails]
    cases settings.fingerprinting <;> simp
  | session settings codec fingerprint =>
    obtain rfl := Except.ok.inj hPlace
    have hSame : fingerprint (r.withSessionValue settings.key raw) = fingerprint r :=
      hMetadata _ _ rfl rfl rfl
    have hDetails : a.details.fingerprint =
        if settings.fingerprinting then some (fingerprint r) else none :=
      congrArg SessionDetails.fingerprint hNew.details
    change (!settings.fingerprinting ||
      a.details.fingerprint == some (fingerprint (r.withSessionValue settings.key raw))) = true
    rw [hSame, hDetails]
    cases settings.fingerprinting <;> simp
  | bearer settings => rfl
  | jwt settings codec stored => rfl

/-- A new authenticator is valid, as it is and as it comes back. -/
theorem isValid_kept {S : Service δ ν} {request : Request} {a : Authenticator δ}
    (hAdmitted : S.Admitted) (hNew : S.IsNew request a) : (S.kept a).isValid a.lastUsed = true := by
  have hIdle : Authenticator.Patient a.idle := hNew.idle ▸ hAdmitted.idle
  have hWhole := Authenticator.isValid_new hNew.expires hAdmitted.expiry hIdle
  have hRounded := fun (idle : Option Duration) (hIdle : Authenticator.Patient idle) (details : δ) =>
    Authenticator.isValid_rounded (a := a) hNew.expires hAdmitted.expiry hIdle details
  have hCut := Authenticator.patient_cut hIdle
  cases S with
  | cookie settings keeping fingerprint =>
    cases keeping with
    | storeBacked => exact hWhole
    | selfContained codec => exact hRounded _ hCut _
  | session settings codec fingerprint => exact hRounded _ hCut _
  | bearer settings => exact hWhole
  | jwt settings codec stored =>
    cases stored with
    | true => exact hWhole
    | false => exact hRounded _ hIdle _

/-! ## Every service -/

/-- A reliable host finds what it is asked for, or finds that it is not there. -/
theorem not_failed_find {h : Host δ σ} (hReliable : h.Reliable) {α : Type} (p : Program δ α)
    (s : σ) {id : String} {fault : StoreFault} : ⟨.find id, .error fault⟩ ∉ h.trace p s := by
  induction p generalizing s with
  | done a => exact List.not_mem_nil
  | ask q resume ih =>
    intro hMem
    rcases List.mem_cons.mp hMem with hHead | hTail
    · obtain ⟨rfl, hFault⟩ := Sigma.mk.inj hHead
      obtain ⟨hAnswer, -⟩ := hReliable (.find id) s
      rw [← eq_of_heq hFault] at hAnswer
      cases hAnswer
    · exact ih _ _ hTail

/-- What is read from the wire value that a request brings is found, if it is the client's own and valid. -/
theorem retrieve_of_read {S : Service δ ν} {h : Host δ σ}
    (hReliable : S.isStored = true → h.Reliable) {request : Request} {raw : String}
    (hLocate : S.carrier.locate request = some raw) {s : σ} {a : Authenticator δ}
    (hRead : S.read (h.store s) raw = .ok (some a)) (hBelongs : S.carrier.belongs request a = true)
    (hValid : a.isValid (h.clock s) = true) :
    (h.run (S.carrier.retrieve request) s).1 = .ok (some a) := by
  have hDecode : (h.run (S.carrier.decode raw) s).1 = .ok (some a) := by
    rcases decode_outcome S h raw s with ⟨hResult, -⟩ | ⟨hStored, id, fault, hTrace, -⟩
    · rw [hResult, hRead]
      rfl
    · exact absurd (hTrace ▸ List.mem_singleton_self _)
        (not_failed_find (hReliable hStored) (S.carrier.decode raw) s)
  rw [Carrier.run_retrieve _ h hLocate, hDecode]
  exact congrArg Except.ok (if_pos ⟨hBelongs, hValid⟩)

/-- A new login is usable at once: if an authenticator is made, its wire value is issued and the
value is put into a request, then `retrieve` finds it in that request, at the same instant. Out of
a store it comes back as it is, out of a wire value with its times in whole seconds. -/
theorem retrieve_new_login (S : Service δ ν) (h : Host δ σ)
    (hReliable : S.isStored = true → h.Reliable) (hAdmitted : S.Admitted)
    (hMetadata : S.FingerprintsMetadata) {login : Login} {request placed : Request} {s : σ}
    {a : Authenticator δ} {value : ν}
    (hCreate : (h.run (S.carrier.create login request) s).1 = .ok a)
    (hPresentable : S.Presentable a)
    (hStart : (h.run (S.carrier.start a) (h.run (S.carrier.create login request) s).2).1 = .ok value)
    (hEmbed : S.carrier.embedInRequest value request = .ok placed) :
    (h.run (S.carrier.retrieve placed)
      (h.run (S.carrier.start a) (h.run (S.carrier.create login request) s).2).2).1 =
      .ok (some (S.kept a)) := by
  generalize hCreated : (h.run (S.carrier.create login request) s).2 = created at *
  generalize hStarted : (h.run (S.carrier.start a) created).2 = started at *
  obtain ⟨hNew, hNow⟩ := isNew_of_create hCreate
  have hOutcome := issue_outcome S h a created
  rw [Carrier.run_start] at hStart
  rw [Carrier.state_start] at hStarted
  cases hIssue : (h.run (S.carrier.issue a) created).1 with
  | error cause =>
    rw [hIssue] at hStart
    cases hStart
  | ok raw =>
  rw [hIssue] at hStart
  obtain rfl := Except.ok.inj hStart
  obtain ⟨hIssues, hStore⟩ := hOutcome.issued raw hIssue
  have hPlace : S.carrier.placeInRequest (S.carrier.wrap a raw) request = .ok placed :=
    Except.mapError_eq_ok_iff.mp hEmbed
  have hLocate := locate_placed hAdmitted.headers hPresentable hIssues hPlace
  have hRecord : S.isStored = true → (h.store started).find? a.id = some a := by
    intro hStored
    rw [← hStarted, hStore, if_pos hStored, Store.find?_add, if_pos rfl]
  have hRead := read_issued hNew hPresentable hIssues hRecord
  have hDecode : (h.run (S.carrier.decode raw) started).1 = .ok (some (S.kept a)) := by
    rcases decode_outcome S h raw started with ⟨hResult, -⟩ | ⟨hStored, id, fault, hTrace, -⟩
    · rw [hResult, hRead]
      rfl
    · exact absurd (hTrace ▸ List.mem_singleton_self _)
        (not_failed_find (hReliable hStored) (S.carrier.decode raw) started)
  have hClock : h.clock started = a.lastUsed := by
    rw [← hStarted, h.clock_run, ← hCreated, h.clock_run, hNow]
  rw [Carrier.run_retrieve _ h hLocate, hDecode, hClock]
  simp [Carrier.verdict, belongs_placed hMetadata hNew hPlace, isValid_kept hAdmitted hNew]

/-- A codec with a key of the least length, without pepper and encryption. -/
def sampleCodec : SignedCodec := ⟨⟨List.replicate 32 0, "", by decide⟩, .plain⟩

/-- A login in a signed cookie, half a second into 1970. -/
theorem retrieve_new_login_in_cookie :
    let S : Service CookieDetails Cookie :=
      .cookie {} (.selfContained sampleCodec) (Fingerprint.ofRequest false)
    let h : Host CookieDetails (Surroundings CookieDetails) := Surroundings.steady
    let start : Surroundings CookieDetails :=
      { clock := ⟨500000000, by decide, by decide⟩, generators := [.listed ["id"]] }
    let creation := h.run (S.carrier.create ⟨"provider", "key"⟩ {}) start
    ∃ a value placed,
      creation.1 = .ok a ∧
      (h.run (S.carrier.start a) creation.2).1 = .ok value ∧
      S.carrier.embedInRequest value {} = .ok placed ∧
      (h.run (S.carrier.retrieve placed) (h.run (S.carrier.start a) creation.2).2).1 =
        .ok (some (S.kept a)) := by
  intro S h start creation
  refine ⟨_, _, _, rfl, rfl, rfl, ?_⟩
  exact retrieve_new_login S h (fun _ => Surroundings.reliable_steady)
    ⟨by decide, fun timeout hTimeout => (by cases hTimeout), trivial⟩
    (readsMetadata_ofRequest false) rfl trivial rfl rfl

end Service

end WebLogin
