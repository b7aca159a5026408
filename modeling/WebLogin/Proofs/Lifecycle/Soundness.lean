import WebLogin.Proofs.Lifecycle.Service

/-!
# What `retrieve` lets in

Whatever a request brings, `retrieve` gives an authenticator only if it is valid, the client's own
and vouched for by the value that was looked up; and no request can make it fail.

* `Authenticates`: how a value vouches for an authenticator, on each service.
* `read_sound`: nothing else is read.
* `retrieve_sound`: the statement for a whole run.
-/

namespace WebLogin

/-! ## How a value vouches for a record -/

/-- A signed value that carries a record: the tag is right for the nonce and the payload, the
payload is an encryption of a text, and the text is one of that record. -/
def SignedCodec.Carries {α : Type} (c : SignedCodec) (form : Json.Form α) (raw : String) (a : α) :
    Prop :=
  ∃ nonce payload sealing json, '-' ∉ nonce.toList ∧
    raw = "1" ++ "-" ++ Hex.text (Hmac.tag c.signer.key (Utf8.bytes
      (c.signer.pepper ++ nonce ++ "-" ++ payload ++ c.signer.pepper))) ++ "-" ++ nonce ++ "-" ++
      payload ∧
    payload = c.crypter.encrypt sealing json ∧ form.parse? json = some a

theorem SignedCodec.carries_of_decode {α : Type} {c : SignedCodec} {form : Json.Form α}
    {raw : String} {a : α} (h : c.decode form raw = .ok a) : c.Carries form raw a := by
  obtain ⟨nonce, sealing, json, hNonce, hRaw, hParse⟩ := SignedCodec.decode_eq_ok_iff.mp h
  exact ⟨nonce, _, sealing, json, hNonce, hRaw, rfl, hParse⟩

/-- A token that attests a record: it is signed with HMAC-SHA256, its header names that algorithm,
its issuer is the one of the settings, and its claims describe the record. -/
def JwtCodec.Attests (c : JwtCodec) (settings : JwtSettings) (token : String)
    (a : JwtAuthenticator) : Prop :=
  ∃ header payload headerTree payloadTree claims,
    token.toList = (header ++ '.' :: payload) ++ '.' :: Base64.encode .urlSafe
      (Hmac.tag c.secret (Utf8.encode (header ++ '.' :: payload))) ∧
    readPart header = .ok headerTree ∧ Jwt.algorithmOf? headerTree = some "HS256" ∧
    readPart payload = .ok payloadTree ∧ Jwt.Claims.ofTree? payloadTree = some claims ∧
    claims.issuer = settings.issuer ∧ c.Describes settings claims a

theorem JwtCodec.attests_of_decode {c : JwtCodec} {settings : JwtSettings} {token : String}
    {a : JwtAuthenticator} (h : c.decode settings token = .ok a) : c.Attests settings token a := by
  obtain ⟨claims, hVerify, hDescribes⟩ := JwtCodec.decode_eq_ok_iff.mp h
  obtain ⟨text, hToken, hRead⟩ := JwtCodec.verify_eq_ok_iff.mp hVerify
  obtain ⟨header, payload, headerTree, payloadTree, rfl, -, hHeader, hAlgorithm, hPayload, hClaims,
    -, hIssuer⟩ := JwtCodec.readClaims_eq_ok_iff.mp hRead
  exact ⟨header, payload, headerTree, payloadTree, claims, hToken, hHeader, hAlgorithm, hPayload,
    hClaims, hIssuer, hDescribes⟩

namespace Service

variable {δ ν σ : Type}

/-- How a value vouches for an authenticator: it carries or attests it, or the store holds the
authenticator under the key that it is or attests. -/
def Authenticates : Service δ ν → Store δ → String → Authenticator δ → Prop
  | cookie _ .storeBacked _, store, raw, a => store.find? raw = some a
  | cookie _ (.selfContained codec) _, _, raw, a =>
    codec.Carries Json.Form.cookieAuthenticator raw a
  | session _ codec _, _, raw, a => codec.Carries Json.Form.sessionAuthenticator raw a
  | bearer _, store, raw, a => store.find? raw = some a
  | jwt settings codec false, _, raw, a => codec.Attests settings raw a
  | jwt settings codec true, store, raw, a =>
    ∃ issued, codec.Attests settings raw issued ∧ store.find? issued.id = some a

/-! ## Soundness -/

theorem map_some_eq_ok {ε α : Type} {x : Except ε α} {a : α} (h : x.map some = .ok (some a)) :
    x = .ok a := by
  cases x with
  | error e => cases h
  | ok b => exact congrArg Except.ok (Option.some.inj (Except.ok.inj h))

/-- What is read is vouched for by the value that it is read from. -/
theorem read_sound {S : Service δ ν} {store : Store δ} {raw : String} {a : Authenticator δ}
    (h : S.read store raw = .ok (some a)) : S.Authenticates store raw a := by
  cases S with
  | cookie settings keeping fingerprint =>
    cases keeping with
    | storeBacked => exact Except.ok.inj h
    | selfContained codec => exact SignedCodec.carries_of_decode (map_some_eq_ok h)
  | session settings codec fingerprint => exact SignedCodec.carries_of_decode (map_some_eq_ok h)
  | bearer settings => exact Except.ok.inj h
  | jwt settings codec stored =>
    simp only [read] at h
    cases hDecode : codec.decode settings raw with
    | error error =>
      rw [hDecode] at h
      cases h
    | ok issued =>
      rw [hDecode] at h
      have hAttests := JwtCodec.attests_of_decode hDecode
      cases stored with
      | false =>
        obtain rfl : issued = a := Option.some.inj (Except.ok.inj h)
        exact hAttests
      | true => exact ⟨issued, hAttests, Except.ok.inj h⟩

theorem fingerprinted_of_belongs {S : Service δ ν} {request : Request} {a : Authenticator δ}
    (h : S.carrier.belongs request a = true) : S.Fingerprinted request a := by
  cases S with
  | cookie settings keeping fingerprint =>
    intro hOn
    simpa [carrier, cookieCarrier, hOn] using h
  | session settings codec fingerprint =>
    intro hOn
    simpa [carrier, sessionCarrier, hOn] using h
  | bearer settings => trivial
  | jwt settings codec stored => trivial

/-! ## Whole runs -/

/-- After a wire value is decoded, the store is not asked again. -/
theorem trace_retrieve {S : Service δ ν} {h : Host δ σ} {request : Request} {raw : String}
    (hLocate : S.carrier.locate request = some raw) (s : σ) {e : Exchange δ}
    (hCall : e.1.isCall = true) :
    e ∈ h.trace (S.carrier.retrieve request) s ↔ e ∈ h.trace (S.carrier.decode raw) s := by
  rw [S.carrier.retrieve_eq hLocate, h.trace_bind, List.mem_append]
  refine ⟨fun he => he.resolve_right fun hLater => ?_, .inl⟩
  cases hCall.symm.trans ((h.always_run (S.carrier.quiet_judge request _) _).1 e hLater)

/-- The only failure of `retrieve` is that of a call of the store. -/
theorem retrieve_eq_error_iff (S : Service δ ν) (h : Host δ σ) (request : Request) (s : σ)
    (error : LifecycleError) :
    (h.run (S.carrier.retrieve request) s).1 = .error error ↔
      ∃ id fault, ⟨.find id, .error fault⟩ ∈ h.trace (S.carrier.retrieve request) s ∧
        error = .failed S.carrier.name .retrieval (.store fault) := by
  cases hLocate : S.carrier.locate request with
  | none =>
    rw [S.carrier.retrieve_of_none hLocate, h.run_done, h.trace_done]
    constructor
    · intro hError
      cases hError
    · rintro ⟨id, fault, hMem, -⟩
      cases hMem
  | some raw =>
    have hCalls (id : String) (fault : StoreFault) :
        ⟨.find id, .error fault⟩ ∈ h.trace (S.carrier.retrieve request) s ↔
          ⟨.find id, .error fault⟩ ∈ h.trace (S.carrier.decode raw) s :=
      trace_retrieve hLocate s rfl
    simp only [hCalls]
    rw [S.carrier.run_retrieve h hLocate]
    rcases decode_outcome S h raw s with ⟨hResult, hNone⟩ | ⟨-, id, fault, hTrace, hResult⟩
    · rw [hResult]
      constructor
      · intro hError
        cases hRead : S.read (h.store s) raw with
        | error fault =>
          rw [hRead] at hError
          cases hError
        | ok found =>
          rw [hRead] at hError
          cases found with
          | none => cases hError
          | some a => cases hError
      · rintro ⟨id, fault, hMem, -⟩
        exact absurd ⟨fault, rfl⟩ (hNone _ hMem)
    · rw [hResult, hTrace]
      constructor
      · intro hError
        exact ⟨id, fault, List.mem_singleton_self _, (Except.error.inj hError).symm⟩
      · rintro ⟨other, found, hMem, rfl⟩
        obtain ⟨hQuery, hAnswer⟩ := Sigma.mk.inj (List.mem_singleton.mp hMem)
        obtain rfl := Query.find.inj hQuery
        obtain rfl := Except.error.inj (eq_of_heq hAnswer)
        rfl

/-- What `retrieve` gives is valid at the clock's reading, vouched for by the value that the request
brings, and the client's own; it fails only where a call of the store does, and never without a
store, whatever the request brings. -/
theorem retrieve_sound (S : Service δ ν) (h : Host δ σ) (request : Request) (s : σ) :
    (∀ a, (h.run (S.carrier.retrieve request) s).1 = .ok (some a) →
      (h.clock s < a.expires ∧
        ∀ timeout, a.idle = some timeout → (h.clock s).since a.lastUsed ≤ timeout.nanoseconds) ∧
      (∃ raw, S.carrier.locate request = some raw ∧ S.Authenticates (h.store s) raw a) ∧
      S.Fingerprinted request a) ∧
    (∀ error, (h.run (S.carrier.retrieve request) s).1 = .error error ↔
      ∃ id fault, ⟨.find id, .error fault⟩ ∈ h.trace (S.carrier.retrieve request) s ∧
        error = .failed S.carrier.name .retrieval (.store fault)) ∧
    (S.isStored = false →
      (∀ e ∈ h.trace (S.carrier.retrieve request) s, e.1.isCall = false) ∧
      ∀ error, (h.run (S.carrier.retrieve request) s).1 ≠ .error error) := by
  refine ⟨fun a hResult => ?_, S.retrieve_eq_error_iff h request s, fun hStored => ?_⟩
  · cases hLocate : S.carrier.locate request with
    | none =>
      rw [S.carrier.retrieve_of_none hLocate] at hResult
      cases hResult
    | some raw =>
      obtain ⟨hDecode, hBelongs, hValid⟩ := S.carrier.accepted_of_retrieve h hLocate hResult
      have hRead : S.read (h.store s) raw = .ok (some a) := by
        rcases decode_outcome S h raw s with ⟨hOutcome, -⟩ | ⟨-, id, fault, -, hOutcome⟩
        · exact Except.mapError_eq_ok_iff.mp (hOutcome.symm.trans hDecode)
        · cases hOutcome.symm.trans hDecode
      exact ⟨Authenticator.isValid_iff.mp hValid, ⟨raw, rfl, read_sound hRead⟩,
        fingerprinted_of_belongs hBelongs⟩
  · have hQuiet := (h.always_run
      (quiet_of_callsOnly hStored (S.callsOnly_retrieve request)) s).1
    refine ⟨hQuiet, fun error hError => ?_⟩
    obtain ⟨id, fault, hMem, -⟩ := (S.retrieve_eq_error_iff h request s error).mp hError
    cases hQuiet _ hMem

end Service

end WebLogin
