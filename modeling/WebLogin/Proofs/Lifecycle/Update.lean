import WebLogin.Proofs.Lifecycle.Login

/-!
# Writing back

What writing back a changed authenticator comes to on each service: a new record in the place of the
former one, or a new wire value, or both.

* `kept_usedAt`, `kept_kept`: what is kept of an authenticator does not change any more, however often
  it is written back.
* `read_of_issues`: what a value that was issued is read as, whatever has become of the store since.
* `reissue_outcome`: every run of `reissue`. With a store that holds a record of the identifier, and
  without one, nothing but a reserved name can be in the way.
-/

namespace WebLogin

/-! ## Tokens of authenticators that end before 1970 -/

namespace JwtCodec

/-- A token is read back as the claims it was made of, and only if they end in 1970 or later. -/
theorem verify_token_eq_ok {c : JwtCodec} {claims read : Jwt.Claims} {issuer : String}
    (hOwn : Portable claims.custom) (hIssued : Fits claims.issuedAt)
    (hExpires : Fits claims.expires) (hRead : c.verify (c.token claims) issuer = .ok read) :
    read = claims ∧ 0 ≤ claims.expires := by
  obtain ⟨text, hToken, hClaims⟩ := verify_eq_ok_iff.mp hRead
  obtain ⟨header, payload, headerTree, payloadTree, rfl, hDot, -, -, hPayload, hFound, hEpoch, -⟩ :=
    readClaims_eq_ok_iff.mp hClaims
  -- the last dot of a token stands before its tag, and the one before it before the claims
  have hWritten : (c.token claims).toList =
      (encodePart Jwt.header.render ++ '.' :: encodePart claims.json.render) ++ '.' ::
        c.signature (encodePart Jwt.header.render ++ '.' :: encodePart claims.json.render) :=
    String.toList_ofList
  obtain ⟨hText, -⟩ := Text.eq_of_cutLast (hToken.symm.trans hWritten) (dot_not_mem_encode _)
    (dot_not_mem_encode _)
  obtain ⟨-, hPart⟩ := Text.eq_of_cutLast hText hDot (dot_not_mem_encode _)
  rw [hPart, readPart_encodePart (exact_json hOwn hIssued hExpires)] at hPayload
  obtain rfl := Except.ok.inj hPayload
  rw [ofTree?_json hOwn hIssued hExpires] at hFound
  obtain rfl := Option.some.inj hFound
  exact ⟨rfl, hEpoch⟩

theorem decode_token_eq_ok {c : JwtCodec} {settings : JwtSettings} {a read : JwtAuthenticator}
    {nonce : Vector UInt8 Crypter.nonceSize} (hCustom : a.details.claims = none)
    (hRead : c.decode settings (c.token (claimsOf settings a
      ((c.subjectCrypter settings.encryptSubject).encrypt nonce
        (Json.Form.login.render a.login)))) = .ok read) :
    read = a.rounded settings.idle ⟨none⟩ ∧ 0 ≤ a.expires.seconds := by
  obtain ⟨claims, hVerify, -⟩ := decode_eq_ok_iff.mp hRead
  have hOwn : Portable (claimsOf settings a ((c.subjectCrypter settings.encryptSubject).encrypt nonce
      (Json.Form.login.render a.login))).custom := by
    rw [claimsOf, hCustom]
    exact portable_empty
  obtain ⟨-, hEpoch⟩ := verify_token_eq_ok hOwn a.lastUsed.seconds_bounds
    a.expires.seconds_bounds hVerify
  rw [decode_token_of_none c settings hCustom hEpoch nonce] at hRead
  exact ⟨(Except.ok.inj hRead).symm, hEpoch⟩

end JwtCodec

namespace Service

variable {δ ν σ : Type}

/-! ## What is kept -/

/-- A time as a service keeps it: rounded down unless there is a store. -/
def keptTime (S : Service δ ν) (t : Instant) : Instant := if S.isStored then t else t.floor

theorem kept_usedAt (S : Service δ ν) (a : Authenticator δ) (t : Instant) :
    S.kept (a.usedAt t) = (S.kept a).usedAt (S.keptTime t) := by
  cases S with
  | cookie settings keeping fingerprint => cases keeping <;> rfl
  | session settings codec fingerprint => rfl
  | bearer settings => rfl
  | jwt settings codec stored => cases stored <;> rfl

theorem kept_kept (S : Service δ ν) (a : Authenticator δ) : S.kept (S.kept a) = S.kept a := by
  cases S with
  | cookie settings keeping fingerprint =>
    cases keeping with
    | storeBacked => rfl
    | selfContained codec => exact a.fromCookie_fromCookie
  | session settings codec fingerprint => exact a.fromSession_fromSession
  | bearer settings => rfl
  | jwt settings codec stored =>
    cases stored with
    | true => rfl
    | false => exact a.rounded_rounded a.idle a.idle a.details a.details

theorem id_kept (S : Service δ ν) (a : Authenticator δ) : (S.kept a).id = a.id := by
  cases S with
  | cookie settings keeping fingerprint => cases keeping <;> rfl
  | session settings codec fingerprint => rfl
  | bearer settings => rfl
  | jwt settings codec stored => cases stored <;> rfl

theorem expires_kept (S : Service δ ν) (a : Authenticator δ) :
    (S.kept a).expires = S.keptTime a.expires := by
  cases S with
  | cookie settings keeping fingerprint => cases keeping <;> rfl
  | session settings codec fingerprint => rfl
  | bearer settings => rfl
  | jwt settings codec stored => cases stored <;> rfl

theorem idle_kept (S : Service δ ν) (a : Authenticator δ) :
    (S.kept a).idle = a.idle ∨ (S.kept a).idle = a.idle.map Duration.cut := by
  cases S with
  | cookie settings keeping fingerprint =>
    cases keeping with
    | storeBacked => exact .inl rfl
    | selfContained codec => exact .inr rfl
  | session settings codec fingerprint => exact .inr rfl
  | bearer settings => exact .inl rfl
  | jwt settings codec stored => cases stored <;> exact .inl rfl

/-- With a store nothing is lost. -/
theorem kept_of_stored {S : Service δ ν} (hStored : S.isStored = true) (a : Authenticator δ) :
    S.kept a = a := by
  cases S with
  | cookie settings keeping fingerprint =>
    cases keeping with
    | storeBacked => rfl
    | selfContained codec => cases hStored
  | session settings codec fingerprint => cases hStored
  | bearer settings => rfl
  | jwt settings codec stored =>
    obtain rfl : stored = true := hStored
    rfl

/-- Rounding does not move a time across the start of 1970. -/
theorem keptTime_seconds (S : Service δ ν) (t : Instant) : (S.keptTime t).seconds = t.seconds := by
  unfold keptTime
  split
  · rfl
  · exact Int.mul_ediv_cancel t.seconds (by decide)

theorem keptTime_le (S : Service δ ν) (t : Instant) : S.keptTime t ≤ t := by
  unfold keptTime
  split
  · exact Int.le_refl t.nanoseconds
  · exact t.floor_le

/-! ## What is read -/

/-- What a token does not carry: its authenticator has no claims of the host's own, and the idle
timeout of the settings. -/
def Plain : Service δ ν → Authenticator δ → Prop
  | jwt settings _ _, a => a.details.claims = none ∧ a.idle = settings.idle
  | _, _ => True

theorem Plain.usedAt {S : Service δ ν} {a : Authenticator δ} (hPlain : S.Plain a) (t : Instant) :
    S.Plain (a.usedAt t) := by
  cases S with
  | cookie settings keeping fingerprint => trivial
  | session settings codec fingerprint => trivial
  | bearer settings => trivial
  | jwt settings codec stored => exact hPlain

theorem Plain.kept {S : Service δ ν} {a : Authenticator δ} (hPlain : S.Plain a) :
    S.Plain (S.kept a) := by
  cases S with
  | cookie settings keeping fingerprint => trivial
  | session settings codec fingerprint => trivial
  | bearer settings => trivial
  | jwt settings codec stored => cases stored <;> exact hPlain

theorem plain_of_isNew {S : Service δ ν} {request : Request} {a : Authenticator δ}
    (hNew : S.IsNew request a) : S.Plain a := by
  cases S with
  | cookie settings keeping fingerprint => trivial
  | session settings codec fingerprint => trivial
  | bearer settings => trivial
  | jwt settings codec stored =>
    have hDetails : a.details = ⟨none⟩ := hNew.details
    exact ⟨congrArg JwtDetails.claims hDetails, hNew.idle⟩

/-- A successor takes over nothing that would set it apart from a fresh authenticator. -/
theorem successor_of_plain {S : Service δ ν} {old fresh : Authenticator δ} (hOld : S.Plain old) :
    S.carrier.successor old fresh = fresh := by
  cases S with
  | cookie settings keeping fingerprint => rfl
  | session settings codec fingerprint => rfl
  | bearer settings => rfl
  | jwt settings codec stored =>
    have hClaims : old.details.claims = none := hOld.1
    simp only [Carrier.successor, carrier, jwtCarrier, hClaims]
    rfl

theorem clash?_of_plain {S : Service δ ν} {a : Authenticator δ} (hPlain : S.Plain a) :
    S.clash? a = none := by
  cases S with
  | cookie settings keeping fingerprint => rfl
  | session settings codec fingerprint => rfl
  | bearer settings => rfl
  | jwt settings codec stored =>
    have hClaims : a.details.claims = none := hPlain.1
    simp only [clash?, JwtCodec.clash?, hClaims]
    rfl

/-- A token can be read only if it ends in 1970 or later. -/
def Legible : Service δ ν → Authenticator δ → Prop
  | jwt _ _ _, a => 0 ≤ a.expires.seconds
  | _, _ => True

theorem expires_of_not_legible {S : Service δ ν} {a : Authenticator δ} (hNot : ¬S.Legible a) :
    a.expires.nanoseconds < 0 := by
  cases S with
  | cookie settings keeping fingerprint => exact absurd trivial hNot
  | session settings codec fingerprint => exact absurd trivial hNot
  | bearer settings => exact absurd trivial hNot
  | jwt settings codec stored =>
    have hPast : ¬0 ≤ a.expires.seconds := hNot
    unfold Instant.seconds at hPast
    omega

theorem read_of_issues {S : Service δ ν} {a : Authenticator δ} {raw : String} (hPlain : S.Plain a)
    (hIssues : S.Issues a raw) (store : Store δ) :
    S.read store raw = .ok (if S.isStored then store.find? a.id else some (S.kept a)) ∨
      (∃ error, S.read store raw = .error error) ∧ ¬S.Legible a := by
  cases S with
  | cookie settings keeping fingerprint =>
    left
    cases keeping with
    | storeBacked =>
      obtain rfl : raw = a.id := hIssues
      rfl
    | selfContained codec =>
      obtain ⟨sealing, signing, rfl⟩ := hIssues
      simp only [read]
      rw [codec.decode_wire (Json.Form.reads_cookieAuthenticator a)]
      rfl
  | session settings codec fingerprint =>
    left
    obtain ⟨sealing, signing, rfl⟩ := hIssues
    simp only [read]
    rw [codec.decode_wire (Json.Form.reads_sessionAuthenticator a)]
    rfl
  | bearer settings =>
    left
    obtain rfl : raw = a.id := hIssues
    rfl
  | jwt settings codec stored =>
    obtain ⟨hClash, nonce, rfl⟩ := hIssues
    obtain ⟨hCustom, hIdle⟩ := hPlain
    have hDetails : a.details = ⟨none⟩ := by rw [← hCustom]
    simp only [read]
    by_cases hEpoch : 0 ≤ a.expires.seconds
    · left
      rw [codec.decode_token_of_none settings hCustom hEpoch nonce]
      cases stored with
      | true => rfl
      | false => simp only [Except.map, kept, isStored, Bool.false_eq_true, if_false, hIdle, hDetails]
    · right
      refine ⟨?_, hEpoch⟩
      cases hDecode : codec.decode settings (codec.token (JwtCodec.claimsOf settings a
          ((codec.subjectCrypter settings.encryptSubject).encrypt nonce
            (Json.Form.login.render a.login)))) with
      | error error => exact ⟨error, rfl⟩
      | ok token => exact absurd (JwtCodec.decode_token_eq_ok hCustom hDecode).2 hEpoch

/-! ## Every run of `reissue` -/

/-- What is handed out for a record that is written back: nothing where the client's value is a key
into the store, and a new value elsewhere. -/
def Reissues : Service δ ν → Authenticator δ → Option String → Prop
  | cookie _ .storeBacked _, _, given => given = none
  | bearer _, _, given => given = none
  | cookie settings (.selfContained codec) fingerprint, a, given =>
    ∃ raw, given = some raw ∧ (cookie settings (.selfContained codec) fingerprint).Issues a raw
  | session settings codec fingerprint, a, given =>
    ∃ raw, given = some raw ∧ (session settings codec fingerprint).Issues a raw
  | jwt settings codec stored, a, given =>
    ∃ raw, given = some raw ∧ (jwt settings codec stored).Issues a raw

theorem issues_of_reissues {S : Service δ ν} {a : Authenticator δ} {raw : String}
    (hReissues : S.Reissues a (some raw)) : S.Issues a raw := by
  have hSame {P : String → Prop} (h : ∃ other, some raw = some other ∧ P other) : P raw := by
    obtain ⟨other, hOther, hP⟩ := h
    rw [Option.some.inj hOther]
    exact hP
  cases S with
  | cookie settings keeping fingerprint =>
    cases keeping with
    | storeBacked => cases hReissues
    | selfContained codec => exact hSame hReissues
  | session settings codec fingerprint => exact hSame hReissues
  | bearer settings => cases hReissues
  | jwt settings codec stored => exact hSame hReissues

/-- A service that hands out nothing when it writes back has a store. -/
theorem stored_of_reissues_none {S : Service δ ν} {a : Authenticator δ} (hReissues : S.Reissues a none) :
    S.isStored = true := by
  cases S with
  | cookie settings keeping fingerprint =>
    cases keeping with
    | storeBacked => rfl
    | selfContained codec =>
      obtain ⟨raw, hRaw, -⟩ := hReissues
      cases hRaw
  | session settings codec fingerprint =>
    obtain ⟨raw, hRaw, -⟩ := hReissues
    cases hRaw
  | bearer settings => rfl
  | jwt settings codec stored =>
    obtain ⟨raw, hRaw, -⟩ := hReissues
    cases hRaw

/-- What a run of `reissue` comes to: the record is in the store, where there is one; or the store
is as it was. -/
structure ReissueOutcome (S : Service δ ν) (h : Host δ σ) (a : Authenticator δ)
    (before after : Store δ) (result : Except Cause (Option String)) : Prop where
  written : ∀ given, result = .ok given →
    S.Reissues a given ∧ after = if S.isStored then before.add a else before
  refused : ∀ cause, result = .error cause → after = before ∧
    (S.clash? a = none → S.isStored = true ∧ (h.Reliable → before.find? a.id = none))

namespace ReissueOutcome

variable {S : Service δ ν} {h : Host δ σ} {a : Authenticator δ} {before after : Store δ}

theorem of_written {given : Option String} (hReissues : S.Reissues a given)
    (hAfter : after = if S.isStored then before.add a else before) :
    S.ReissueOutcome h a before after (.ok given) := by
  refine ⟨fun other hOther => ?_, fun cause hCause => by cases hCause⟩
  obtain rfl := Except.ok.inj hOther
  exact ⟨hReissues, hAfter⟩

theorem of_refused {cause : Cause} (hAfter : after = before)
    (hNone : S.clash? a = none → S.isStored = true ∧ (h.Reliable → before.find? a.id = none)) :
    S.ReissueOutcome h a before after (.error cause) :=
  ⟨fun given hGiven => (by cases hGiven), fun _ _ => ⟨hAfter, hNone⟩⟩

end ReissueOutcome

theorem stored_update_run (h : Host δ σ) (a : Authenticator δ) (s : σ) :
    ((h.run (Stored.update a) s).1 = .ok () ∧
        h.store (h.run (Stored.update a) s).2 = (h.store s).add a) ∨
      ∃ fault, (h.run (Stored.update a) s).1 = .error (.store fault) ∧
        h.store (h.run (Stored.update a) s).2 = h.store s ∧
        (h.Reliable → (h.store s).find? a.id = none) := by
  have hRun : (h.run (Stored.update a) s).1 =
      (Stored.cause (h.answer (.update a) s).1).map fun _ => () := rfl
  rcases h.update_answer a s with ⟨hAnswer, hStore⟩ | ⟨⟨fault, hAnswer⟩, hStore, hNone⟩
  · exact .inl ⟨by rw [hRun, hAnswer]; rfl, hStore⟩
  · exact .inr ⟨fault, by rw [hRun, hAnswer]; rfl, hStore, hNone⟩

theorem reissue_outcome (S : Service δ ν) (h : Host δ σ) (a : Authenticator δ) (s : σ) :
    S.ReissueOutcome h a (h.store s) (h.store (h.run (S.carrier.reissue a) s).2)
      (h.run (S.carrier.reissue a) s).1 := by
  cases S with
  | cookie settings keeping fingerprint =>
    cases keeping with
    | storeBacked =>
      simp only [carrier, cookieCarrier, CookieKeeping.write, Program.bind_eq, Program.pure_eq,
        h.run_bind, h.run_done]
      rcases stored_update_run h a s with ⟨hResult, hStore⟩ | ⟨fault, hResult, hStore, hNone⟩
      · rw [hResult]
        exact .of_written rfl hStore
      · rw [hResult]
        exact .of_refused hStore fun _ => ⟨rfl, hNone⟩
    | selfContained codec =>
      obtain ⟨sealing, signing, hRaw⟩ := encodeFresh_run h codec Json.Form.cookieAuthenticator a s
      simp only [carrier, cookieCarrier, CookieKeeping.write, Program.bind_eq, Program.pure_eq,
        h.run_bind, h.run_done, h.store_run_quiet (quiet_encodeFresh _ _ _)]
      exact .of_written ⟨_, rfl, sealing, signing, hRaw⟩ rfl
  | session settings codec fingerprint =>
    obtain ⟨sealing, signing, hRaw⟩ := encodeFresh_run h codec Json.Form.sessionAuthenticator a s
    simp only [carrier, sessionCarrier, Program.bind_eq, Program.pure_eq, h.run_bind, h.run_done,
      h.store_run_quiet (quiet_encodeFresh _ _ _)]
    exact .of_written ⟨_, rfl, sealing, signing, hRaw⟩ rfl
  | bearer settings =>
    simp only [carrier, bearerCarrier, Program.bind_eq, Program.pure_eq, h.run_bind, h.run_done]
    rcases stored_update_run h a s with ⟨hResult, hStore⟩ | ⟨fault, hResult, hStore, hNone⟩
    · rw [hResult]
      exact .of_written rfl hStore
    · rw [hResult]
      exact .of_refused hStore fun _ => ⟨rfl, hNone⟩
  | jwt settings codec stored =>
    simp only [carrier, jwtCarrier, Program.bind_eq, Program.pure_eq, h.run_bind, h.run_done]
    rcases signThen_run h codec settings a (Stored.when stored (Stored.update a)) s with
      ⟨name, hClash, hRun⟩ | ⟨hClash, nonce, s', hStore, -, hRun⟩
    · rw [hRun]
      exact .of_refused rfl fun hNone => absurd (hNone.symm.trans hClash) (by simp)
    · rw [hRun]
      cases stored with
      | false => exact .of_written ⟨_, rfl, hClash, nonce, rfl⟩ hStore
      | true =>
        simp only [Stored.when, if_true]
        rcases stored_update_run h a s' with ⟨hResult, hAfter⟩ | ⟨fault, hResult, hAfter, hNone⟩
        · rw [hResult]
          exact .of_written ⟨_, rfl, hClash, nonce, rfl⟩ (hStore ▸ hAfter)
        · rw [hStore] at hNone hAfter
          rw [hResult]
          exact .of_refused hAfter fun _ => ⟨rfl, hNone⟩

end Service

end WebLogin
