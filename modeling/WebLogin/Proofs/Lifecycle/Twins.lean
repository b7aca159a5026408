import WebLogin.Proofs.Alike
import WebLogin.Proofs.Lifecycle.Update

/-!
# Twins

Two authenticators that differ in nothing but whose they are, and the wire values issued for them. A
service does with the one what it does with the other: it asks the same questions, and what it reads of a
wire value, or issues, is again the same or that of twins.

* `Twin`, `Counterpart`: authenticators, and wire values, that differ in the login at most.
* `JwtCodec.decode_token_of_past`: the one fault of a token that was issued for a new authenticator.
* `decode_token_counterpart`, `decode_record_counterpart`: what two counterparts are decoded to.
* `alike_decode`, `alike_issue`, `alike_reissue`, `alike_revoke`: the operations in which carriers differ.
-/

namespace WebLogin

/-! ## Tokens that ended before 1970 -/

namespace JwtCodec

open Json (Tree)

/-- Claims that end before 1970 are refused for that. -/
theorem readClaims_of_past {header payload : List Char} {headerTree payloadTree : Tree}
    {claims : Jwt.Claims} (hDot : '.' ∉ payload) (hHeader : readPart header = .ok headerTree)
    (hName : Jwt.algorithmOf? headerTree = some Jwt.algorithm)
    (hPayload : readPart payload = .ok payloadTree)
    (hClaims : Jwt.Claims.ofTree? payloadTree = some claims) (hPast : claims.expires < 0)
    (issuer : String) :
    readClaims (header ++ '.' :: payload) issuer = .error (.invalidFormat (.tokenClaim "exp")) := by
  rw [readClaims, Text.cutLast?_eq_some_iff.mpr ⟨rfl, hDot⟩]
  simp only [hHeader, hName, hPayload, hClaims, hPast, bind, Except.bind, ne_eq, not_true_eq_false,
    if_false, if_true]
  rfl

theorem verify_token_of_past (c : JwtCodec) {claims : Jwt.Claims} (hOwn : Portable claims.custom)
    (hIssued : Fits claims.issuedAt) (hExpires : Fits claims.expires) (hPast : claims.expires < 0)
    (issuer : String) :
    c.verify (c.token claims) issuer = .error (.invalidFormat (.tokenClaim "exp")) := by
  have hHeader : readPart (encodePart Jwt.header.render) = .ok (.ofValue Jwt.header) :=
    readPart_encodePart ⟨trivial, trivial, trivial⟩
  have hPayload := readPart_encodePart (exact_json hOwn hIssued hExpires)
  have hRead := readClaims_of_past (dot_not_mem_encode _) hHeader algorithmOf?_header hPayload
    (ofTree?_json hOwn hIssued hExpires) hPast issuer
  have hCut (text : List Char) :
      Text.cutLast? '.' (text ++ '.' :: c.signature text) = some (text, c.signature text) :=
    Text.cutLast?_eq_some_iff.mpr ⟨rfl, dot_not_mem_encode _⟩
  rw [verify, token, String.toList_ofList, hCut]
  simp only [if_true]
  exact hRead

/-- A token of an authenticator that ends before 1970 is refused for that, whoever is its subject. -/
theorem decode_token_of_past (c : JwtCodec) (settings : JwtSettings) {a : JwtAuthenticator}
    (hCustom : a.details.claims = none) (hPast : a.expires.seconds < 0) (subject : String) :
    c.decode settings (c.token (claimsOf settings a subject)) =
      .error (.invalidFormat (.tokenClaim "exp")) := by
  have hOwn : Portable (claimsOf settings a subject).custom := by
    rw [claimsOf, hCustom]
    exact portable_empty
  rw [decode, c.verify_token_of_past hOwn a.lastUsed.seconds_bounds a.expires.seconds_bounds hPast]
  rfl

end JwtCodec

/-! ## Nonces -/

section Nonces

variable {δ : Type} {E : Authenticator δ → Authenticator δ → Prop}

/-- Two texts are hidden with the same nonce. -/
theorem Crypter.alike_encryptFresh (c : Crypter) (text text' : String) :
    (c.encryptFresh text).Alike E
      (fun hidden hidden' => ∃ nonce, hidden = c.encrypt nonce text ∧ hidden' = c.encrypt nonce text')
      (c.encryptFresh text') := by
  cases c with
  | plain => exact .done ⟨_, rfl, rfl⟩
  | sealed key => exact .ask rfl fun nonce => .done ⟨nonce, rfl, rfl⟩

/-- Two records are written with the same nonces. -/
theorem SignedCodec.alike_encodeFresh {α : Type} (c : SignedCodec) (form : Json.Form α) (a b : α) :
    (c.encodeFresh form a).Alike E
      (fun raw raw' => ∃ sealing signing, raw = c.wire sealing signing (form.render a) ∧
        raw' = c.wire sealing signing (form.render b))
      (c.encodeFresh form b) := by
  refine (c.crypter.alike_encryptFresh (form.render a) (form.render b)).bind fun hidden hidden' hHidden => ?_
  obtain ⟨sealing, rfl, rfl⟩ := hHidden
  exact .ask rfl fun signing => .done ⟨sealing, signing, rfl, rfl⟩

end Nonces

namespace Service

variable {δ ν : Type}

/-! ## Twins and counterparts -/

/-- The same authenticator, or one that a service makes and the same with another login. -/
def Twin (S : Service δ ν) (a b : Authenticator δ) : Prop :=
  a = b ∨ S.Plain a ∧ ∃ login, b = { a with login }

/-- The same wire value, or two that were issued for twins. -/
def Counterpart (S : Service δ ν) (raw raw' : String) : Prop :=
  raw = raw' ∨ ∃ a login, S.Plain a ∧ S.Issues a raw ∧ S.Issues { a with login } raw'

variable {S : Service δ ν} {a b : Authenticator δ} {raw raw' : String}

theorem Twin.refl (S : Service δ ν) (a : Authenticator δ) : S.Twin a a := .inl rfl

/-- All but the login is the same. -/
theorem Twin.eq_withLogin (hTwin : S.Twin a b) : b = { a with login := b.login } := by
  obtain rfl | ⟨-, login, rfl⟩ := hTwin
  · rfl
  · rfl

theorem Twin.id (hTwin : S.Twin a b) : a.id = b.id :=
  (congrArg Authenticator.id hTwin.eq_withLogin).symm

theorem Twin.details (hTwin : S.Twin a b) : a.details = b.details :=
  (congrArg Authenticator.details hTwin.eq_withLogin).symm

theorem Twin.isValid (hTwin : S.Twin a b) (now : Instant) : a.isValid now = b.isValid now := by
  rw [hTwin.eq_withLogin]
  rfl

theorem Twin.idle (hTwin : S.Twin a b) : a.idle = b.idle :=
  (congrArg Authenticator.idle hTwin.eq_withLogin).symm

theorem Twin.usedAt (hTwin : S.Twin a b) (t : Instant) : S.Twin (a.usedAt t) (b.usedAt t) := by
  obtain rfl | ⟨hPlain, login, rfl⟩ := hTwin
  · exact .refl S _
  · exact .inr ⟨hPlain.usedAt t, login, rfl⟩

theorem Counterpart.refl (S : Service δ ν) (raw : String) : S.Counterpart raw raw := .inl rfl

/-- What is issued for twins is the same where they are the same. -/
theorem Twin.counterpart (hTwin : S.Twin a b) (hIssues : S.Issues a raw) (hIssues' : S.Issues b raw')
    (hSame : a = b → raw = raw') : S.Counterpart raw raw' := by
  obtain rfl | ⟨hPlain, login, rfl⟩ := hTwin
  · exact .inl (hSame rfl)
  · exact .inr ⟨a, login, hPlain, hIssues, hIssues'⟩

/-! ## Reading -/

/-- Two tokens that are counterparts are refused alike, or are those of twins. -/
theorem decode_token_counterpart {settings : JwtSettings} {codec : JwtCodec} {stored : Bool}
    (hRaws : (jwt settings codec stored).Counterpart raw raw') :
    Except.Rel (jwt settings codec stored).Twin (codec.decode settings raw)
      (codec.decode settings raw') := by
  obtain rfl | ⟨a, login, ⟨hCustom, hIdle⟩, ⟨-, nonce, rfl⟩, -, nonce', rfl⟩ := hRaws
  · exact .refl (.refl _) _
  by_cases hPast : a.expires.seconds < 0
  · rw [codec.decode_token_of_past settings hCustom hPast,
      codec.decode_token_of_past settings (a := { a with login }) hCustom hPast]
    exact .error _
  · have hEpoch : 0 ≤ a.expires.seconds := Int.not_lt.mp hPast
    rw [codec.decode_token_of_none settings hCustom hEpoch,
      codec.decode_token_of_none settings (a := { a with login }) hCustom hEpoch]
    exact .ok (.inr ⟨⟨rfl, rfl⟩, login, rfl⟩)

/-- What a service issues for an authenticator is its record, as a codec writes it. -/
def IssuesRecords (S : Service δ ν) (codec : SignedCodec) (form : Json.Form (Authenticator δ)) : Prop :=
  ∀ a raw, S.Issues a raw ↔ ∃ sealing signing, raw = codec.wire sealing signing (form.render a)

variable {codec : SignedCodec} {form : Json.Form (Authenticator δ)}

/-- Two records that are counterparts are refused alike, or are those of twins, if those of twins are read as
twins. -/
theorem decode_record_counterpart (hRaws : S.Counterpart raw raw') (hRecords : S.IssuesRecords codec form)
    {back : Authenticator δ → Authenticator δ} (hReads : ∀ a, form.Reads a (back a))
    (hBack : ∀ a login, S.Twin (back a) (back { a with login })) :
    Except.Rel S.Twin (codec.decode form raw) (codec.decode form raw') := by
  obtain rfl | ⟨a, login, -, hIssues, hIssues'⟩ := hRaws
  · exact .refl (.refl _) _
  · obtain ⟨sealing, signing, rfl⟩ := (hRecords _ _).mp hIssues
    obtain ⟨sealing', signing', rfl⟩ := (hRecords _ _).mp hIssues'
    rw [codec.decode_wire (hReads a), codec.decode_wire (hReads { a with login })]
    exact .ok (hBack a login)

/-- A record that is looked up under the same identifier. -/
theorem alike_find {E : Authenticator δ → Authenticator δ → Prop} {id id' : String} (hId : id = id') :
    ((Program.query (.find id)).bind fun answer => .done (answer.mapError DecodeFault.store)).Alike E
      (Except.Rel (Option.Rel E))
      ((Program.query (.find id')).bind fun answer => .done (answer.mapError DecodeFault.store)) := by
  subst hId
  exact .find fun _ _ hAnswer => .done (hAnswer.mapError _)

/-- Counterparts are decoded to twins, or to nothing, or fail alike. -/
theorem alike_decode (hRaws : S.Counterpart raw raw') :
    (S.carrier.decode raw).Alike S.Twin (Except.Rel (Option.Rel S.Twin)) (S.carrier.decode raw') := by
  cases S with
  | cookie settings keeping fingerprint =>
    cases keeping with
    | storeBacked =>
      obtain rfl | ⟨a, login, -, rfl, rfl⟩ := hRaws
      · exact alike_find rfl
      · exact alike_find rfl
    | selfContained codec =>
      have hDecoded := decode_record_counterpart hRaws (fun _ _ => .rfl)
        Json.Form.reads_cookieAuthenticator fun _ login => .inr ⟨trivial, login, rfl⟩
      exact .done ((hDecoded.map fun _ _ => .some).mapError _)
  | session settings codec fingerprint =>
    have hDecoded := decode_record_counterpart hRaws (fun _ _ => .rfl)
      Json.Form.reads_sessionAuthenticator fun _ login => .inr ⟨trivial, login, rfl⟩
    exact .done ((hDecoded.map fun _ _ => .some).mapError _)
  | bearer settings =>
    obtain rfl | ⟨a, login, -, rfl, rfl⟩ := hRaws
    · exact alike_find rfl
    · exact alike_find rfl
  | jwt settings codec stored =>
    have hDecoded := decode_token_counterpart hRaws
    simp only [carrier, jwtCarrier]
    generalize codec.decode settings raw = decoded at hDecoded ⊢
    generalize codec.decode settings raw' = decoded' at hDecoded ⊢
    cases hDecoded with
    | error error => exact .done (.error _)
    | ok hTwin =>
      cases stored with
      | false => exact .done (.ok (.some hTwin))
      | true => exact alike_find hTwin.id

/-! ## Issuing -/

/-- Two authenticators are signed with the same nonce before two calls that are alike, unless a name is
reserved. -/
theorem alike_signThen {settings : JwtSettings} {codec : JwtCodec} {stored : Bool}
    {a b : JwtAuthenticator} (hTwin : (jwt settings codec stored).Twin a b)
    {call call' : Program JwtDetails (Except Cause Unit)}
    (hCall : call.Alike (jwt settings codec stored).Twin (Except.Rel Eq) call') :
    (codec.signThen settings a call).Alike (jwt settings codec stored).Twin
      (Except.Rel (jwt settings codec stored).Counterpart) (codec.signThen settings b call') := by
  have hClashes : JwtCodec.clash? a = JwtCodec.clash? b := by
    rw [JwtCodec.clash?, hTwin.details, JwtCodec.clash?]
  unfold JwtCodec.signThen JwtCodec.encodeFresh
  rw [← hClashes]
  cases hClash : JwtCodec.clash? a with
  | some name => exact .done (.error _)
  | none =>
    simp only [Program.bind_eq, Program.pure_eq, Program.bind_assoc, Program.done_bind]
    refine ((codec.subjectCrypter settings.encryptSubject).alike_encryptFresh _ _).bind ?_
    rintro subject subject' ⟨nonce, rfl, rfl⟩
    refine hCall.bind fun called called' hCalled => .done (hCalled.map fun _ _ _ => ?_)
    refine hTwin.counterpart ⟨hClash, nonce, rfl⟩ ⟨hClashes.symm.trans hClash, nonce, rfl⟩ ?_
    rintro rfl
    rfl

/-- The records of two authenticators are written with the same nonces. -/
theorem alike_encodeRecord (hRecords : S.IssuesRecords codec form) (hTwin : S.Twin a b) :
    (codec.encodeFresh form a).Alike S.Twin S.Counterpart (codec.encodeFresh form b) := by
  refine (codec.alike_encodeFresh form a b).mono ?_
  rintro raw raw' ⟨sealing, signing, rfl, rfl⟩
  have hIssues (a : Authenticator δ) : S.Issues a (codec.wire sealing signing (form.render a)) :=
    (hRecords _ _).mpr ⟨sealing, signing, rfl⟩
  refine hTwin.counterpart (hIssues a) (hIssues b) ?_
  rintro rfl
  rfl

theorem alike_encodeCookie {settings : CookieSettings} {keeping : CookieKeeping}
    {fingerprint : Request → String} {a b : CookieAuthenticator}
    (hTwin : (cookie settings keeping fingerprint).Twin a b) :
    (keeping.encode a).Alike (cookie settings keeping fingerprint).Twin
      (Except.Rel (cookie settings keeping fingerprint).Counterpart) (keeping.encode b) := by
  cases keeping with
  | storeBacked =>
    exact (Stored.alike_add hTwin).bind fun _ _ hAdded => .done (hAdded.map fun _ _ hStored => .inl hStored.id)
  | selfContained codec =>
    exact (alike_encodeRecord (fun _ _ => .rfl) hTwin).bind fun _ _ hRaws => .done (.ok hRaws)

theorem alike_writeCookie {settings : CookieSettings} {keeping : CookieKeeping}
    {fingerprint : Request → String} {a b : CookieAuthenticator}
    (hTwin : (cookie settings keeping fingerprint).Twin a b) :
    (keeping.write a).Alike (cookie settings keeping fingerprint).Twin
      (Except.Rel (Option.Rel (cookie settings keeping fingerprint).Counterpart)) (keeping.write b) := by
  cases keeping with
  | storeBacked =>
    exact (Stored.alike_update hTwin).bind fun _ _ hUpdated => .done (hUpdated.map fun _ _ _ => .none)
  | selfContained codec =>
    exact (alike_encodeRecord (fun _ _ => .rfl) hTwin).bind fun _ _ hRaws => .done (.ok (.some hRaws))

/-- For twins a service issues counterparts, or fails alike. -/
theorem alike_issue (hTwin : S.Twin a b) :
    (S.carrier.issue a).Alike S.Twin (Except.Rel S.Counterpart) (S.carrier.issue b) := by
  cases S with
  | cookie settings keeping fingerprint =>
    refine (alike_encodeCookie hTwin).bind fun issued issued' hIssued => ?_
    cases hIssued with
    | error cause => exact .done (.error cause)
    | ok hRaws =>
      refine Program.alike_emit (congrArg (.initialized .cookie) hTwin.id) ?_
      exact .done (.ok hRaws)
  | session settings codec fingerprint =>
    exact (alike_encodeRecord (fun _ _ => .rfl) hTwin).bind fun _ _ hRaws => .done (.ok hRaws)
  | bearer settings =>
    refine (Stored.alike_add hTwin).bind fun added added' hAdded => ?_
    cases hAdded with
    | error cause => exact .done (.error cause)
    | ok hStored =>
      refine Program.alike_emit (congrArg (.initialized .bearer) hStored.id) ?_
      exact .done (.ok (.inl hStored.id))
  | jwt settings codec stored =>
    refine (alike_signThen hTwin (Stored.alike_when stored (Stored.alike_keep hTwin))).bind
      fun issued issued' hIssued => ?_
    cases hIssued with
    | error cause => exact .done (.error cause)
    | ok hRaws =>
      refine Program.alike_emit (congrArg (.initialized .jwt) hTwin.id) ?_
      exact .done (.ok hRaws)

/-- Twins are written back alike, and what is handed out anew are counterparts. -/
theorem alike_reissue (hTwin : S.Twin a b) :
    (S.carrier.reissue a).Alike S.Twin (Except.Rel (Option.Rel S.Counterpart)) (S.carrier.reissue b) := by
  cases S with
  | cookie settings keeping fingerprint => exact alike_writeCookie hTwin
  | session settings codec fingerprint =>
    exact (alike_encodeRecord (fun _ _ => .rfl) hTwin).bind fun _ _ hRaws => .done (.ok (.some hRaws))
  | bearer settings =>
    exact (Stored.alike_update hTwin).bind fun _ _ hUpdated => .done (hUpdated.map fun _ _ _ => .none)
  | jwt settings codec stored =>
    exact (alike_signThen hTwin (Stored.alike_when stored (Stored.alike_update hTwin))).bind
      fun _ _ hIssued => .done (hIssued.map fun _ _ => .some)

theorem alike_revoke (S : Service δ ν) (id : String) :
    (S.carrier.revoke id).Alike S.Twin (Except.Rel Eq) (S.carrier.revoke id) := by
  cases S with
  | cookie settings keeping fingerprint =>
    cases keeping with
    | storeBacked => exact Stored.alike_remove id
    | selfContained codec => exact .done (.ok rfl)
  | session settings codec fingerprint => exact .done (.ok rfl)
  | bearer settings => exact Stored.alike_remove id
  | jwt settings codec stored => exact Stored.alike_when stored (Stored.alike_remove id)

end Service

end WebLogin
