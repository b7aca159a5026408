import WebLogin.Proofs.Jwt.RoundTrip

/-!
# Subjects that are hidden in the other way

Whether the subject is encrypted is not written in a token: its reader has to know. A reader that
expects the other way finds an invalid encoding, since no encrypted text is a coded one, whatever the
key, the nonce and the login are.

* `loginOf_of_other`: a subject that is read in one way is not read in the other.
* `subject_mismatch_is_invalidEncoding`: every token, and every authenticator that is signed.
-/

namespace WebLogin.JwtCodec

variable {δ σ : Type}

/-- No subject is hidden in both ways. -/
theorem encrypt_ne_of_other {c : JwtCodec} {key : List UInt8} (hSealed : c.crypter = .sealed key)
    (encrypted : Bool) (nonce nonce' : Vector UInt8 Crypter.nonceSize) (message message' : String) :
    (c.subjectCrypter encrypted).encrypt nonce message ≠
      (c.subjectCrypter !encrypted).encrypt nonce' message' := by
  cases encrypted with
  | true =>
    rw [subjectCrypter, if_pos rfl, hSealed]
    exact Crypter.encrypt_sealed_ne_plain key nonce nonce' message message'
  | false =>
    rw [Bool.not_false, subjectCrypter, subjectCrypter, if_pos rfl, hSealed]
    exact (Crypter.encrypt_sealed_ne_plain key nonce' nonce message' message).symm

/-- A subject that is read in one way is not read in the other. -/
theorem loginOf_of_other {c : JwtCodec} {key : List UInt8} (hSealed : c.crypter = .sealed key)
    {encrypted : Bool} {subject : String} {login : Login}
    (hLogin : c.loginOf encrypted subject = .ok login) :
    ∃ fault, c.loginOf (!encrypted) subject = .error (.invalidEncoding fault) := by
  obtain ⟨nonce, json, rfl, -⟩ := loginOf_eq_ok_iff.mp hLogin
  obtain ⟨fault, hFault⟩ := Crypter.decrypt_of_not_encrypted
    (encrypt_ne_of_other hSealed encrypted nonce · json ·)
  refine ⟨fault, ?_⟩
  change (c.subjectCrypter !encrypted).decrypt _ >>= _ = _
  rw [hFault]
  rfl

/-- A token that is accepted, however it was made, is an invalid encoding for a reader that expects its
subject hidden in the other way. The subject is read before the times, so that nothing else is reported
in its place. -/
theorem decode_of_other {c : JwtCodec} {key : List UInt8} (hSealed : c.crypter = .sealed key)
    {settings : JwtSettings} {token : String} {a : JwtAuthenticator}
    (hAccepted : c.decode settings token = .ok a) :
    ∃ fault, c.decode { settings with encryptSubject := !settings.encryptSubject } token =
      .error (.invalidEncoding fault) := by
  obtain ⟨claims, hVerified, hDescribes⟩ := decode_eq_ok_iff.mp hAccepted
  obtain ⟨fault, hFault⟩ := loginOf_of_other hSealed hDescribes.login
  refine ⟨fault, ?_⟩
  rw [decode, hVerified]
  change c.loginOf (!settings.encryptSubject) claims.subject >>= _ = _
  rw [hFault]
  rfl

/-- A mismatch of the two ways to hide a subject is always found, in both directions, with every secret,
every crypter that encrypts and all settings: a token that is accepted under the settings is an invalid
encoding under the settings with the other way. Nothing is assumed of the authenticator that was
signed, nor that the token was signed by this codec. What is signed without a clash, with an expiry from
1970 on and with claims that can be read, is such a token, for every login and every nonce. -/
theorem subject_mismatch_is_invalidEncoding (c : JwtCodec) {key : List UInt8}
    (hSealed : c.crypter = .sealed key) (settings : JwtSettings) :
    (∀ token a, c.decode settings token = .ok a →
      ∃ fault, c.decode { settings with encryptSubject := !settings.encryptSubject } token =
        .error (.invalidEncoding fault)) ∧
    (∀ (a : JwtAuthenticator) (answer : (q : Query δ) → σ → q.Answer × σ) (s : σ),
      (∀ name, ¬ClashesOn a name) → 0 ≤ a.expires.nanoseconds →
      (∀ custom, a.details.claims = some custom → Readable custom) →
      ∃ token fault, ((c.encodeFresh settings a).run answer s).1 = .ok token ∧
        c.decode { settings with encryptSubject := !settings.encryptSubject } token =
          .error (.invalidEncoding fault)) := by
  refine ⟨fun token a hAccepted => decode_of_other hSealed hAccepted, ?_⟩
  intro a answer s hFree hEpoch hReadable
  have hClash : clash? a = none := by
    cases hClash : clash? a with
    | none => rfl
    | some name => exact absurd (clash?_eq_some_iff.mp hClash) (hFree name)
  obtain ⟨nonce, hToken⟩ := c.run_encodeFresh settings answer s hClash
  have hAccepted := c.decode_token settings (portable_of_readable hClash hReadable)
    (Int.ediv_nonneg hEpoch (by decide)) nonce
  obtain ⟨fault, hFault⟩ := decode_of_other hSealed hAccepted
  exact ⟨_, fault, hToken, hFault⟩

/-- A login with a character outside ASCII, signed in either way and read in the other. -/
theorem subject_mismatch_is_invalidEncoding_both_ways :
    let c : JwtCodec := ⟨List.replicate 32 0, .ofSecret [], by decide⟩
    let a : JwtAuthenticator :=
      { id := "id-1", login := ⟨"credentials", "é:\n"⟩, lastUsed := .epoch, expires := .epoch
        idle := none, details := ⟨none⟩ }
    let hidden : JwtSettings := { encryptSubject := true }
    let shown : JwtSettings := { encryptSubject := false }
    (∃ token fault,
      ((c.encodeFresh hidden a).run Surroundings.answer ({} : Surroundings Unit)).1 = .ok token ∧
      c.decode shown token = .error (.invalidEncoding fault)) ∧
    (∃ token fault,
      ((c.encodeFresh shown a).run Surroundings.answer ({} : Surroundings Unit)).1 = .ok token ∧
      c.decode hidden token = .error (.invalidEncoding fault)) := by
  intro c a hidden shown
  have hFree : ∀ name, ¬ClashesOn a name := by
    intro name hName
    have hNone : clash? a = none := by decide
    cases hNone.symm.trans (clash?_eq_some_iff.mpr hName)
  have hHidden := c.subject_mismatch_is_invalidEncoding (δ := Unit) (σ := Surroundings Unit) rfl hidden
  have hShown := c.subject_mismatch_is_invalidEncoding (δ := Unit) (σ := Surroundings Unit) rfl shown
  exact ⟨hHidden.2 a Surroundings.answer {} hFree (by decide) (by rintro _ ⟨⟩),
    hShown.2 a Surroundings.answer {} hFree (by decide) (by rintro _ ⟨⟩)⟩

end WebLogin.JwtCodec
