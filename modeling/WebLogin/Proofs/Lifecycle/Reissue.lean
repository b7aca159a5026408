import WebLogin.Proofs.Jwt.Reissue
import WebLogin.Proofs.Lifecycle.Failure
import WebLogin.Proofs.Lifecycle.Interleaving

/-!
# Tokens of retrieved authenticators

What is retrieved on the carrier of signed tokens is signed again when it is touched and written back.
Without a store it came out of a token. With one it is a record, and no operation writes a record that
could not be signed: the claims are checked before the call.

* `Store.Signable`, `signable_step`, `signable_run`: a store that clients share, in every run.
* `refresh_signable`: to touch an authenticator that can be signed and to write it back.
* `accepted_token_reissued`: every accepted token, and every retrieval with and without a store.
-/

namespace WebLogin

variable {ι δ ν σ : Type}

/-! ## Stores whose records can be signed -/

/-- None of the records has a claim of a reserved name. -/
def Store.Signable (store : Store JwtDetails) : Prop :=
  ∀ id a, store.find? id = some a → JwtCodec.clash? a = none

/-- A question that brings no record with such a claim into the store. -/
def Query.Signable : Query JwtDetails → Prop
  | .add a | .update a => JwtCodec.clash? a = none
  | _ => True

theorem Store.Signable.add {store : Store JwtDetails} (hStore : store.Signable)
    {a : JwtAuthenticator} (hClash : JwtCodec.clash? a = none) : (store.add a).Signable := by
  intro id found hFound
  rw [find?_add] at hFound
  split at hFound
  · exact Option.some.inj hFound ▸ hClash
  · exact hStore id found hFound

theorem Store.Signable.remove {store : Store JwtDetails} (hStore : store.Signable) (id : String) :
    (store.remove id).Signable := by
  intro other found hFound
  rw [find?_remove] at hFound
  split at hFound
  · cases hFound
  · exact hStore other found hFound

theorem Store.Signable.acts {q : Query JwtDetails} {before after : Store JwtDetails}
    {answer : q.Answer} (hStore : before.Signable) (hQuery : q.Signable)
    (hActs : Store.Acts q before answer after) : after.Signable := by
  cases q with
  | find id => exact hActs.2 ▸ hStore
  | add a => exact hActs.2 ▸ hStore.add hQuery
  | remove id => exact hActs.2 ▸ hStore.remove id
  | update a =>
    simp only [Store.Acts, Store.update] at hActs
    split at hActs
    · next changed hChanged =>
      split at hChanged
      · obtain rfl := Except.ok.inj hChanged
        exact hActs.2 ▸ hStore.add hQuery
      · cases hChanged
    · exact hActs.2 ▸ hStore
  | now => exact hActs.eq_of_not_call rfl ▸ hStore
  | freshId generator => exact hActs.eq_of_not_call rfl ▸ hStore
  | randomBytes count => exact hActs.eq_of_not_call rfl ▸ hStore
  | emit event => exact hActs.eq_of_not_call rfl ▸ hStore

namespace Service

variable (settings : JwtSettings) (codec : JwtCodec) (stored : Bool)

theorem callsSignable_start (a : JwtAuthenticator) :
    ((jwt settings codec stored).carrier.start a).CallsOnly Query.Signable := by
  -- with a clash the program is over before it asks anything
  cases hClash : JwtCodec.clash? a with
  | some name =>
    simp only [carrier, Carrier.start, jwtCarrier, JwtCodec.signThen_of_clash hClash]
    exact Program.callsOnly_done _
  | none =>
    refine ((jwt settings codec stored).callsOnly_start a).mono ?_
    rintro q ⟨-, rfl⟩
    exact hClash

theorem callsSignable_update (a : JwtAuthenticator) (response : Response) :
    ((jwt settings codec true).carrier.update a response).CallsOnly Query.Signable := by
  cases hClash : JwtCodec.clash? a with
  | some name =>
    simp only [carrier, Carrier.update, jwtCarrier, JwtCodec.signThen_of_clash hClash]
    exact Program.callsOnly_done _
  | none =>
    refine ((jwt settings codec true).callsOnly_program rfl (.update a response)).mono ?_
    rintro q rfl
    exact hClash

theorem callsSignable_renewValue (a : JwtAuthenticator) (request : Request) :
    ((jwt settings codec stored).carrier.renewValue a request).CallsOnly Query.Signable := by
  rw [Carrier.renewValue_eq]
  refine ((callsOnly_revoke _ a.id).mono fun q hq => hq.2 ▸ trivial).bind fun revoked => ?_
  cases revoked with
  | error cause => exact Program.callsOnly_done _
  | ok _ =>
    -- the successor may take over claims with a reserved name; then it is not started
    refine (Carrier.quiet_create _ a.login request).callsOnly.bind fun created => ?_
    cases created with
    | error error => exact Program.callsOnly_done _
    | ok fresh =>
      refine (callsSignable_start settings codec stored _).bind fun started => ?_
      cases started with
      | error error => exact Program.callsOnly_done _
      | ok value => exact (quiet_report _ _).callsOnly

/-- Whatever a client has the service do, no record is written that could not be signed. -/
theorem callsSignable_program (op : Operation JwtDetails) :
    ((jwt settings codec true).program op).CallsOnly Query.Signable := by
  have hOnly := (jwt settings codec true).callsOnly_program rfl op
  cases op with
  | retrieve request => exact hOnly.mono fun q ⟨id, hq⟩ => hq ▸ trivial
  | start a => exact callsSignable_start settings codec true a
  | touch a => exact hOnly.mono fun q hq => hq.elim
  | update a response => exact callsSignable_update settings codec a response
  | renewValue a request => exact callsSignable_renewValue settings codec true a request
  | discard a response => exact hOnly.mono fun q hq => hq ▸ trivial

end Service

namespace System

variable [DecidableEq ι] {settings : ι → JwtSettings} {codec : ι → JwtCodec}
  {s s' : System ι JwtDetails String} {a : Action ι JwtDetails String}
  {actions : List (Action ι JwtDetails String)}

/-- All records can be signed, and so can those that clients are about to write. -/
structure Signable (s : System ι JwtDetails String) : Prop where
  store : s.store.Signable
  task : ∀ c t, s.task c = some t → t.rest.CallsOnly Query.Signable

omit [DecidableEq ι] in
theorem signable_idle (hIdle : s.Idle) (hStore : s.store.Signable) : s.Signable where
  store := hStore
  task c t hTask := by
    rw [hIdle c] at hTask
    cases hTask

theorem signable_step (hStep : Step (fun c => .jwt (settings c) (codec c) true) s a s')
    (hSignable : s.Signable) : s'.Signable where
  store := by
    rcases store_step hStep with hSame | ⟨c, e, rfl, hActs⟩
    · exact hSame ▸ hSignable.store
    · by_cases hCall : e.1.isCall = true
      -- a call is one of the client's task, which makes only such as keep the store signable
      · cases hStep with
        | asks _ op _ resume after hTask _ =>
          exact hSignable.store.acts ((hSignable.task c _ hTask).1 hCall) hActs
      · exact hActs.eq_of_not_call (Bool.eq_false_iff.mpr hCall) ▸ hSignable.store
  task c t hTask := by
    rcases task_step hStep c with ⟨-, hSame⟩ | ⟨op, -, hBegun⟩ |
      ⟨op, e, resume, -, hBefore, -, hAfter⟩ | ⟨op, result, -, hEnded⟩
    · exact hSignable.task c t (hSame.symm.trans hTask)
    · obtain rfl := Option.some.inj (hBegun.symm.trans hTask)
      exact Service.callsSignable_program (settings c) (codec c) op
    · obtain rfl := Option.some.inj (hAfter.symm.trans hTask)
      exact (hSignable.task c _ hBefore).2 e.2
    · cases hEnded.symm.trans hTask

theorem signable_run (hRun : Run (fun c => .jwt (settings c) (codec c) true) s actions s')
    (hSignable : s.Signable) : s'.Signable := by
  induction hRun with
  | nil s => exact hSignable
  | cons hStep _ ih => exact ih (signable_step hStep hSignable)

end System

/-! ## Refreshing -/

namespace Service

variable {settings : JwtSettings} {codec : JwtCodec} {h : Host JwtDetails σ}
  {request : Request} {s : σ} {a : JwtAuthenticator}

theorem decoded_of_retrieve
    (hFound : (h.run ((jwt settings codec false).carrier.retrieve request) s).1 = .ok (some a)) :
    ∃ token, codec.decode settings token = .ok a := by
  obtain ⟨token, -, hRead, -⟩ := read_of_retrieve hFound
  obtain ⟨b, hDecoded, hSame⟩ := Except.map_eq_ok_iff.mp hRead
  simp only [Bool.false_eq_true, if_false] at hSame
  exact ⟨token, Option.some.inj hSame ▸ hDecoded⟩

theorem stored_of_retrieve
    (hFound : (h.run ((jwt settings codec true).carrier.retrieve request) s).1 = .ok (some a)) :
    ∃ id, (h.store s).find? id = some a := by
  obtain ⟨token, -, hRead, -⟩ := read_of_retrieve hFound
  obtain ⟨b, -, hSame⟩ := Except.map_eq_ok_iff.mp hRead
  simp only [if_true] at hSame
  exact ⟨b.id, hSame⟩

/-- What to touch an authenticator and to write it back does to a response: nothing without an idle
timeout, and with one the header has a token of the authenticator, used at that instant. -/
def Refreshed (settings : JwtSettings) (codec : JwtCodec) (a : JwtAuthenticator) (now : Instant)
    (response changed : Response) : Prop :=
  if a.idle = none then changed = response
  else ∃ token, changed.header? settings.header = some token ∧
    (jwt settings codec false).Issues (a.usedAt now) token

theorem reissue_signable (settings : JwtSettings) (codec : JwtCodec) (stored : Bool)
    (hClash : JwtCodec.clash? a = none) (h : Host JwtDetails σ) (s : σ) :
    (∃ claims, (h.run ((jwt settings codec stored).carrier.reissue a) s).1 =
        .ok (some (codec.token claims)) ∧ (jwt settings codec false).Issues a (codec.token claims)) ∨
    stored = true ∧ ∃ fault, (h.run ((jwt settings codec stored).carrier.reissue a) s).1 =
      .error (.store fault) := by
  simp only [carrier, jwtCarrier, Program.bind_eq, Program.pure_eq, h.run_bind, h.run_done]
  rcases signThen_run h codec settings a (Stored.when stored (Stored.update a)) s with
    ⟨name, hSome, -⟩ | ⟨-, nonce, s', -, -, hRun⟩
  · cases hClash.symm.trans hSome
  rw [hRun]
  have hIssues : (jwt settings codec false).Issues a _ := ⟨hClash, nonce, rfl⟩
  cases stored with
  | false => exact .inl ⟨_, rfl, hIssues⟩
  | true =>
    simp only [Stored.when, if_true]
    rcases stored_update_run h a s' with ⟨hResult, -⟩ | ⟨fault, hResult, -, -⟩
    · rw [hResult]
      exact .inl ⟨_, rfl, hIssues⟩
    · rw [hResult]
      exact .inr ⟨trivial, fault, rfl⟩

/-- An authenticator that can be signed is refreshed, unless there is a store and it fails. -/
theorem refresh_signable (settings : JwtSettings) (codec : JwtCodec) (stored : Bool)
    (hClash : JwtCodec.clash? a = none) (h : Host JwtDetails σ) (s : σ) (response : Response) :
    (∃ changed, (h.run ((jwt settings codec stored).refresh response a) s).1 = .ok changed ∧
      Refreshed settings codec a (h.clock s) response changed) ∨
    stored = true ∧ ∃ fault, (h.run ((jwt settings codec stored).refresh response a) s).1 =
      .error (.failed .jwt .update (.store fault)) := by
  obtain ⟨hTouch, -⟩ := (jwt settings codec stored).carrier.run_touch h a s
  unfold refresh Refreshed
  rw [Program.bind_eq, h.run_bind, hTouch]
  generalize (h.run ((jwt settings codec stored).carrier.touch a) s).2 = touched
  cases hIdle : a.idle with
  | none =>
    have hSame : a.touch (h.clock s) = .unchanged a := by
      unfold Authenticator.touch
      rw [hIdle]
    rw [hSame]
    exact .inl ⟨response, rfl, rfl⟩
  | some timeout =>
    rw [Authenticator.touch_of_idle hIdle]
    obtain ⟨hUpdate, -⟩ :=
      (jwt settings codec stored).carrier.run_update h (a.usedAt (h.clock s)) response touched
    have hUsed : JwtCodec.clash? (a.usedAt (h.clock s)) = none := hClash
    simp only [Carrier.updateTouched, hUpdate]
    rcases reissue_signable settings codec stored hUsed h touched with
      ⟨claims, hToken, hIssues⟩ | ⟨hStored, fault, hFault⟩
    · have hReadable := codec.readable_token claims
      generalize codec.token claims = token at hToken hIssues hReadable
      obtain ⟨changed, hPlace, hHeader⟩ := place_readable hReadable settings.header response
      rw [hToken]
      refine .inl ⟨changed, ?_, token, hHeader, hIssues⟩
      exact Except.mapError_eq_ok_iff.mpr hPlace
    · rw [hFault]
      exact .inr ⟨hStored, fault, rfl⟩

/-- Every token that is accepted, however it is spelled, gives an authenticator that can be signed again:
its times are in whole seconds, its expiry is not before 1970, its idle timeout is the one of the
settings, and its claims are none or some without a reserved name. If their numbers are integers of 64
bits, it is signed in every run and comes back the same.

So without a store what is retrieved can at any later time be touched and written back, and only the time
of last use changes. With a store, what is retrieved after any run of clients that share it can be
signed too; the store may still refuse the record. -/
theorem accepted_token_reissued [DecidableEq ι] (settings : JwtSettings) (codec : JwtCodec) :
    (∀ token a, codec.decode settings token = .ok a →
      JwtCodec.OfToken settings a ∧
      (JwtCodec.ExactClaims a → ∀ (answer : (q : Query δ) → σ → q.Answer × σ) s, ∃ token',
        ((codec.encodeFresh settings a).run answer s).1 = .ok token' ∧
          codec.decode settings token' = .ok a)) ∧
    (∀ (h : Host JwtDetails σ) request s a,
      (h.run ((jwt settings codec false).carrier.retrieve request) s).1 = .ok (some a) →
      ∀ later response, ∃ changed,
        (h.run ((jwt settings codec false).refresh response a) later).1 = .ok changed ∧
        (a.idle = none → changed = response) ∧
        (a.idle ≠ none → ∃ token, changed.header? settings.header = some token ∧
          (JwtCodec.ExactClaims a →
            codec.decode settings token = .ok (a.usedAt (h.clock later).floor)))) ∧
    (∀ (S : ι → JwtSettings × JwtCodec) before actions after,
      System.Run (fun c => .jwt (S c).1 (S c).2 true) before actions after →
      before.Idle → before.store.Signable →
      ∀ (h : Host JwtDetails σ) request s a, h.store s = after.store →
      (h.run ((jwt settings codec true).carrier.retrieve request) s).1 = .ok (some a) →
      ∀ later response,
        (∃ changed, (h.run ((jwt settings codec true).refresh response a) later).1 = .ok changed ∧
          Refreshed settings codec a (h.clock later) response changed) ∨
        ∃ fault, (h.run ((jwt settings codec true).refresh response a) later).1 =
          .error (.failed .jwt .update (.store fault))) := by
  refine ⟨?_, ?_, ?_⟩
  · intro token a hDecoded
    refine ⟨JwtCodec.ofToken_of_decode hDecoded, fun hExact answer s => ?_⟩
    exact JwtCodec.encodeFresh_of_decode hDecoded hExact answer s
  · intro h request s a hFound later response
    obtain ⟨token, hDecoded⟩ := decoded_of_retrieve hFound
    have hOf := JwtCodec.ofToken_of_decode hDecoded
    rcases refresh_signable settings codec false hOf.clash? h later response with
      ⟨changed, hResult, hRefreshed⟩ | ⟨hStored, -⟩
    · refine ⟨changed, hResult, fun hIdle => ?_, fun hIdle => ?_⟩
      · rwa [Refreshed, if_pos hIdle] at hRefreshed
      · rw [Refreshed, if_neg hIdle] at hRefreshed
        obtain ⟨token', hHeader, -, nonce, rfl⟩ := hRefreshed
        exact ⟨_, hHeader, fun hExact => JwtCodec.decode_reissued hDecoded hExact _ nonce⟩
    · cases hStored
  · intro S before actions after hRun hIdle hStore h request s a hAfter hFound later response
    obtain ⟨id, hRecord⟩ := stored_of_retrieve hFound
    have hSignable := System.signable_run hRun (System.signable_idle hIdle hStore)
    have hClash := hSignable.store id a (hAfter ▸ hRecord)
    exact (refresh_signable settings codec true hClash h later response).imp_right And.right

/-- A token with a claim of the host's, retrieved and used again a second and a half later; and the
same token where its record is in a store. -/
theorem accepted_token_reissued_with_claim :
    let codec : JwtCodec := ⟨List.replicate 32 0, .sealed [], by decide⟩
    let settings : JwtSettings := { idle := some ⟨3600000000000, by decide, by decide⟩ }
    let a : JwtAuthenticator :=
      { id := "id-1", login := ⟨"credentials", "1"⟩, lastUsed := .epoch
        expires := ⟨3600000000000, by decide, by decide⟩, idle := settings.idle
        details := ⟨some ⟨[("role", .string "admin")], by decide⟩⟩ }
    let h : Host JwtDetails (Surroundings JwtDetails) := Surroundings.steady
    let s : Surroundings JwtDetails :=
      { clock := ⟨1500000000, by decide, by decide⟩, store := ({} : Store JwtDetails).add a }
    ∃ token request, codec.decode settings token = .ok a ∧
      (∃ token', ((codec.encodeFresh settings a).run Surroundings.answer s).1 = .ok token' ∧
        codec.decode settings token' = .ok a) ∧
      (h.run ((jwt settings codec false).carrier.retrieve request) s).1 = .ok (some a) ∧
      (∃ changed token', (h.run ((jwt settings codec false).refresh {} a) s).1 = .ok changed ∧
        changed.header? settings.header = some token' ∧
        codec.decode settings token' = .ok (a.usedAt ⟨1000000000, by decide, by decide⟩)) ∧
      (h.run ((jwt settings codec true).carrier.retrieve request) s).1 = .ok (some a) ∧
      ((∃ changed, (h.run ((jwt settings codec true).refresh {} a) s).1 = .ok changed ∧
          Refreshed settings codec a (h.clock s) {} changed) ∨
        ∃ fault, (h.run ((jwt settings codec true).refresh {} a) s).1 =
          .error (.failed .jwt .update (.store fault))) := by
  intro codec settings a h s
  obtain ⟨hTokens, hUnstored, hStored⟩ := accepted_token_reissued (ι := Unit) (δ := JwtDetails)
    (σ := Surroundings JwtDetails) settings codec
  have hOwn : JwtCodec.Readable ⟨[("role", .string "admin")], by decide⟩ :=
    ⟨⟨⟨trivial, trivial⟩, ⟨by decide, trivial, trivial⟩, by decide⟩, by decide⟩
  have hExact : JwtCodec.ExactClaims a := by
    rintro _ ⟨⟩
    exact ⟨trivial, trivial⟩
  have hDecoded := codec.decode_token settings (a := a)
    (JwtCodec.portable_of_readable (by decide) (by rintro _ ⟨⟩; exact hOwn)) (by decide)
    (Vector.replicate Crypter.nonceSize 0)
  have hReadable := codec.readable_token (JwtCodec.claimsOf settings a
    ((codec.subjectCrypter settings.encryptSubject).encrypt (Vector.replicate Crypter.nonceSize 0)
      (Json.Form.login.render a.login)))
  have hSame : a.rounded settings.idle
      ⟨a.details.claims.filter fun custom => !custom.isEmpty⟩ = a := rfl
  rw [hSame] at hDecoded
  generalize codec.token _ = token at hDecoded hReadable
  obtain ⟨value, hValue⟩ := HeaderValue.exists_ofString? hReadable
  let request := ({} : Request).withHeader settings.header value
  have hPlaced : ({} : Request).withHeaderText? settings.header token = some request :=
    Option.map_eq_some_iff.mpr ⟨value, hValue, rfl⟩
  have hLocate (stored : Bool) : (jwt settings codec stored).carrier.locate request = some token :=
    Request.findValue?_withHeaderText? hReadable rfl hPlaced
  have hRead (stored : Bool) :
      (jwt settings codec stored).read (h.store s) token = .ok (some a) := by
    simp only [read, hDecoded]
    cases stored with
    | false => rfl
    | true => rfl
  have hFound (stored : Bool) :
      (h.run ((jwt settings codec stored).carrier.retrieve request) s).1 = .ok (some a) :=
    retrieve_of_read (fun _ => Surroundings.reliable_steady) (hLocate stored) (hRead stored) rfl
      (by decide)
  have hEmpty : ({} : Store JwtDetails).Signable := fun id b hNone => by cases hNone
  have hSignable : s.store.Signable := hEmpty.add (a := a) (by decide)
  obtain ⟨token', hToken', hBack⟩ := (hTokens token a hDecoded).2 hExact Surroundings.answer s
  obtain ⟨changed, hChanged, -, hHeld⟩ := hUnstored h request s a (hFound false) s {}
  obtain ⟨fresh, hHeader, hFresh⟩ := hHeld (by decide)
  exact ⟨token, request, hDecoded, ⟨token', hToken', hBack⟩, hFound false,
    ⟨changed, fresh, hChanged, hHeader, hFresh hExact⟩, hFound true,
    hStored (fun _ => (settings, codec)) ⟨s.store, fun _ => none⟩ [] _ (.nil _) (fun _ => rfl)
      hSignable h request s a rfl (hFound true) s {}⟩

end Service

end WebLogin
