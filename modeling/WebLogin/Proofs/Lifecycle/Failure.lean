import WebLogin.Proofs.Jwt.RoundTrip
import WebLogin.Proofs.Lifecycle.Client

/-!
# Failed operations

No operation fails once the store has accepted a call of it: each makes at most one call, and what comes
after it cannot fail. In particular a new token is signed before the record is written, and to put it
into a response never fails. So whatever an operation fails for, the store is as it was, as long as the
calls that fail leave it alone.

* `Settles`: a program whose result is settled as soon as the store has accepted a call.
* `Spares`, `Settles.contents_run`: a store that only accepted calls change, and a run that fails.
* `settles_decode`, `settles_issue`, `settles_reissue`, `settles_revoke`: the operations in which
  services differ.
* `settles_attempt`, `blames_attempt`: every operation, and what its failure names.
-/

namespace WebLogin

variable {δ ν σ α β ε ζ : Type}

/-- A result that is no failure. -/
def Succeeded (r : Except ε α) : Prop := ∃ x, r = .ok x

theorem succeeded_of_not_error {r : Except ε α} (h : ¬∃ e, r = .error e) : Succeeded r := by
  cases r with
  | error e => exact absurd ⟨e, rfl⟩ h
  | ok x => exact ⟨x, rfl⟩

theorem Succeeded.map {r : Except ε α} (h : Succeeded r) (f : α → β) : Succeeded (r.map f) := by
  obtain ⟨x, rfl⟩ := h
  exact ⟨f x, rfl⟩

theorem Succeeded.mapError {r : Except ε α} (h : Succeeded r) (f : ε → ζ) :
    Succeeded (r.mapError f) := by
  obtain ⟨x, rfl⟩ := h
  exact ⟨x, rfl⟩

namespace Program

/-! ## Programs that are settled by the store -/

/-- Once the store has accepted a call, the program ends only with a result that `P` admits, whatever it
is answered from then on. -/
def Settles (P : α → Prop) (p : Program δ α) : Prop :=
  p.Obeys fun e rest => e.1.isCall = true → ¬e.1.Failure e.2 → rest.Always (fun _ => True) P

variable {P : α → Prop} {Q : β → Prop} {p : Program δ α}

theorem settles_done (a : α) : (done a : Program δ α).Settles P := trivial

theorem Settles.bind {f : α → Program δ β} (hp : p.Settles P)
    (hP : ∀ a, P a → (f a).Always (fun _ => True) Q) (hf : ∀ a, (f a).Settles Q) :
    (p.bind f).Settles Q :=
  Obeys.bind hp (fun _ _ hRest hCall hAccepted => (hRest hCall hAccepted).bind hP) hf

theorem Settles.map {f : α → β} (hp : p.Settles P) (hP : ∀ a, P a → Q (f a)) :
    (p.bind fun a => done (f a)).Settles Q :=
  hp.bind hP fun _ => settles_done _

/-- What comes before the first call has no part in it. -/
theorem Settles.after {f : α → Program δ β} (hp : p.Always (fun q => q.isCall = false) P)
    (hf : ∀ a, P a → (f a).Settles Q) : (p.bind f).Settles Q := by
  induction p with
  | done a => exact hf a hp
  | ask q resume ih =>
    refine fun answer => ⟨fun hCall => ?_, ih answer (hp.2 answer)⟩
    rw [hp.1] at hCall
    cases hCall

theorem Quiet.settles (hp : p.Quiet) : p.Settles P := by
  refine Always.obeys hp fun e rest hQuiet hCall => ?_
  rw [hQuiet] at hCall
  cases hCall

/-! ## Stores that failing calls leave alone -/

/-- Surroundings with a store whose contents are changed by calls only, and not by those that fail. What
an accepted call does to them is the store's own affair. -/
structure Spares (answer : (q : Query δ) → σ → q.Answer × σ) (contents : σ → β) : Prop where
  quiet : ∀ q s, q.isCall = false → contents (answer q s).2 = contents s
  failing : ∀ q s, q.Failure (answer q s).1 → contents (answer q s).2 = contents s

/-- If the result is not the settled one, no call was accepted. -/
theorem Settles.contents_run {answer : (q : Query δ) → σ → q.Answer × σ} {contents : σ → β}
    (hSpares : Spares answer contents) (hp : p.Settles P) {s : σ} (hNot : ¬P (p.run answer s).1) :
    contents (p.run answer s).2 = contents s := by
  induction p generalizing s with
  | done a => rfl
  | ask q resume ih =>
    obtain ⟨hAccepted, hRest⟩ := hp (answer q s).1
    have hLater := ih _ hRest hNot
    -- an accepted call would have settled the result, and nothing else changes the contents
    by_cases hCall : q.isCall = true
    · by_cases hFailure : q.Failure (answer q s).1
      · exact hLater.trans (hSpares.failing q s hFailure)
      · exact absurd ((hAccepted hCall hFailure).result answer _) hNot
    · exact hLater.trans (hSpares.quiet q s (Bool.eq_false_iff.mpr hCall))

end Program

theorem Store.Acts.eq_of_failure {q : Query δ} {before after : Store δ} {answer : q.Answer}
    (hActs : Store.Acts q before answer after) (hFailure : q.Failure answer) : after = before := by
  cases q with
  | update record =>
    obtain ⟨fault, rfl⟩ := hFailure
    simp only [Store.Acts] at hActs
    split at hActs
    · cases hActs.1
    · exact hActs.2
  | find id => exact hActs.2
  | add record =>
    obtain ⟨fault, rfl⟩ := hFailure
    cases hActs.1
  | remove id =>
    obtain ⟨fault, rfl⟩ := hFailure
    cases hActs.1
  | now => cases hFailure
  | freshId generator => cases hFailure
  | randomBytes count => cases hFailure
  | emit event => cases hFailure

theorem Host.spares (h : Host δ σ) : Program.Spares h.answer h.store where
  quiet _ s hQuiet := h.store_quiet hQuiet s
  failing q s hFailure := (h.serves q s).elim (fun hActs => hActs.eq_of_failure hFailure) And.right

/-! ## Calls of the store -/

/-- A call whose answer is made into a result, which is no failure unless the answer is one. -/
theorem Program.settles_call {q : Query δ} {f : q.Answer → Except ε α}
    (hf : ∀ answer, ¬q.Failure answer → Succeeded (f answer)) :
    ((Program.query q).bind fun answer => .done (f answer)).Settles Succeeded :=
  fun answer => ⟨fun _ hAccepted => hf answer hAccepted, trivial⟩

namespace Stored

theorem settles_add (a : Authenticator δ) : (add a).Settles Succeeded :=
  Program.settles_call fun _ hAccepted => (succeeded_of_not_error hAccepted).mapError _

theorem settles_update (a : Authenticator δ) : (update a).Settles Succeeded :=
  Program.settles_call fun _ hAccepted => ((succeeded_of_not_error hAccepted).mapError _).map _

theorem settles_remove (id : String) :
    (remove id : Program δ (Except Cause Unit)).Settles Succeeded :=
  Program.settles_call fun _ hAccepted => (succeeded_of_not_error hAccepted).mapError _

theorem settles_find (id : String) :
    ((Program.query (.find id) : Program δ _).bind fun answer =>
      .done (answer.mapError DecodeFault.store)).Settles Succeeded :=
  Program.settles_call fun _ hAccepted => (succeeded_of_not_error hAccepted).mapError _

theorem settles_when (stored : Bool) {call : Program δ (Except Cause Unit)}
    (hCall : call.Settles Succeeded) : (when stored call).Settles Succeeded := by
  cases stored with
  | false => exact Program.settles_done _
  | true => exact hCall

end Stored

namespace JwtCodec

theorem always_encodeFresh (codec : JwtCodec) (settings : JwtSettings) (a : JwtAuthenticator) :
    (codec.encodeFresh settings a : Program JwtDetails _).Always (fun q => q.isCall = false)
      fun signed => ∀ token, signed = .ok token → ∃ claims, token = codec.token claims := by
  unfold encodeFresh
  cases clash? a with
  | some name => exact fun token hToken => by cases hToken
  | none =>
    refine Program.Always.bind (P := fun _ => True) (Service.quiet_encryptFresh _ _) ?_
    intro subject _ token hToken
    exact ⟨_, (Except.ok.inj hToken).symm⟩

theorem settles_signThen (codec : JwtCodec) (settings : JwtSettings) (a : JwtAuthenticator)
    {call : Program JwtDetails (Except Cause Unit)} (hCall : call.Settles Succeeded) :
    (codec.signThen settings a call).Settles fun r => ∃ claims, r = .ok (codec.token claims) := by
  -- the call comes after the token, so that nothing is left then that could fail
  refine Program.Settles.after (codec.always_encodeFresh settings a) fun signed hSigned => ?_
  cases signed with
  | error error => exact Program.settles_done _
  | ok token =>
    obtain ⟨claims, rfl⟩ := hSigned token rfl
    refine hCall.map fun called hCalled => ?_
    obtain ⟨_, rfl⟩ := hCalled
    exact ⟨claims, rfl⟩

end JwtCodec

/-! ## Services -/

namespace Service

variable (S : Service δ ν)

theorem settles_decode (raw : String) : (S.carrier.decode raw).Settles Succeeded := by
  cases S with
  | cookie settings keeping fingerprint =>
    cases keeping with
    | storeBacked => exact Stored.settles_find raw
    | selfContained codec => exact Program.settles_done _
  | session settings codec fingerprint => exact Program.settles_done _
  | bearer settings => exact Stored.settles_find raw
  | jwt settings codec stored =>
    simp only [carrier, jwtCarrier]
    cases codec.decode settings raw with
    | error error => exact Program.settles_done _
    | ok a =>
      cases stored with
      | false => exact Program.settles_done _
      | true => exact Stored.settles_find a.id

theorem settles_reported {issued : Program δ (Except Cause α)}
    {report : Except Cause α → Program δ (Except Cause String)} (hIssued : issued.Settles Succeeded)
    (hError : ∀ cause, report (.error cause) = .done (.error cause))
    (hOk : ∀ x, ∃ event raw, report (.ok x) = (Program.emit event).bind fun _ => .done (.ok raw)) :
    (issued.bind report).Settles Succeeded := by
  refine hIssued.bind ?_ fun r => ?_
  · rintro _ ⟨x, rfl⟩
    obtain ⟨event, raw, hReport⟩ := hOk x
    rw [hReport]
    exact ⟨trivial, fun _ => ⟨raw, rfl⟩⟩
  · cases r with
    | error cause =>
      rw [hError cause]
      exact Program.settles_done _
    | ok x =>
      obtain ⟨event, raw, hReport⟩ := hOk x
      rw [hReport]
      exact (quiet_report _ _).settles

theorem settles_encoded {P : β → Prop} (codec : SignedCodec) (form : Json.Form α) (x : α)
    (f : String → β) :
    ((codec.encodeFresh form x : Program δ String).bind fun raw => .done (f raw)).Settles P :=
  Program.Quiet.settles
    (Program.Quiet.bind (quiet_encodeFresh codec form x) fun _ => Program.quiet_done _)

theorem settles_issue (a : Authenticator δ) : (S.carrier.issue a).Settles Succeeded := by
  cases S with
  | cookie settings keeping fingerprint =>
    have hEncode : (keeping.encode a).Settles Succeeded := by
      cases keeping with
      | storeBacked => exact (Stored.settles_add a).map fun _ hAdded => hAdded.map _
      | selfContained codec => exact settles_encoded codec Json.Form.cookieAuthenticator a _
    exact settles_reported hEncode (fun _ => rfl) fun _ => ⟨_, _, rfl⟩
  | session settings codec fingerprint => exact settles_encoded codec Json.Form.sessionAuthenticator a _
  | bearer settings => exact settles_reported (Stored.settles_add a) (fun _ => rfl) fun _ => ⟨_, _, rfl⟩
  | jwt settings codec stored =>
    have hKeep : (Stored.when stored (Stored.keep a)).Settles Succeeded :=
      Stored.settles_when stored ((Stored.settles_add a).map fun _ hAdded => hAdded.map _)
    have hSign : (codec.signThen settings a (Stored.when stored (Stored.keep a))).Settles Succeeded :=
      Program.Obeys.mono (codec.settles_signThen settings a hKeep) fun e rest hRest hCall hAccepted =>
        (hRest hCall hAccepted).mono (fun _ h => h) fun _ ⟨claims, hToken⟩ => ⟨_, hToken⟩
    exact settles_reported hSign (fun _ => rfl) fun _ => ⟨_, _, rfl⟩

/-- A wire value that any response takes. -/
def Placeable (raw : String) : Prop :=
  ∀ a response, Succeeded (S.carrier.place (S.carrier.wrap a raw) response)

/-- Where the store accepts an update, nothing is handed out or a value that any response takes. -/
theorem settles_reissue (a : Authenticator δ) :
    (S.carrier.reissue a).Settles fun r =>
      ∃ given, r = .ok given ∧ ∀ raw, given = some raw → S.Placeable raw := by
  have hNothing {r : Except Cause Unit} (hUpdated : Succeeded r) :
      ∃ given, (r.map fun _ => none) = .ok given ∧ ∀ raw, given = some raw → S.Placeable raw := by
    obtain ⟨_, rfl⟩ := hUpdated
    exact ⟨none, rfl, fun raw hRaw => by cases hRaw⟩
  cases S with
  | cookie settings keeping fingerprint =>
    cases keeping with
    | storeBacked => exact (Stored.settles_update a).map fun _ => hNothing
    | selfContained codec => exact settles_encoded codec Json.Form.cookieAuthenticator a _
  | session settings codec fingerprint => exact settles_encoded codec Json.Form.sessionAuthenticator a _
  | bearer settings => exact (Stored.settles_update a).map fun _ => hNothing
  | jwt settings codec stored =>
    have hUpdate := Stored.settles_when stored (Stored.settles_update a)
    refine (codec.settles_signThen settings a hUpdate).map fun _ hSigned => ?_
    obtain ⟨claims, rfl⟩ := hSigned
    have hReadable := codec.readable_token claims
    generalize codec.token claims = token at hReadable
    refine ⟨some token, rfl, fun raw hRaw a response => ?_⟩
    obtain rfl := Option.some.inj hRaw
    obtain ⟨changed, hPlace, -⟩ := place_readable hReadable settings.header response
    exact ⟨changed, hPlace⟩

theorem settles_revoke (id : String) : (S.carrier.revoke id).Settles Succeeded := by
  cases S with
  | cookie settings keeping fingerprint =>
    cases keeping with
    | storeBacked => exact Stored.settles_remove id
    | selfContained codec => exact Program.settles_done _
  | session settings codec fingerprint => exact Program.settles_done _
  | bearer settings => exact Stored.settles_remove id
  | jwt settings codec stored => exact Stored.settles_when stored (Stored.settles_remove id)

end Service

/-! ## Every operation -/

/-- What a host has a service do and what may fail. -/
inductive Attempt (δ ν : Type) where
  | create (login : Login) (request : Request)
  | retrieve (request : Request)
  | start (a : Authenticator δ)
  | embed (value : ν) (response : Response)
  | embedInRequest (value : ν) (request : Request)
  /-- To touch an authenticator and to write back what that makes of it. -/
  | refresh (a : Authenticator δ) (response : Response)
  | update (a : Authenticator δ) (response : Response)
  | discard (a : Authenticator δ) (response : Response)

namespace Attempt

/-- What it gives unless it fails. -/
abbrev Result : Attempt δ ν → Type
  | create _ _ => Authenticator δ
  | retrieve _ => Option (Authenticator δ)
  | start _ => ν
  | embedInRequest _ _ => Request
  | embed _ _ | refresh _ _ | update _ _ | discard _ _ => Response

/-- The phase that its failure names. -/
def phase : Attempt δ ν → Phase
  | create _ _ => .creation
  | retrieve _ => .retrieval
  | start _ | embed _ _ | embedInRequest _ _ => .initialization
  | refresh _ _ | update _ _ => .update
  | discard _ _ => .discard

end Attempt

/-- A failure, if there is one, names the carrier and the phase. -/
def Blames (name : CarrierName) (phase : Phase) (r : Except LifecycleError α) : Prop :=
  ∀ e, r = .error e → ∃ cause, e = .failed name phase cause

theorem blames_ok (name : CarrierName) (phase : Phase) (x : α) : Blames name phase (.ok x) :=
  fun e h => by cases h

theorem blames_failed (name : CarrierName) (phase : Phase) (cause : Cause) :
    Blames name phase (.error (.failed name phase cause) : Except LifecycleError α) := by
  rintro _ ⟨⟩
  exact ⟨cause, rfl⟩

theorem Carrier.blames_blame (c : Carrier δ ν) (phase : Phase) (r : Except Cause α) :
    Blames c.name phase (c.blame phase r) := by
  cases r with
  | error cause => exact blames_failed c.name phase cause
  | ok x => exact blames_ok c.name phase x

namespace Service

variable (S : Service δ ν)

/-- An operation as the program that the service runs. To put a value into a response or a request asks
nothing. -/
def attempt : (t : Attempt δ ν) → Program δ (Except LifecycleError t.Result)
  | .create login request => S.carrier.create login request
  | .retrieve request => S.carrier.retrieve request
  | .start a => S.carrier.start a
  | .embed value response => return S.carrier.embed value response
  | .embedInRequest value request => return S.carrier.embedInRequest value request
  | .refresh a response => S.refresh response a
  | .update a response => S.carrier.update a response
  | .discard a response => S.carrier.discard a response

theorem settles_update (a : Authenticator δ) (response : Response) :
    (S.carrier.update a response).Settles Succeeded := by
  refine (S.settles_reissue a).bind ?_ fun r => ?_
  · rintro _ ⟨given, rfl, hPlaceable⟩
    cases given with
    | none => exact ⟨response, rfl⟩
    | some raw => exact (hPlaceable raw rfl a response).mapError _
  · cases r with
    | error cause => exact Program.settles_done _
    | ok given => cases given <;> exact Program.settles_done _

theorem blames_update (a : Authenticator δ) (response : Response) :
    (S.carrier.update a response).Always (fun _ => True) (Blames S.carrier.name .update) := by
  refine (Program.always_true _).bind fun r _ => ?_
  cases r with
  | error cause => exact blames_failed _ _ cause
  | ok given =>
    cases given with
    | none => exact blames_ok _ _ response
    | some raw => exact S.carrier.blames_blame .update _

theorem settles_attempt (t : Attempt δ ν) : (S.attempt t).Settles Succeeded := by
  cases t with
  | create login request => exact (S.carrier.quiet_create login request).settles
  | retrieve request =>
    simp only [attempt]
    cases hLocate : S.carrier.locate request with
    | none =>
      rw [S.carrier.retrieve_of_none hLocate]
      exact Program.settles_done _
    | some raw =>
      rw [S.carrier.retrieve_eq hLocate]
      refine (S.settles_decode raw).bind ?_ fun r => (S.carrier.quiet_judge request r).settles
      rintro _ ⟨found, rfl⟩
      cases found with
      | none => exact ⟨none, rfl⟩
      | some a => exact (Program.always_true _).bind fun x _ => ⟨x, rfl⟩
  | start a =>
    refine (S.settles_issue a).bind ?_ fun r => ?_
    · rintro _ ⟨raw, rfl⟩
      exact ⟨_, rfl⟩
    · cases r <;> exact Program.settles_done _
  | embed value response => exact Program.settles_done _
  | embedInRequest value request => exact Program.settles_done _
  | refresh a response =>
    have hTouch : (S.carrier.touch a).Quiet :=
      Program.Quiet.bind (Program.quiet_query rfl) fun _ => Program.quiet_done _
    refine Program.Settles.after hTouch fun touched _ => ?_
    cases touched with
    | changed b => exact S.settles_update b response
    | unchanged b => exact Program.settles_done _
  | update a response => exact S.settles_update a response
  | discard a response =>
    refine (S.settles_revoke a.id).bind ?_ fun r => ?_
    · rintro _ ⟨_, rfl⟩
      exact ⟨trivial, fun _ => ⟨_, rfl⟩⟩
    · cases r with
      | error cause => exact Program.settles_done _
      | ok _ => exact (quiet_report _ _).settles

theorem blames_attempt (t : Attempt δ ν) :
    (S.attempt t).Always (fun _ => True) (Blames S.carrier.name t.phase) := by
  cases t with
  | create login request =>
    refine Program.Always.bind (P := fun _ => True) (Program.always_true _) fun made _ => ?_
    cases made with
    | error fault => exact blames_failed _ _ _
    | ok id =>
      refine Program.Always.bind (P := fun _ => True) (Program.always_true _) fun now _ => ?_
      cases now.add? S.carrier.expiry with
      | none => exact blames_failed _ _ _
      | some expires => exact ⟨trivial, fun _ => blames_ok _ _ _⟩
  | retrieve request =>
    simp only [attempt]
    cases hLocate : S.carrier.locate request with
    | none =>
      rw [S.carrier.retrieve_of_none hLocate]
      exact blames_ok _ _ _
    | some raw =>
      rw [S.carrier.retrieve_eq hLocate]
      refine (Program.always_true _).bind fun decoded _ => ?_
      cases decoded with
      | error fault =>
        cases fault with
        | codec error => exact ⟨trivial, fun _ => blames_ok _ _ _⟩
        | store fault => exact blames_failed _ _ _
      | ok found =>
        cases found with
        | none => exact blames_ok _ _ _
        | some a => exact (Program.always_true _).bind fun x _ => blames_ok _ _ x
  | start a =>
    refine (Program.always_true _).bind fun issued _ => ?_
    cases issued with
    | error cause => exact blames_failed _ _ cause
    | ok raw => exact blames_ok _ _ _
  | embed value response => exact S.carrier.blames_blame .initialization _
  | embedInRequest value request => exact S.carrier.blames_blame .initialization _
  | refresh a response =>
    refine (Program.always_true _).bind fun touched _ => ?_
    cases touched with
    | changed b => exact S.blames_update b response
    | unchanged b => exact blames_ok _ _ response
  | update a response => exact S.blames_update a response
  | discard a response =>
    refine (Program.always_true _).bind fun revoked _ => ?_
    cases revoked with
    | error cause => exact blames_failed _ _ cause
    | ok _ => exact ⟨trivial, fun _ => blames_ok _ _ _⟩

end Service

/-- A claim of a reserved name is found before anything is asked. -/
theorem JwtCodec.signThen_of_clash {a : JwtAuthenticator} {name : String}
    (hClash : JwtCodec.clash? a = some name) (codec : JwtCodec) (settings : JwtSettings)
    (call : Program JwtDetails (Except Cause Unit)) :
    codec.signThen settings a call = .done (.error (.codec (.reservedClaim name))) := by
  rw [JwtCodec.signThen, JwtCodec.encodeFresh, hClash]
  rfl

/-- Whatever an operation fails for, the contents of the store are as they were, in whatever store whose
failing calls leave them alone, and the failure names the carrier and the phase of the operation. The
reason is that once the store has accepted a call, the operation does not fail any more; this includes an
update of a token. To start or to update with a claim of a reserved name asks nothing at all of the
surroundings, and neither does it to write back what a touch did not change. -/
theorem Service.failure_spares_store (S : Service δ ν) :
    (∀ t, (S.attempt t).Settles Succeeded) ∧
    (∀ t (answer : (q : Query δ) → σ → q.Answer × σ) (contents : σ → α),
      Program.Spares answer contents → ∀ s e, ((S.attempt t).run answer s).1 = .error e →
        contents ((S.attempt t).run answer s).2 = contents s ∧
          ∃ cause, e = .failed S.carrier.name t.phase cause) ∧
    (∀ settings codec stored (a : JwtAuthenticator) custom, a.details.claims = some custom →
      (∃ name ∈ Jwt.reservedNames, name ∈ custom.keys) → ∃ first,
        (jwtCarrier settings codec stored).start a =
          .done (.error (.failed .jwt .initialization (.codec (.reservedClaim first)))) ∧
        ∀ response, (jwtCarrier settings codec stored).update a response =
          .done (.error (.failed .jwt .update (.codec (.reservedClaim first))))) ∧
    ∀ (a : Authenticator δ) response, S.carrier.updateTouched (.unchanged a) response =
      .done (.ok response) := by
  refine ⟨S.settles_attempt, ?_, ?_, fun _ _ => rfl⟩
  · intro t answer contents hSpares s e hFailed
    refine ⟨(S.settles_attempt t).contents_run hSpares ?_, ?_⟩
    · rintro ⟨x, hOk⟩
      cases hFailed.symm.trans hOk
    · exact (S.blames_attempt t).result answer s e hFailed
  · intro settings codec stored a custom hCustom hReserved
    obtain ⟨name, hName, hKey⟩ := hReserved
    cases hClash : JwtCodec.clash? a with
    | none =>
      have hFree := JwtCodec.unreserved_of_clash?_eq_none hClash name hName
      rw [hCustom] at hFree
      exact absurd hKey hFree
    | some first =>
      refine ⟨first, ?_, fun response => ?_⟩
      · simp only [Carrier.start, jwtCarrier, JwtCodec.signThen_of_clash hClash]
        rfl
      · simp only [Carrier.update, jwtCarrier, JwtCodec.signThen_of_clash hClash]
        rfl

/-- A token whose record is not in the store is written back, and one with a claim in the place of the
subject is started. -/
theorem Service.failure_spares_store_of_unknown_record :
    let S : Service JwtDetails String := .jwt {} ⟨List.replicate 32 0, .sealed [], by decide⟩ true
    let a (id : String) (claims : Option (Dictionary Json)) : JwtAuthenticator :=
      { id, login := ⟨"credentials", "1"⟩, lastUsed := .epoch, expires := .epoch, idle := none
        details := ⟨claims⟩ }
    let s : Surroundings JwtDetails := { store := ({} : Store JwtDetails).add (a "id-1" none) }
    let attempt := S.attempt (.update (a "id-2" none) {})
    (attempt.run Surroundings.answer s).1 =
        .error (.failed .jwt .update (.store (.notStored "id-2"))) ∧
      (attempt.run Surroundings.answer s).2.store = s.store ∧
      s.store.find? "id-1" = some (a "id-1" none) ∧
      ∃ first, S.carrier.start (a "id-1" (some ⟨[("sub", .string "admin")], by decide⟩)) =
        .done (.error (.failed .jwt .initialization (.codec (.reservedClaim first)))) := by
  intro S a s attempt
  have hFailed : (attempt.run Surroundings.answer s).1 =
      .error (.failed .jwt .update (.store (.notStored "id-2"))) := rfl
  obtain ⟨-, hSpared, hReserved, -⟩ :=
    S.failure_spares_store (σ := Surroundings JwtDetails) (α := Store JwtDetails)
  obtain ⟨hSame, -⟩ := hSpared (.update (a "id-2" none) {}) Surroundings.answer Surroundings.store
    Surroundings.host.spares s _ hFailed
  obtain ⟨first, hRefused, -⟩ := hReserved {} ⟨List.replicate 32 0, .sealed [], by decide⟩ true
    (a "id-1" (some ⟨[("sub", .string "admin")], by decide⟩)) _ rfl ⟨"sub", by decide, by decide⟩
  exact ⟨hFailed, hSame, rfl, first, hRefused⟩

end WebLogin
