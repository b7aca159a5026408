import WebLogin.Carrier.Bearer
import WebLogin.Carrier.Cookie
import WebLogin.Carrier.Jwt
import WebLogin.Carrier.Session
import WebLogin.Proofs.Jwt.Codec
import WebLogin.Proofs.Lifecycle.Steps
import WebLogin.Proofs.Signed.Codec

/-!
# Services and their operations

The four carriers as one family, with what their few operations of their own come to in a run.

* `wire`, `wire_wrap`: the wire value inside a value, which is the one that it was made of.
* `issue_outcome`: what is issued for an authenticator, and what that leaves in the store.
* `decode_outcome`: a wire value is read with the store as it is, or a call of the store fails.
* `read_of_retrieve`: what a retrieval has read.
* `revoke_outcome`: where there is a store, the record is removed or the call fails.
* `callsOnly_retrieve`, `callsOnly_start`, `callsOnly_renewValue`: the calls of whole steps. Without
  a store there are none (`quiet_of_callsOnly`).
-/

namespace WebLogin

/-- The services that keep a client logged in: a carrier with its settings and what it needs. -/
inductive Service : (δ ν : Type) → Type where
  | cookie (settings : CookieSettings) (keeping : CookieKeeping) (fingerprint : Request → String) :
      Service CookieDetails Cookie
  | session (settings : SessionSettings) (codec : SignedCodec) (fingerprint : Request → String) :
      Service SessionDetails String
  | bearer (settings : BearerSettings) : Service Unit String
  | jwt (settings : JwtSettings) (codec : JwtCodec) (stored : Bool) : Service JwtDetails String

namespace Service

variable {δ ν σ : Type}

/-- The carrier of a service. -/
def carrier : Service δ ν → Carrier δ ν
  | cookie settings keeping fingerprint => cookieCarrier settings keeping fingerprint
  | session settings codec fingerprint => sessionCarrier settings codec fingerprint
  | bearer settings => bearerCarrier settings
  | jwt settings codec stored => jwtCarrier settings codec stored

/-- Whether authenticators are kept in the store. -/
def isStored : Service δ ν → Bool
  | cookie _ .storeBacked _ => true
  | cookie _ (.selfContained _) _ => false
  | session _ _ _ => false
  | bearer _ => true
  | jwt _ _ stored => stored

/-- Where fingerprints are taken, the authenticator has the one of this very request. -/
def Fingerprinted : Service δ ν → Request → Authenticator δ → Prop
  | cookie settings _ fingerprint, request, a =>
    settings.fingerprinting = true → a.details.fingerprint = some (fingerprint request)
  | session settings _ fingerprint, request, a =>
    settings.fingerprinting = true → a.details.fingerprint = some (fingerprint request)
  | _, _, _ => True

/-! ## Issuing -/

/-- The wire values that may be issued for an authenticator. -/
def Issues : Service δ ν → Authenticator δ → String → Prop
  | cookie _ .storeBacked _, a, raw => raw = a.id
  | cookie _ (.selfContained codec) _, a, raw =>
    ∃ sealing signing, raw = codec.wire sealing signing (Json.Form.cookieAuthenticator.render a)
  | session _ codec _, a, raw =>
    ∃ sealing signing, raw = codec.wire sealing signing (Json.Form.sessionAuthenticator.render a)
  | bearer _, a, raw => raw = a.id
  | jwt settings codec _, a, raw =>
    JwtCodec.clash? a = none ∧ ∃ nonce, raw = codec.token (JwtCodec.claimsOf settings a
      ((codec.subjectCrypter settings.encryptSubject).encrypt nonce (Json.Form.login.render a.login)))

/-- The wire value inside a value. -/
def wire : Service δ ν → ν → String
  | cookie _ _ _, value => value.value
  | session _ _ _, value => value
  | bearer _, value => value
  | jwt _ _ _, value => value

theorem wire_wrap (S : Service δ ν) (a : Authenticator δ) (raw : String) :
    S.wire (S.carrier.wrap a raw) = raw := by
  cases S with
  | cookie settings keeping fingerprint => rfl
  | session settings codec fingerprint => rfl
  | bearer settings => rfl
  | jwt settings codec stored => rfl

/-- The reserved name among an authenticator's own claims that keeps it from being issued. -/
def clash? : Service δ ν → Authenticator δ → Option String
  | jwt _ _ _, a => JwtCodec.clash? a
  | _, _ => none

/-- Why no wire value is issued: the store fails to take the record, or a name is reserved. -/
def Withholds (S : Service δ ν) (a : Authenticator δ) (trace : List (Exchange δ)) (cause : Cause) :
    Prop :=
  (∃ fault, cause = .store fault ∧ S.isStored = true ∧ ⟨.add a, .error fault⟩ ∈ trace) ∨
    ∃ name, cause = .codec (.reservedClaim name) ∧ S.clash? a = some name

/-- What a run of `issue` comes to: a wire value and, where there is a store, the record in it; or
a cause and the store as it was. -/
structure IssueOutcome (S : Service δ ν) (a : Authenticator δ) (before after : Store δ)
    (trace : List (Exchange δ)) (result : Except Cause String) : Prop where
  issued : ∀ raw, result = .ok raw →
    S.Issues a raw ∧ after = if S.isStored then before.add a else before
  failed : ∀ cause, result = .error cause → after = before ∧ S.Withholds a trace cause

namespace IssueOutcome

variable {S : Service δ ν} {a : Authenticator δ} {before after : Store δ}
  {trace : List (Exchange δ)}

theorem of_issued {raw : String} (hIssues : S.Issues a raw)
    (hAfter : after = if S.isStored then before.add a else before) :
    IssueOutcome S a before after trace (.ok raw) := by
  refine ⟨fun other hOther => ?_, fun cause hCause => by cases hCause⟩
  obtain rfl := Except.ok.inj hOther
  exact ⟨hIssues, hAfter⟩

theorem of_failed {cause : Cause} (hAfter : after = before) (hWithholds : S.Withholds a trace cause) :
    IssueOutcome S a before after trace (.error cause) := by
  refine ⟨fun raw hRaw => (by cases hRaw), fun other hOther => ?_⟩
  obtain rfl := Except.error.inj hOther
  exact ⟨hAfter, hWithholds⟩

end IssueOutcome

theorem encryptFresh_run (h : Host δ σ) (c : Crypter) (text : String) (s : σ) :
    ∃ nonce, (h.run (c.encryptFresh text) s).1 = c.encrypt nonce text :=
  c.run_encryptFresh h.answer text s

theorem quiet_encryptFresh (c : Crypter) (text : String) :
    (c.encryptFresh text : Program δ String).Quiet := by
  cases c with
  | plain => exact Program.quiet_done _
  | sealed key => exact Program.Quiet.bind (Program.quiet_query rfl) fun _ => Program.quiet_done _

theorem encodeFresh_run {α : Type} (h : Host δ σ) (c : SignedCodec) (form : Json.Form α) (a : α)
    (s : σ) :
    ∃ sealing signing, (h.run (c.encodeFresh form a) s).1 = c.wire sealing signing (form.render a) :=
  c.run_encodeFresh h.answer form a s

theorem quiet_encodeFresh {α : Type} (c : SignedCodec) (form : Json.Form α) (a : α) :
    (c.encodeFresh form a : Program δ String).Quiet :=
  Program.Quiet.bind (quiet_encryptFresh _ _) fun _ =>
    Program.Quiet.bind (Program.quiet_query rfl) fun _ => Program.quiet_done _

/-- A new record is added, or nothing happens. -/
theorem add_run (h : Host δ σ) (a : Authenticator δ) (s : σ) :
    ((h.run (Stored.add a) s).1 = .ok a ∧ h.store (h.run (Stored.add a) s).2 = (h.store s).add a) ∨
      ∃ fault, (h.run (Stored.add a) s).1 = .error (.store fault) ∧
        h.trace (Stored.add a) s = [⟨.add a, .error fault⟩] ∧
        h.store (h.run (Stored.add a) s).2 = h.store s := by
  have hRun : (h.run (Stored.add a) s).1 = Stored.cause (h.answer (.add a) s).1 := rfl
  have hTrace : h.trace (Stored.add a) s = [⟨.add a, (h.answer (.add a) s).1⟩] := rfl
  rcases h.add_answer a s with ⟨hAnswer, hStore⟩ | ⟨⟨fault, hAnswer⟩, hStore⟩
  · exact .inl ⟨by rw [hRun, hAnswer]; rfl, hStore⟩
  · exact .inr ⟨fault, by rw [hRun, hAnswer]; rfl, by rw [hTrace, hAnswer], hStore⟩

/-- The same where there is a store, with the record left aside. -/
theorem keep_run (h : Host δ σ) (stored : Bool) (a : Authenticator δ) (s : σ) :
    ((h.run (Stored.when stored (Stored.keep a)) s).1 = .ok () ∧
      h.store (h.run (Stored.when stored (Stored.keep a)) s).2 =
        if stored then (h.store s).add a else h.store s) ∨
      ∃ fault, (h.run (Stored.when stored (Stored.keep a)) s).1 = .error (.store fault) ∧
        stored = true ∧ h.trace (Stored.when stored (Stored.keep a)) s = [⟨.add a, .error fault⟩] ∧
        h.store (h.run (Stored.when stored (Stored.keep a)) s).2 = h.store s := by
  cases stored with
  | false => exact .inl ⟨rfl, rfl⟩
  | true =>
    simp only [Stored.when, Stored.keep, if_true, Program.bind_eq, Program.pure_eq, h.run_bind,
      h.trace_bind, h.run_done, h.trace_done, List.append_nil]
    rcases add_run h a s with ⟨hResult, hStore⟩ | ⟨fault, hResult, hTrace, hStore⟩
    · exact .inl ⟨by rw [hResult]; rfl, hStore⟩
    · exact .inr ⟨fault, by rw [hResult]; rfl, trivial, hTrace, hStore⟩

/-- To sign an authenticator and then make a call of the store. -/
theorem signThen_run (h : Host JwtDetails σ) (codec : JwtCodec) (settings : JwtSettings)
    (a : JwtAuthenticator) (call : Program JwtDetails (Except Cause Unit)) (s : σ) :
    (∃ name, JwtCodec.clash? a = some name ∧
      h.run (codec.signThen settings a call) s = (.error (.codec (.reservedClaim name)), s)) ∨
    (JwtCodec.clash? a = none ∧ ∃ nonce s', h.store s' = h.store s ∧
      (∀ e ∈ h.trace call s', e ∈ h.trace (codec.signThen settings a call) s) ∧
      h.run (codec.signThen settings a call) s =
        ((h.run call s').1.map fun () => codec.token (JwtCodec.claimsOf settings a
          ((codec.subjectCrypter settings.encryptSubject).encrypt nonce
            (Json.Form.login.render a.login))), (h.run call s').2)) := by
  unfold JwtCodec.signThen JwtCodec.encodeFresh
  cases hClash : JwtCodec.clash? a with
  | some name => exact .inl ⟨name, rfl, rfl⟩
  | none =>
    right
    let hide : Program JwtDetails String :=
      (codec.subjectCrypter settings.encryptSubject).encryptFresh (Json.Form.login.render a.login)
    obtain ⟨nonce, hNonce⟩ := encryptFresh_run h (codec.subjectCrypter settings.encryptSubject)
      (Json.Form.login.render a.login) s
    refine ⟨rfl, nonce, (h.run hide s).2, h.store_run_quiet (quiet_encryptFresh _ _) s, ?_, ?_⟩
    · intro e he
      simp only [Program.bind_eq, Program.pure_eq, h.run_bind, h.trace_bind, h.run_done,
        JwtCodec.subjectFresh]
      exact List.mem_append_right _ (List.mem_append_left _ he)
    · simp only [Program.bind_eq, Program.pure_eq, h.run_bind, h.run_done, JwtCodec.subjectFresh]
      rw [← hNonce]
      rfl

/-- To report an event leaves the store alone. -/
theorem store_emit (h : Host δ σ) (event : Event) (s : σ) :
    h.store (h.run (Program.emit event) s).2 = h.store s :=
  h.store_quiet (q := .emit event) rfl s

theorem issue_outcome (S : Service δ ν) (h : Host δ σ) (a : Authenticator δ) (s : σ) :
    IssueOutcome S a (h.store s) (h.store (h.run (S.carrier.issue a) s).2)
      (h.trace (S.carrier.issue a) s) (h.run (S.carrier.issue a) s).1 := by
  cases S with
  | cookie settings keeping fingerprint =>
    cases keeping with
    | storeBacked =>
      simp only [carrier, cookieCarrier, CookieKeeping.encode, Program.bind_eq, h.run_bind,
        h.trace_bind, Program.pure_eq, h.run_done]
      rcases add_run h a s with ⟨hResult, hStore⟩ | ⟨fault, hResult, hTrace, hStore⟩
      · simp only [hResult, Except.map, h.run_bind, h.run_done, store_emit]
        exact .of_issued rfl hStore
      · simp only [hResult, hTrace, Except.map, h.run_done]
        exact .of_failed hStore (.inl ⟨fault, rfl, rfl, List.mem_cons_self⟩)
    | selfContained codec =>
      obtain ⟨sealing, signing, hRaw⟩ := encodeFresh_run h codec Json.Form.cookieAuthenticator a s
      simp only [carrier, cookieCarrier, CookieKeeping.encode, Program.bind_eq, h.run_bind,
        Program.pure_eq, h.run_done, store_emit, h.store_run_quiet (quiet_encodeFresh _ _ _)]
      exact .of_issued ⟨sealing, signing, hRaw⟩ rfl
  | session settings codec fingerprint =>
    obtain ⟨sealing, signing, hRaw⟩ := encodeFresh_run h codec Json.Form.sessionAuthenticator a s
    simp only [carrier, sessionCarrier, Program.bind_eq, h.run_bind, Program.pure_eq, h.run_done,
      h.store_run_quiet (quiet_encodeFresh _ _ _)]
    exact .of_issued ⟨sealing, signing, hRaw⟩ rfl
  | bearer settings =>
    simp only [carrier, bearerCarrier, Program.bind_eq, h.run_bind, h.trace_bind, Program.pure_eq]
    rcases add_run h a s with ⟨hResult, hStore⟩ | ⟨fault, hResult, hTrace, hStore⟩
    · simp only [hResult, h.run_bind, h.run_done, store_emit]
      exact .of_issued rfl hStore
    · simp only [hResult, hTrace, h.run_done]
      exact .of_failed hStore (.inl ⟨fault, rfl, rfl, List.mem_cons_self⟩)
  | jwt settings codec stored =>
    simp only [carrier, jwtCarrier, Program.bind_eq, h.run_bind, h.trace_bind, Program.pure_eq]
    rcases signThen_run h codec settings a (Stored.when stored (Stored.keep a)) s with
      ⟨name, hClash, hRun⟩ | ⟨hClash, nonce, s', hStore, hCalls, hRun⟩
    · simp only [hRun, h.run_done]
      exact .of_failed rfl (.inr ⟨name, rfl, hClash⟩)
    · simp only [hRun]
      rcases keep_run h stored a s' with ⟨hResult, hKept⟩ | ⟨fault, hResult, hTrue, hTrace, hKept⟩
      · simp only [hResult, Except.map, h.run_bind, h.run_done, store_emit]
        exact .of_issued ⟨hClash, nonce, rfl⟩ (hStore ▸ hKept)
      · simp only [hResult, Except.map, h.run_done]
        have hMem : (⟨.add a, .error fault⟩ : Exchange JwtDetails) ∈
            h.trace (Stored.when stored (Stored.keep a)) s' := by
          rw [hTrace]
          exact List.mem_cons_self
        exact .of_failed (hKept.trans hStore)
          (.inl ⟨fault, rfl, hTrue, List.mem_append_left _ (hCalls _ hMem)⟩)

theorem callsOnly_signThen {R : Query JwtDetails → Prop} (codec : JwtCodec)
    (settings : JwtSettings) (a : JwtAuthenticator)
    {call : Program JwtDetails (Except Cause Unit)} (hCall : call.CallsOnly R) :
    (codec.signThen settings a call).CallsOnly R := by
  unfold JwtCodec.signThen JwtCodec.encodeFresh
  cases JwtCodec.clash? a with
  | some name => exact Program.callsOnly_done _
  | none =>
    have hHide := quiet_encryptFresh (δ := JwtDetails)
      (codec.subjectCrypter settings.encryptSubject) (Json.Form.login.render a.login)
    refine Program.CallsOnly.bind (Program.CallsOnly.bind hHide.callsOnly fun _ =>
      Program.callsOnly_done _) fun signed => ?_
    cases signed with
    | error error => exact Program.callsOnly_done _
    | ok token => exact Program.CallsOnly.bind hCall fun _ => Program.callsOnly_done _

theorem quiet_report {α : Type} (event : Event) (result : α) :
    ((Program.emit event : Program δ Unit).bind fun _ => Program.done result).Quiet :=
  Program.Quiet.bind (Program.quiet_query rfl) fun _ => Program.quiet_done _

/-- The only call that `issue` makes is to add the authenticator, where there is a store. -/
theorem callsOnly_issue (S : Service δ ν) (a : Authenticator δ) :
    (S.carrier.issue a).CallsOnly fun q => S.isStored = true ∧ q = .add a := by
  cases S with
  | cookie settings keeping fingerprint =>
    have hEncode : (keeping.encode a).CallsOnly fun q =>
        (cookie settings keeping fingerprint).isStored = true ∧ q = .add a := by
      cases keeping with
      | storeBacked =>
        exact Program.CallsOnly.bind (Program.CallsOnly.bind
          (Program.callsOnly_query fun _ => ⟨rfl, rfl⟩) fun _ => Program.callsOnly_done _) fun _ =>
            Program.callsOnly_done _
      | selfContained codec =>
        exact (Program.Quiet.bind (quiet_encodeFresh _ _ _) fun _ => Program.quiet_done _).callsOnly
    refine Program.CallsOnly.bind hEncode fun issued => ?_
    cases issued with
    | error cause => exact Program.callsOnly_done _
    | ok issued => exact (quiet_report _ _).callsOnly
  | session settings codec fingerprint =>
    exact (Program.Quiet.bind (quiet_encodeFresh _ _ _) fun _ => Program.quiet_done _).callsOnly
  | bearer settings =>
    have hAdd : (Stored.add a).CallsOnly fun q =>
        (bearer settings).isStored = true ∧ q = .add a :=
      Program.CallsOnly.bind (Program.callsOnly_query fun _ => ⟨rfl, rfl⟩) fun _ =>
        Program.callsOnly_done _
    refine Program.CallsOnly.bind hAdd fun issued => ?_
    cases issued with
    | error cause => exact Program.callsOnly_done _
    | ok issued => exact (quiet_report _ _).callsOnly
  | jwt settings codec stored =>
    have hKeep : (Stored.when stored (Stored.keep a)).CallsOnly fun q =>
        (jwt settings codec stored).isStored = true ∧ q = .add a := by
      cases stored with
      | false => exact Program.callsOnly_done _
      | true =>
        exact Program.CallsOnly.bind (Program.CallsOnly.bind
          (Program.callsOnly_query fun _ => ⟨rfl, rfl⟩) fun _ => Program.callsOnly_done _) fun _ =>
            Program.callsOnly_done _
    refine Program.CallsOnly.bind (callsOnly_signThen codec settings a hKeep) fun issued => ?_
    cases issued with
    | error cause => exact Program.callsOnly_done _
    | ok issued => exact (quiet_report _ _).callsOnly

/-! ## Reading -/

/-- The authenticator of a wire value with a store in memory. -/
def read : Service δ ν → Store δ → String → Except CodecError (Option (Authenticator δ))
  | cookie _ .storeBacked _, store, raw => .ok (store.find? raw)
  | cookie _ (.selfContained codec) _, _, raw =>
    (codec.decode Json.Form.cookieAuthenticator raw).map some
  | session _ codec _, _, raw => (codec.decode Json.Form.sessionAuthenticator raw).map some
  | bearer _, store, raw => .ok (store.find? raw)
  | jwt settings codec stored, store, raw =>
    (codec.decode settings raw).map fun a => if stored then store.find? a.id else some a

/-- What a run of `decode` comes to: what is read with the store as it is, or the fault of a failing
call of a store that is there. -/
def DecodeOutcome (S : Service δ ν) (store : Store δ) (raw : String) (trace : List (Exchange δ))
    (result : Except DecodeFault (Option (Authenticator δ))) : Prop :=
  (result = (S.read store raw).mapError .codec ∧ ∀ e ∈ trace, ¬e.1.Failure e.2) ∨
    S.isStored = true ∧ ∃ id fault, trace = [⟨.find id, .error fault⟩] ∧
      result = .error (.store fault)

/-- To look a record up. -/
theorem find_run (h : Host δ σ) (id : String) (s : σ) :
    let p : Program δ (Except DecodeFault (Option (Authenticator δ))) :=
      (Program.query (.find id)).bind fun answer => .done (answer.mapError .store)
    ((h.run p s).1 = .ok ((h.store s).find? id) ∧ ∀ e ∈ h.trace p s, ¬e.1.Failure e.2) ∨
      ∃ fault, h.trace p s = [⟨.find id, .error fault⟩] ∧ (h.run p s).1 = .error (.store fault) := by
  intro p
  have hRun : (h.run p s).1 = (h.answer (.find id) s).1.mapError .store := rfl
  have hTrace : h.trace p s = [⟨.find id, (h.answer (.find id) s).1⟩] := rfl
  rcases (h.find_answer id s).2 with hAnswer | ⟨fault, hAnswer⟩
  · refine .inl ⟨by rw [hRun, hAnswer]; rfl, fun e he => ?_⟩
    rw [hTrace, hAnswer] at he
    obtain rfl := List.mem_singleton.mp he
    rintro ⟨fault, hFault⟩
    cases hFault
  · exact .inr ⟨fault, by rw [hTrace, hAnswer], by rw [hRun, hAnswer]; rfl⟩

theorem decode_outcome (S : Service δ ν) (h : Host δ σ) (raw : String) (s : σ) :
    S.DecodeOutcome (h.store s) raw (h.trace (S.carrier.decode raw) s)
      (h.run (S.carrier.decode raw) s).1 := by
  have hNothing : ∀ e ∈ ([] : List (Exchange δ)), ¬e.1.Failure e.2 := fun e he => by cases he
  cases S with
  | cookie settings keeping fingerprint =>
    cases keeping with
    | storeBacked =>
      exact (find_run h raw s).imp_right fun hFault => ⟨rfl, raw, hFault⟩
    | selfContained codec => exact .inl ⟨rfl, hNothing⟩
  | session settings codec fingerprint => exact .inl ⟨rfl, hNothing⟩
  | bearer settings => exact (find_run h raw s).imp_right fun hFault => ⟨rfl, raw, hFault⟩
  | jwt settings codec stored =>
    simp only [DecodeOutcome, carrier, jwtCarrier, read, isStored]
    cases codec.decode settings raw with
    | error error => exact .inl ⟨rfl, hNothing⟩
    | ok a =>
      cases stored with
      | false => exact .inl ⟨rfl, hNothing⟩
      | true => exact (find_run h a.id s).imp_right fun hFault => ⟨rfl, a.id, hFault⟩

/-- What a retrieval finds was read from the wire value of the request, with the store as it is. -/
theorem read_of_retrieve {S : Service δ ν} {h : Host δ σ} {request : Request} {s : σ}
    {a : Authenticator δ} (hFound : (h.run (S.carrier.retrieve request) s).1 = .ok (some a)) :
    ∃ raw, S.carrier.locate request = some raw ∧ S.read (h.store s) raw = .ok (some a) ∧
      S.carrier.belongs request a = true ∧ a.isValid (h.clock s) = true := by
  cases hLocate : S.carrier.locate request with
  | none =>
    rw [S.carrier.retrieve_of_none hLocate] at hFound
    cases hFound
  | some raw =>
    obtain ⟨hDecode, hAccepted⟩ := S.carrier.accepted_of_retrieve h hLocate hFound
    refine ⟨raw, rfl, ?_, hAccepted⟩
    rcases decode_outcome S h raw s with ⟨hOutcome, -⟩ | ⟨-, id, fault, -, hOutcome⟩
    · exact Except.mapError_eq_ok_iff.mp (hOutcome.symm.trans hDecode)
    · cases hOutcome.symm.trans hDecode

theorem callsOnly_find (id : String) {R : Query δ → Prop} (hR : R (.find id)) :
    ((Program.query (.find id)).bind fun answer =>
      .done (answer.mapError DecodeFault.store)).CallsOnly R :=
  Program.CallsOnly.bind (Program.callsOnly_query fun _ => hR) fun _ => Program.callsOnly_done _

/-- The only call that `decode` makes is to find a record, where there is a store. -/
theorem callsOnly_decode (S : Service δ ν) (raw : String) :
    (S.carrier.decode raw).CallsOnly fun q => S.isStored = true ∧ ∃ id, q = .find id := by
  cases S with
  | cookie settings keeping fingerprint =>
    cases keeping with
    | storeBacked => exact callsOnly_find raw ⟨rfl, raw, rfl⟩
    | selfContained codec => exact Program.callsOnly_done _
  | session settings codec fingerprint => exact Program.callsOnly_done _
  | bearer settings => exact callsOnly_find raw ⟨rfl, raw, rfl⟩
  | jwt settings codec stored =>
    simp only [carrier, jwtCarrier]
    cases codec.decode settings raw with
    | error error => exact Program.callsOnly_done _
    | ok a =>
      cases stored with
      | false => exact Program.callsOnly_done _
      | true => exact callsOnly_find a.id ⟨rfl, a.id, rfl⟩

/-! ## Revoking -/

/-- What a store is without the authenticator of an identifier, where there is a store. -/
def without (S : Service δ ν) (store : Store δ) (id : String) : Store δ :=
  if S.isStored then store.remove id else store

/-- What a run of `revoke` comes to: where there is a store, the record is removed from it or the
call fails. -/
def RevokeOutcome (S : Service δ ν) (id : String) (before after : Store δ)
    (trace : List (Exchange δ)) (result : Except Cause Unit) : Prop :=
  (result = .ok () ∧ after = S.without before id ∧
      trace = if S.isStored then [⟨.remove id, .ok ()⟩] else []) ∨
    ∃ fault, result = .error (.store fault) ∧ after = before ∧
      trace = [⟨.remove id, .error fault⟩]

theorem remove_outcome {S : Service δ ν} (hStored : S.isStored = true) (h : Host δ σ) (id : String)
    (s : σ) :
    S.RevokeOutcome id (h.store s) (h.store (h.run (Stored.remove id) s).2)
      (h.trace (Stored.remove id) s) (h.run (Stored.remove id) s).1 := by
  have hRun : (h.run (Stored.remove id) s).1 = Stored.cause (h.answer (.remove id) s).1 := rfl
  have hTrace : h.trace (Stored.remove id : Program δ (Except Cause Unit)) s =
      [⟨.remove id, (h.answer (.remove id) s).1⟩] := rfl
  rcases h.remove_answer id s with ⟨hAnswer, hStore⟩ | ⟨⟨fault, hAnswer⟩, hStore⟩
  · refine .inl ⟨by rw [hRun, hAnswer]; rfl, ?_, ?_⟩
    · rw [without, if_pos hStored]
      exact hStore
    · rw [hTrace, hAnswer, if_pos hStored]
  · exact .inr ⟨fault, by rw [hRun, hAnswer]; rfl, hStore, by rw [hTrace, hAnswer]⟩

theorem revoke_outcome (S : Service δ ν) (h : Host δ σ) (id : String) (s : σ) :
    S.RevokeOutcome id (h.store s) (h.store (h.run (S.carrier.revoke id) s).2)
      (h.trace (S.carrier.revoke id) s) (h.run (S.carrier.revoke id) s).1 := by
  cases S with
  | cookie settings keeping fingerprint =>
    cases keeping with
    | storeBacked => exact remove_outcome rfl h id s
    | selfContained codec => exact .inl ⟨rfl, rfl, rfl⟩
  | session settings codec fingerprint => exact .inl ⟨rfl, rfl, rfl⟩
  | bearer settings => exact remove_outcome rfl h id s
  | jwt settings codec stored =>
    cases stored with
    | false => exact .inl ⟨rfl, rfl, rfl⟩
    | true => exact remove_outcome rfl h id s

/-- The only call that `revoke` makes is to remove the record, where there is a store. -/
theorem callsOnly_revoke (S : Service δ ν) (id : String) :
    (S.carrier.revoke id).CallsOnly fun q => S.isStored = true ∧ q = .remove id := by
  have hRemove (hStored : S.isStored = true) :
      (Stored.remove id : Program δ (Except Cause Unit)).CallsOnly fun q =>
        S.isStored = true ∧ q = .remove id :=
    Program.CallsOnly.bind (Program.callsOnly_query fun _ => ⟨hStored, rfl⟩) fun _ =>
      Program.callsOnly_done _
  cases S with
  | cookie settings keeping fingerprint =>
    cases keeping with
    | storeBacked => exact hRemove rfl
    | selfContained codec => exact Program.callsOnly_done _
  | session settings codec fingerprint => exact Program.callsOnly_done _
  | bearer settings => exact hRemove rfl
  | jwt settings codec stored =>
    cases stored with
    | false => exact Program.callsOnly_done _
    | true => exact hRemove rfl

/-! ## Calls of the store -/

/-- Without a store, a program that calls one only where there is one makes no call. -/
theorem quiet_of_callsOnly {α : Type} {S : Service δ ν} (hStored : S.isStored = false)
    {R : Query δ → Prop} {p : Program δ α} (hp : p.CallsOnly fun q => S.isStored = true ∧ R q) :
    p.Quiet :=
  hp.quiet fun q hq => by
    rw [hStored] at hq
    cases hq.1

theorem callsOnly_retrieve (S : Service δ ν) (request : Request) :
    (S.carrier.retrieve request).CallsOnly fun q => S.isStored = true ∧ ∃ id, q = .find id := by
  cases hLocate : S.carrier.locate request with
  | none =>
    rw [S.carrier.retrieve_of_none hLocate]
    exact Program.callsOnly_done _
  | some raw =>
    rw [S.carrier.retrieve_eq hLocate]
    exact (S.callsOnly_decode raw).bind fun decoded =>
      (S.carrier.quiet_judge request decoded).callsOnly

theorem store_retrieve (S : Service δ ν) (h : Host δ σ) (request : Request) (s : σ) :
    h.store (h.run (S.carrier.retrieve request) s).2 = h.store s :=
  h.store_run_finds ((S.callsOnly_retrieve request).mono fun _ hq => hq.2) s

theorem callsOnly_start (S : Service δ ν) (a : Authenticator δ) :
    (S.carrier.start a).CallsOnly fun q => S.isStored = true ∧ q = .add a := by
  refine (S.callsOnly_issue a).bind fun issued => ?_
  cases issued with
  | error cause => exact Program.callsOnly_done _
  | ok raw => exact Program.callsOnly_done _

theorem callsOnly_renewValue (S : Service δ ν) (a : Authenticator δ) (request : Request) :
    (S.carrier.renewValue a request).CallsOnly fun q =>
      S.isStored = true ∧ (q = .remove a.id ∨ ∃ fresh, q = .add fresh) := by
  rw [S.carrier.renewValue_eq]
  refine ((S.callsOnly_revoke a.id).mono fun q hq => ⟨hq.1, .inl hq.2⟩).bind fun revoked => ?_
  cases revoked with
  | error cause => exact Program.callsOnly_done _
  | ok _ =>
    refine (S.carrier.quiet_create a.login request).callsOnly.bind fun created => ?_
    cases created with
    | error error => exact Program.callsOnly_done _
    | ok fresh =>
      refine ((S.callsOnly_start _).mono fun q hq => ⟨hq.1, .inr ⟨_, hq.2⟩⟩).bind fun started => ?_
      cases started with
      | error error => exact Program.callsOnly_done _
      | ok value => exact (quiet_report _ _).callsOnly

end Service

end WebLogin

