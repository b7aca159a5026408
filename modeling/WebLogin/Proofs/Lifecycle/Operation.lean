import WebLogin.Proofs.Lifecycle.Service

/-!
# Operations of clients

What a client has a service do, each operation as the program that the service runs for it, and
what such a program keeps to however its questions are answered.

* `callsOnly_program`: the calls of the store that each operation makes.
* `obeys_program`: a retrieval that finds nothing and an update that the store refuses are over.
* `endsIn_update`: with a store, an update that the store does not accept fails.
-/

namespace WebLogin

variable {δ ν : Type}

/-- What a client has a service do. -/
inductive Operation (δ : Type) where
  | retrieve (request : Request)
  | start (a : Authenticator δ)
  | touch (a : Authenticator δ)
  | update (a : Authenticator δ) (response : Response)
  | renewValue (a : Authenticator δ) (request : Request)
  | discard (a : Authenticator δ) (response : Response)

namespace Operation

/-- What an operation gives, with wire values `ν`. -/
abbrev Result (ν : Type) : Operation δ → Type
  | retrieve _ => Except LifecycleError (Option (Authenticator δ))
  | start _ => Except LifecycleError ν
  | touch _ => Touched (Authenticator δ)
  | update _ _ => Except LifecycleError Response
  | renewValue _ _ => Except LifecycleError ν
  | discard _ _ => Except LifecycleError Response

/-- The calls of the store that an operation makes. -/
def Calls : Operation δ → Query δ → Prop
  | retrieve _, q => ∃ id, q = .find id
  | start a, q => q = .add a
  | touch _, _ => False
  | update a _, q => q = .update a
  | renewValue a _, q => q = .remove a.id ∨ ∃ fresh, q = .add fresh
  | discard a _, q => q = .remove a.id

/-- What is left of an operation after an exchange, where it is over by it: a retrieval that finds
nothing, and an update that the store refuses. -/
def Concludes (name : CarrierName) :
    (op : Operation δ) → Exchange δ → Program δ (op.Result ν) → Prop
  | retrieve _, e, rest => ∀ id, e = ⟨.find id, .ok none⟩ → rest = .done (.ok none)
  | update a _, e, rest =>
    ∀ fault, e = ⟨.update a, .error fault⟩ → rest = .done (.error (.failed name .update (.store fault)))
  | _, _, _ => True

end Operation

/-! ## Writing back -/

/-- A program whose one call is to update a record, and which fails unless the store accepts it. -/
structure Program.Writes {α : Type} (a : Authenticator δ) (p : Program δ (Except Cause α)) :
    Prop where
  callsOnly : p.CallsOnly (· = .update a)
  refused : p.Obeys fun e rest =>
    ∀ fault, e = ⟨.update a, .error fault⟩ → rest = .done (.error (.store fault))
  endsIn : p.EndsIn (fun e => ∀ record, e ≠ ⟨.update a, .ok record⟩)
    fun result => ∃ cause, result = .error cause

namespace Program

variable {α β : Type} {a : Authenticator δ}

theorem Writes.map {p : Program δ (Except Cause α)} (hp : p.Writes a) (f : α → β) :
    (p.bind fun result => .done (result.map f)).Writes a where
  callsOnly := hp.callsOnly.bind fun _ => callsOnly_done _
  refused := by
    refine hp.refused.bind (fun e rest hRest fault hFault => ?_) fun _ => trivial
    rw [hRest fault hFault]
    rfl
  endsIn := by
    refine hp.endsIn.bind fun result hResult => ?_
    obtain ⟨cause, rfl⟩ := hResult
    exact ⟨cause, rfl⟩

theorem Writes.after {p : Program δ α} (hp : p.Quiet) {f : α → Program δ (Except Cause β)}
    (hf : ∀ x, (f x).Writes a) : (p.bind f).Writes a where
  callsOnly := hp.callsOnly.bind fun x => (hf x).callsOnly
  refused := by
    have hQuiet : p.Obeys fun e _ => e.1.isCall = false := Always.obeys hp fun _ _ h => h
    refine hQuiet.bind (fun e rest hCall fault hFault => ?_) fun x => (hf x).refused
    rw [hFault] at hCall
    cases hCall
  endsIn := EndsIn.bind (Always.endsIn hp) fun x _ => (hf x).endsIn

theorem writes_error (a : Authenticator δ) (cause : Cause) :
    (done (.error cause) : Program δ (Except Cause α)).Writes a :=
  ⟨trivial, trivial, cause, rfl⟩

end Program

theorem Stored.writes_update (a : Authenticator δ) : (Stored.update a).Writes a where
  callsOnly := Program.CallsOnly.bind (Program.callsOnly_query fun _ => rfl) fun _ =>
    Program.callsOnly_done _
  refused answer := by
    refine ⟨fun fault hFault => ?_, trivial⟩
    obtain rfl : answer = .error fault := eq_of_heq (Sigma.mk.inj hFault).2
    rfl
  endsIn answer hAnswer := by
    cases answer with
    | error fault => exact ⟨.store fault, rfl⟩
    | ok record => exact absurd rfl (hAnswer record)

theorem JwtCodec.writes_signThen (codec : JwtCodec) (settings : JwtSettings)
    {a : JwtAuthenticator} {call : Program JwtDetails (Except Cause Unit)} (hCall : call.Writes a) :
    (codec.signThen settings a call).Writes a := by
  have hHide := Service.quiet_encryptFresh (δ := JwtDetails)
    (codec.subjectCrypter settings.encryptSubject) (Json.Form.login.render a.login)
  unfold JwtCodec.signThen JwtCodec.encodeFresh
  cases JwtCodec.clash? a with
  | some name => exact Program.writes_error a _
  | none =>
    refine Program.Writes.after (Program.Quiet.bind hHide fun _ => Program.quiet_done _)
      fun signed => ?_
    cases signed with
    | error error => exact Program.writes_error a _
    | ok token => exact hCall.map _

namespace Service

/-- Where there is a store, an update is to write the record to it. -/
theorem writes_reissue {S : Service δ ν} (hStored : S.isStored = true) (a : Authenticator δ) :
    (S.carrier.reissue a).Writes a := by
  cases S with
  | cookie settings keeping fingerprint =>
    cases keeping with
    | storeBacked => exact (Stored.writes_update a).map _
    | selfContained codec => cases hStored
  | session settings codec fingerprint => cases hStored
  | bearer settings => exact (Stored.writes_update a).map _
  | jwt settings codec stored =>
    obtain rfl : stored = true := hStored
    exact (codec.writes_signThen settings (Stored.writes_update a)).map _

/-- A record that is not found is no authenticator. -/
theorem obeys_decode (S : Service δ ν) (raw : String) :
    (S.carrier.decode raw).Obeys fun e rest =>
      ∀ id, e = ⟨.find id, .ok none⟩ → rest = .done (.ok none) := by
  have hFind (id : String) : ((Program.query (.find id)).bind fun answer =>
      .done (answer.mapError DecodeFault.store)).Obeys fun (e : Exchange δ) rest =>
        ∀ id, e = ⟨.find id, .ok none⟩ → rest = .done (.ok none) := by
    refine fun answer => ⟨fun other hNone => ?_, trivial⟩
    obtain ⟨hQuery, hAnswer⟩ := Sigma.mk.inj hNone
    obtain rfl := Query.find.inj hQuery
    obtain rfl := eq_of_heq hAnswer
    rfl
  cases S with
  | cookie settings keeping fingerprint =>
    cases keeping with
    | storeBacked => exact hFind raw
    | selfContained codec => trivial
  | session settings codec fingerprint => trivial
  | bearer settings => exact hFind raw
  | jwt settings codec stored =>
    simp only [carrier, jwtCarrier]
    cases codec.decode settings raw with
    | error error => trivial
    | ok a =>
      cases stored with
      | false => trivial
      | true => exact hFind a.id

/-! ## Operations as programs -/

/-- An operation as the program that a service runs. -/
def program (S : Service δ ν) : (op : Operation δ) → Program δ (op.Result ν)
  | .retrieve request => S.carrier.retrieve request
  | .start a => S.carrier.start a
  | .touch a => S.carrier.touch a
  | .update a response => S.carrier.update a response
  | .renewValue a request => S.carrier.renewValue a request
  | .discard a response => S.carrier.discard a response

/-- The calls of the store that each operation makes. -/
theorem callsOnly_program {S : Service δ ν} (hStored : S.isStored = true) (op : Operation δ) :
    (S.program op).CallsOnly op.Calls := by
  cases op with
  | retrieve request => exact (S.callsOnly_retrieve request).mono fun q hq => hq.2
  | start a => exact (S.callsOnly_start a).mono fun q hq => hq.2
  | touch a =>
    have hTouch : (S.carrier.touch a).Quiet :=
      Program.Quiet.bind (Program.quiet_query rfl) fun _ => Program.quiet_done _
    exact hTouch.callsOnly
  | update a response =>
    refine (writes_reissue hStored a).callsOnly.bind fun written => ?_
    cases written with
    | error cause => exact Program.callsOnly_done _
    | ok value =>
      cases value with
      | none => exact Program.callsOnly_done _
      | some raw => exact Program.callsOnly_done _
  | renewValue a request => exact (S.callsOnly_renewValue a request).mono fun q hq => hq.2
  | discard a response =>
    refine ((S.callsOnly_revoke a.id).mono fun q hq => hq.2).bind fun revoked => ?_
    cases revoked with
    | error cause => exact Program.callsOnly_done _
    | ok _ => exact (quiet_report _ _).callsOnly

/-- A retrieval that finds nothing and an update that the store refuses are over. -/
theorem obeys_program {S : Service δ ν} (hStored : S.isStored = true) (op : Operation δ) :
    (S.program op).Obeys (op.Concludes S.carrier.name) := by
  cases op with
  | retrieve request =>
    simp only [program]
    cases hLocate : S.carrier.locate request with
    | none =>
      rw [S.carrier.retrieve_of_none hLocate]
      trivial
    | some raw =>
      rw [S.carrier.retrieve_eq hLocate]
      refine (S.obeys_decode raw).bind (fun e rest hRest id hNone => ?_) fun decoded => ?_
      · rw [hRest id hNone]
        rfl
      · refine Program.Always.obeys (S.carrier.quiet_judge request decoded) ?_
        intro e rest hQuiet id hNone
        rw [hNone] at hQuiet
        cases hQuiet
  | update a response =>
    refine (writes_reissue hStored a).refused.bind (fun e rest hRest fault hFault => ?_) ?_
    · rw [hRest fault hFault]
      rfl
    · intro written
      cases written with
      | error cause => trivial
      | ok value =>
        cases value with
        | none => trivial
        | some raw => trivial
  | start a => exact Program.obeys_of_forall fun _ _ => trivial
  | touch a => exact Program.obeys_of_forall fun _ _ => trivial
  | renewValue a request => exact Program.obeys_of_forall fun _ _ => trivial
  | discard a response => exact Program.obeys_of_forall fun _ _ => trivial

/-- With a store, an update that the store does not accept fails. -/
theorem endsIn_update {S : Service δ ν} (hStored : S.isStored = true) (a : Authenticator δ)
    (response : Response) :
    (S.carrier.update a response).EndsIn (fun e => ∀ record, e ≠ ⟨.update a, .ok record⟩)
      fun result => ∃ cause, result = .error (.failed S.carrier.name .update cause) := by
  refine (writes_reissue hStored a).endsIn.bind fun result hResult => ?_
  obtain ⟨cause, rfl⟩ := hResult
  exact ⟨cause, rfl⟩

end Service

end WebLogin
