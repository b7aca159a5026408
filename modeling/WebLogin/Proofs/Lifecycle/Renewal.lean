import WebLogin.Proofs.Lifecycle.Service

/-!
# Renewal

A renewal revokes first and issues afterwards, so that whatever fails on the way, the old
authenticator is dead and nothing is left half done.

* `Renewal`: everything that a run of `renewValue` can come to. `renewal_outcome` proves that a run
  comes to one of these, and the rest is read off the cases.
* `renewValue_revokes_first`: the statement for all services, stores and failures.
-/

namespace WebLogin

/-! ## The size of a store -/

theorem Dictionary.length_insertEntry {α : Type} {key : String} {value : α}
    {l : List (String × α)} (hNew : lookup? key l = none) :
    (insertEntry key value l).length = l.length + 1 := by
  induction l with
  | nil => rfl
  | cons e rest ih =>
    obtain ⟨k, v⟩ := e
    by_cases hKey : key = k
    · simp [lookup?, hKey] at hNew
    · rw [lookup?, if_neg hKey] at hNew
      rw [insertEntry, if_neg hKey]
      split
      · rfl
      · simp [ih hNew]

/-- To add a record under a new identifier makes a store greater by one. -/
theorem Store.size_add {δ : Type} {store : Store δ} {a : Authenticator δ}
    (hNew : store.find? a.id = none) : (store.add a).size = store.size + 1 :=
  Dictionary.length_insertEntry hNew

namespace Service

variable {δ ν σ : Type}

/-! ## What a renewal can come to -/

/-- The host's own claims are handed on. -/
def SameClaims : Service δ ν → (old new : Authenticator δ) → Prop
  | jwt _ _ _, old, new => new.details.claims = old.details.claims
  | _, _, _ => True

/-- A successor of an authenticator, made for a request at an instant. -/
structure Succeeds (S : Service δ ν) (old : Authenticator δ) (request : Request) (now : Instant)
    (new : Authenticator δ) : Prop where
  login : new.login = old.login
  lastUsed : new.lastUsed = now
  claims : S.SameClaims old new
  fingerprint : S.Fingerprinted request new

/-- Why there is no successor: none is made, for want of an identifier or of an expiry in range, or
none is issued. -/
def Obstructs (S : Service δ ν) (old : Authenticator δ) (request : Request) (now : Instant)
    (trace : List (Exchange δ)) : Phase → Cause → Prop
  | .creation, cause =>
    (∃ fault, cause = .generator fault ∧ ⟨.freshId Carrier.generator, .error fault⟩ ∈ trace) ∨
      cause = .expiry S.carrier.expiry ∧ now.add? S.carrier.expiry = none
  | .initialization, cause =>
    ∃ new, S.Succeeds old request now new ∧ S.Withholds new trace cause
  | _, _ => False

/-- Everything that a run of `renewValue` can come to. -/
inductive Renewal (S : Service δ ν) (old : Authenticator δ) (request : Request) (now : Instant)
    (before : Store δ) (trace : List (Exchange δ)) :
    (after : Store δ) → Except LifecycleError ν → Prop where
  /-- The old authenticator could not be revoked, and nothing else was tried. -/
  | notRevoked (fault : StoreFault) (only : trace = [⟨.remove old.id, .error fault⟩]) :
    Renewal S old request now before trace before
      (.error (.failed S.carrier.name .renewal (.store fault)))
  /-- The old authenticator was revoked, but there is no successor. -/
  | obstructed (phase : Phase) (cause : Cause)
    (revoked : S.isStored = true → trace.head? = some ⟨.remove old.id, .ok ()⟩)
    (obstructs : S.Obstructs old request now trace phase cause) :
    Renewal S old request now before trace (S.without before old.id)
      (.error (.within S.carrier.name .renewal (.failed S.carrier.name phase cause)))
  /-- The old authenticator was revoked and the successor issued. -/
  | renewed (new : Authenticator δ) (value : ν)
    (revoked : S.isStored = true → trace.head? = some ⟨.remove old.id, .ok ()⟩)
    (drawn : ⟨.freshId Carrier.generator, .ok new.id⟩ ∈ trace)
    (succeeds : S.Succeeds old request now new) :
    Renewal S old request now before trace
      (if S.isStored then (S.without before old.id).add new else S.without before old.id)
      (.ok value)

/-! ## Every run comes to one of these -/

theorem succeeds_record {S : Service δ ν} {old : Authenticator δ} {request : Request} {id : String}
    {now expires : Instant} :
    S.Succeeds old request now
      (S.carrier.successor old (S.carrier.record id old.login now expires request)) := by
  refine ⟨rfl, rfl, ?_, ?_⟩
  · cases S with
    | cookie settings keeping fingerprint => trivial
    | session settings codec fingerprint => trivial
    | bearer settings => trivial
    | jwt settings codec stored =>
      change (old.details.claims <|> none) = old.details.claims
      cases old.details.claims <;> rfl
  · cases S with
    | cookie settings keeping fingerprint =>
      intro hOn
      exact if_pos hOn
    | session settings codec fingerprint =>
      intro hOn
      exact if_pos hOn
    | bearer settings => trivial
    | jwt settings codec stored => trivial

theorem Withholds.mono {S : Service δ ν} {a : Authenticator δ} {trace more : List (Exchange δ)}
    {cause : Cause} (h : S.Withholds a trace cause) (hMore : ∀ e ∈ trace, e ∈ more) :
    S.Withholds a more cause := by
  rcases h with ⟨fault, hCause, hStored, hMem⟩ | ⟨name, hCause, hClash⟩
  · exact .inl ⟨fault, hCause, hStored, hMore _ hMem⟩
  · exact .inr ⟨name, hCause, hClash⟩

theorem Obstructs.mono {S : Service δ ν} {old : Authenticator δ} {request : Request}
    {now : Instant} {trace more : List (Exchange δ)} {phase : Phase} {cause : Cause}
    (h : S.Obstructs old request now trace phase cause) (hMore : ∀ e ∈ trace, e ∈ more) :
    S.Obstructs old request now more phase cause := by
  cases phase with
  | creation =>
    rcases h with ⟨fault, hCause, hMem⟩ | hExpiry
    · exact .inl ⟨fault, hCause, hMore _ hMem⟩
    · exact .inr hExpiry
  | initialization =>
    obtain ⟨new, hSucceeds, hWithholds⟩ := h
    exact ⟨new, hSucceeds, hWithholds.mono hMore⟩
  | retrieval => exact h
  | update => exact h
  | renewal => exact h
  | discard => exact h

/-- To install a successor either leaves the store as it is or adds the successor to it. -/
theorem install_outcome (S : Service δ ν) (h : Host δ σ) {old fresh : Authenticator δ}
    {request : Request} {now : Instant} (s : σ)
    (hSucceeds : S.Succeeds old request now (S.carrier.successor old fresh)) :
    (∃ cause, S.Obstructs old request now (h.trace (S.carrier.install old fresh) s)
        .initialization cause ∧
      h.store (h.run (S.carrier.install old fresh) s).2 = h.store s ∧
      (h.run (S.carrier.install old fresh) s).1 =
        .error (.within S.carrier.name .renewal (.failed S.carrier.name .initialization cause))) ∨
    ∃ value, h.store (h.run (S.carrier.install old fresh) s).2 =
        (if S.isStored then (h.store s).add (S.carrier.successor old fresh) else h.store s) ∧
      (h.run (S.carrier.install old fresh) s).1 = .ok value := by
  obtain ⟨hResult, hStore, hTrace⟩ := S.carrier.run_install h old fresh s
  have hOutcome := S.issue_outcome h (S.carrier.successor old fresh) s
  rw [hResult, hStore]
  cases hRaw : (h.run (S.carrier.issue (S.carrier.successor old fresh)) s).1 with
  | error cause =>
    obtain ⟨hSame, hWithholds⟩ := hOutcome.failed cause hRaw
    exact .inl ⟨cause, ⟨_, hSucceeds, hWithholds.mono hTrace⟩, hSame, rfl⟩
  | ok raw =>
    obtain ⟨-, hAdded⟩ := hOutcome.issued raw hRaw
    exact .inr ⟨_, hAdded, rfl⟩

/-- What becomes of a renewal once the old authenticator is revoked: either there is an obstacle and
the store is left as it is then, or a successor is issued. -/
def ReplaceOutcome (S : Service δ ν) (old : Authenticator δ) (request : Request) (now : Instant)
    (before after : Store δ) (trace : List (Exchange δ)) (result : Except LifecycleError ν) : Prop :=
  (∃ phase cause, S.Obstructs old request now trace phase cause ∧ after = before ∧
    result = .error (.within S.carrier.name .renewal (.failed S.carrier.name phase cause))) ∨
  ∃ new value, ⟨.freshId Carrier.generator, .ok new.id⟩ ∈ trace ∧ S.Succeeds old request now new ∧
    after = (if S.isStored then before.add new else before) ∧ result = .ok value

theorem replace_outcome (S : Service δ ν) (h : Host δ σ) (old : Authenticator δ)
    (request : Request) (s : σ) :
    S.ReplaceOutcome old request (h.clock s) (h.store s)
      (h.store (h.run (S.carrier.replace old request) s).2)
      (h.trace (S.carrier.replace old request) s)
      (h.run (S.carrier.replace old request) s).1 := by
  obtain ⟨hFailed, hMade⟩ := S.carrier.run_replace h old request s
  have hStore := h.store_run_quiet (S.carrier.quiet_create old.login request) s
  have hDrawn : ⟨.freshId Carrier.generator, (h.answer (.freshId Carrier.generator) s).1⟩ ∈
      h.trace (S.carrier.create old.login request) s := List.mem_cons_self
  have hCreate := S.carrier.run_create h old.login request s
  have hTrace : ∀ e ∈ h.trace (S.carrier.create old.login request) s,
      e ∈ h.trace (S.carrier.replace old request) s := fun e he => by
    unfold Carrier.replace
    rw [Program.bind_eq, h.trace_bind]
    exact List.mem_append_left _ he
  cases hId : (h.answer (.freshId Carrier.generator) s).1 with
  | error fault =>
    rw [hId] at hCreate hDrawn
    rw [hFailed _ hCreate]
    exact .inl ⟨.creation, .generator fault, .inl ⟨fault, rfl, hTrace _ hDrawn⟩, hStore, rfl⟩
  | ok id =>
  rw [hId] at hCreate hDrawn
  cases hExpires : (h.clock s).add? S.carrier.expiry with
  | none =>
    rw [hExpires] at hCreate
    rw [hFailed _ hCreate]
    exact .inl ⟨.creation, .expiry S.carrier.expiry, .inr ⟨rfl, hExpires⟩, hStore, rfl⟩
  | some expires =>
  rw [hExpires] at hCreate
  obtain ⟨hRun, hCalls⟩ := hMade _ hCreate
  have hSucceeds : S.Succeeds old request (h.clock s) (S.carrier.successor old
      (S.carrier.record id old.login (h.clock s) expires request)) := succeeds_record
  rw [hRun, hCalls, ← hStore]
  rcases S.install_outcome h (h.run (S.carrier.create old.login request) s).2 hSucceeds with
    ⟨cause, hObstructs, hSame, hResult⟩ | ⟨value, hAdded, hResult⟩
  · exact .inl ⟨.initialization, cause, hObstructs.mono fun e => List.mem_append_right _, hSame,
      hResult⟩
  · exact .inr ⟨_, value, List.mem_append_left _ hDrawn, hSucceeds, hAdded, hResult⟩

/-- Every run of `renewValue` comes to one of the cases of `Renewal`. -/
theorem renewal_outcome (S : Service δ ν) (h : Host δ σ) (old : Authenticator δ)
    (request : Request) (s : σ) :
    S.Renewal old request (h.clock s) (h.store s)
      (h.trace (S.carrier.renewValue old request) s)
      (h.store (h.run (S.carrier.renewValue old request) s).2)
      (h.run (S.carrier.renewValue old request) s).1 := by
  have hRevoke := S.revoke_outcome h old.id s
  have hReplace := S.replace_outcome h old request (h.run (S.carrier.revoke old.id) s).2
  rw [S.carrier.renewValue_eq, h.run_bind, h.trace_bind]
  rw [h.clock_run] at hReplace
  rcases hRevoke with ⟨hResult, hStore, hFirst⟩ | ⟨fault, hResult, hStore, hTrace⟩
  · rw [hResult]
    have hRevoked : S.isStored = true → (h.trace (S.carrier.revoke old.id) s ++
        h.trace (S.carrier.replace old request) (h.run (S.carrier.revoke old.id) s).2).head? =
        some ⟨.remove old.id, .ok ()⟩ := by
      intro hStored
      rw [hFirst, if_pos hStored]
      rfl
    rw [hStore] at hReplace
    rcases hReplace with ⟨phase, cause, hObstructs, hSame, hError⟩ |
      ⟨new, value, hDrawn, hSucceeds, hAdded, hOk⟩
    · rw [hError, hSame]
      exact .obstructed phase cause hRevoked (hObstructs.mono fun e => List.mem_append_right _)
    · rw [hOk, hAdded]
      exact .renewed new value hRevoked (List.mem_append_right _ hDrawn) hSucceeds
  · rw [hResult, hTrace, ← hStore]
    exact .notRevoked fault rfl

/-- A trace cannot start with both answers to the removal, and without a store with neither. -/
theorem head?_ne_of_revoked {S : Service δ ν} {id : String} {trace : List (Exchange δ)}
    (hRevoked : S.isStored = true → trace.head? = some ⟨.remove id, .ok ()⟩)
    (hQuiet : S.isStored = false → ∀ e ∈ trace, e.1.isCall = false) (fault : StoreFault) :
    trace.head? ≠ some ⟨.remove id, .error fault⟩ := by
  intro hFault
  cases hStored : S.isStored with
  | true =>
    obtain ⟨-, hSame⟩ := Sigma.mk.inj (Option.some.inj (hFault.symm.trans (hRevoked hStored)))
    cases eq_of_heq hSame
  | false => cases hQuiet hStored _ (List.mem_of_mem_head? hFault)

/-- A renewal revokes before it issues. If the old authenticator cannot be revoked, nothing else is
asked and nothing has changed. In every other case it is dead afterwards, unless the generator gave
its identifier anew; a failure leaves exactly the store without it, and a success adds exactly its
successor. Without a store, no call of one is made. -/
theorem renewValue_revokes_first (S : Service δ ν) (h : Host δ σ) (old : Authenticator δ)
    (request : Request) (s : σ) :
    let before := h.store s
    let after := h.store (h.run (S.carrier.renewValue old request) s).2
    let result := (h.run (S.carrier.renewValue old request) s).1
    let trace := h.trace (S.carrier.renewValue old request) s
    (∀ fault, trace.head? = some ⟨.remove old.id, .error fault⟩ →
      result = .error (.failed S.carrier.name .renewal (.store fault)) ∧ after = before ∧
        trace = [⟨.remove old.id, .error fault⟩]) ∧
    (S.isStored = true → (∀ fault, trace.head? ≠ some ⟨.remove old.id, .error fault⟩) →
      trace.head? = some ⟨.remove old.id, .ok ()⟩ ∧
        (after.find? old.id = none ∨ ⟨.freshId Carrier.generator, .ok old.id⟩ ∈ trace)) ∧
    ((∀ fault, trace.head? ≠ some ⟨.remove old.id, .error fault⟩) → ∀ error, result = .error error →
      after = S.without before old.id ∧
        ∃ phase cause, S.Obstructs old request (h.clock s) trace phase cause ∧
          error = .within S.carrier.name .renewal (.failed S.carrier.name phase cause)) ∧
    (∀ value, result = .ok value →
      ∃ new, ⟨.freshId Carrier.generator, .ok new.id⟩ ∈ trace ∧
        S.Succeeds old request (h.clock s) new ∧
        (S.isStored = true → after = (before.remove old.id).add new ∧
          ((before.remove old.id).find? new.id = none →
            after.size = (before.remove old.id).size + 1))) ∧
    (S.isStored = false → after = before ∧ ∀ e ∈ trace, e.1.isCall = false) := by
  intro before after result trace
  have hOutcome : S.Renewal old request (h.clock s) before trace after result :=
    S.renewal_outcome h old request s
  have hWithout (hStored : S.isStored = true) : S.without before old.id = before.remove old.id :=
    if_pos hStored
  have hUnstored (hFalse : S.isStored = false) : after = before ∧ ∀ e ∈ trace, e.1.isCall = false :=
    have hQuiet := quiet_of_callsOnly hFalse (S.callsOnly_renewValue old request)
    ⟨h.store_run_quiet hQuiet s, (h.always_run hQuiet s).1⟩
  clear_value before after result trace
  cases hOutcome with
  | notRevoked fault only =>
    have hHead : trace.head? = some ⟨.remove old.id, .error fault⟩ := by rw [only]; rfl
    refine ⟨fun found hFound => ?_, fun _ hOther => absurd hHead (hOther fault),
      fun hOther => absurd hHead (hOther fault), fun value hValue => (by cases hValue), hUnstored⟩
    obtain ⟨-, hSame⟩ := Sigma.mk.inj (Option.some.inj (hFound.symm.trans hHead))
    obtain rfl := Except.error.inj (eq_of_heq hSame)
    exact ⟨rfl, rfl, only⟩
  | obstructed phase cause revoked obstructs =>
    refine ⟨fun fault hFault => ?_, fun hStored _ => ⟨revoked hStored, .inl ?_⟩,
      fun _ error hError => ⟨rfl, phase, cause, obstructs, ?_⟩, fun value hValue => (by cases hValue),
      hUnstored⟩
    · exact absurd hFault (head?_ne_of_revoked revoked (fun hFalse => (hUnstored hFalse).2) fault)
    · rw [hWithout hStored, Store.find?_remove, if_pos rfl]
    · exact (Except.error.inj hError).symm
  | renewed new value revoked drawn succeeds =>
    refine ⟨fun fault hFault => ?_, fun hStored _ => ⟨revoked hStored, ?_⟩,
      fun _ error hError => (by cases hError), fun _ _ => ⟨new, drawn, succeeds, fun hStored => ?_⟩,
      hUnstored⟩
    · exact absurd hFault (head?_ne_of_revoked revoked (fun hFalse => (hUnstored hFalse).2) fault)
    · rw [if_pos hStored, hWithout hStored, Store.find?_add]
      by_cases hId : old.id = new.id
      · exact .inr (hId ▸ drawn)
      · rw [if_neg hId, Store.find?_remove, if_pos rfl]
        exact .inl rfl
    · rw [if_pos hStored, hWithout hStored]
      exact ⟨rfl, Store.size_add⟩

end Service

end WebLogin
