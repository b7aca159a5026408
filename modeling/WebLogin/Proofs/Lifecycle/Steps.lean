import WebLogin.Carrier.Basic
import WebLogin.Proofs.Lifecycle.Host

/-!
# The steps of the lifecycle in a run

What each step gives in a run, in terms of the few operations in which carriers differ.

* `run_create`, `quiet_create`: a new authenticator and the two ways to have none. The store has no
  part in it.
* `retrieve_eq`, `run_retrieve`: the verdict on what a wire value is decoded to. `always_judge` says
  that it takes no more than the clock and events.
* `run_start`, `state_start`: what the issue of a wire value makes of it.
* `run_touch`, `run_update`, `run_discard`: the steps in between and the last one.
* `run_renewValue_of_none`, `run_renewValue_of_some`, `run_renew`: a renewal as the steps that it is
  made of.
-/

namespace WebLogin.Carrier

variable {δ ν σ : Type} (c : Carrier δ ν) (h : Host δ σ)

/-! ## Making an authenticator -/

/-- The record of a login that is made at an instant. -/
def record (id : String) (login : Login) (now expires : Instant) (request : Request) :
    Authenticator δ where
  id := id
  login := login
  lastUsed := now
  expires := expires
  idle := c.idle
  details := c.imprint request

theorem run_create (login : Login) (request : Request) (s : σ) :
    (h.run (c.create login request) s).1 =
      match (h.answer (.freshId generator) s).1 with
      | .error fault => .error (c.failure .creation (.generator fault))
      | .ok id =>
        match (h.clock s).add? c.expiry with
        | none => .error (c.failure .creation (.expiry c.expiry))
        | some expires => .ok (c.record id login (h.clock s) expires request) := by
  unfold create
  simp only [Program.bind_eq, h.run_bind, h.run_query (.freshId generator)]
  cases (h.answer (.freshId generator) s).1 with
  | error fault => rfl
  | ok id =>
    simp only [h.run_bind, h.run_query .now, h.now_answer, h.clock_answer]
    cases (h.clock s).add? c.expiry with
    | none => rfl
    | some expires => rfl

theorem quiet_create (login : Login) (request : Request) : (c.create login request).Quiet := by
  unfold create
  refine Program.Quiet.bind (Program.quiet_query rfl) fun answer => ?_
  cases answer with
  | error fault => exact Program.quiet_done _
  | ok id =>
    refine Program.Quiet.bind (Program.quiet_query rfl) fun now => ?_
    cases now.add? c.expiry with
    | none => exact Program.quiet_done _
    | some expires =>
      exact Program.Quiet.bind (Program.quiet_query rfl) fun _ => Program.quiet_done _

/-! ## Finding an authenticator -/

theorem run_accept (request : Request) (a : Authenticator δ) (s : σ) :
    (h.run (c.accept request a) s).1 =
      if c.belongs request a ∧ a.isValid (h.clock s) then some a else none := by
  unfold accept
  by_cases hBelongs : c.belongs request a = true
  · simp only [hBelongs, if_true, Program.bind_eq, h.run_bind, h.run_query .now, h.now_answer,
      true_and]
    by_cases hValid : a.isValid (h.clock s) = true
    · simp [hValid]
    · simp [hValid]
  · simp [hBelongs]

theorem always_accept {R : Query δ → Prop} (hNow : R .now) (hEmit : ∀ event, R (.emit event))
    (request : Request) (a : Authenticator δ) :
    (c.accept request a).Always R fun _ => True := by
  unfold accept
  split
  · refine Program.Always.bind (P := fun _ => True) ⟨hNow, fun _ => trivial⟩ fun now _ => ?_
    split
    · trivial
    · exact ⟨hEmit _, fun _ => trivial⟩
  · exact ⟨hEmit _, fun _ => trivial⟩

/-- What `retrieve` does with a decoded wire value. -/
def judge (request : Request) :
    Except DecodeFault (Option (Authenticator δ)) →
      Program δ (Except LifecycleError (Option (Authenticator δ)))
  | .error (.store fault) => return .error (c.failure .retrieval (.store fault))
  | .error (.codec error) => do
    Program.emit (.undecodable c.name error)
    return .ok none
  | .ok none => return .ok none
  | .ok (some a) => do return .ok (← c.accept request a)

theorem retrieve_of_none {request : Request} (hLocate : c.locate request = none) :
    c.retrieve request = .done (.ok none) := by
  unfold retrieve
  rw [hLocate]
  rfl

theorem retrieve_eq {request : Request} {raw : String} (hLocate : c.locate request = some raw) :
    c.retrieve request = (c.decode raw).bind (c.judge request) := by
  unfold retrieve
  rw [hLocate]
  refine congrArg (c.decode raw).bind (funext fun decoded => ?_)
  cases decoded with
  | error fault => cases fault <;> rfl
  | ok found => cases found <;> rfl

theorem always_judge {R : Query δ → Prop} (hNow : R .now) (hEmit : ∀ event, R (.emit event))
    (request : Request) (decoded : Except DecodeFault (Option (Authenticator δ))) :
    (c.judge request decoded).Always R fun _ => True := by
  cases decoded with
  | error fault =>
    cases fault with
    | store fault => trivial
    | codec error => exact ⟨hEmit _, fun _ => trivial⟩
  | ok found =>
    cases found with
    | none => trivial
    | some a => exact (c.always_accept hNow hEmit request a).bind fun _ _ => trivial

/-- Once a wire value is decoded, the store has no further part in it. -/
theorem quiet_judge (request : Request)
    (decoded : Except DecodeFault (Option (Authenticator δ))) : (c.judge request decoded).Quiet :=
  c.always_judge (R := fun q => q.isCall = false) rfl (fun _ => rfl) request decoded

/-- What `retrieve` makes of a decoded wire value. -/
def verdict (now : Instant) (request : Request) :
    Except DecodeFault (Option (Authenticator δ)) →
      Except LifecycleError (Option (Authenticator δ))
  | .error (.store fault) => .error (c.failure .retrieval (.store fault))
  | .error (.codec _) => .ok none
  | .ok none => .ok none
  | .ok (some a) => .ok (if c.belongs request a ∧ a.isValid now then some a else none)

theorem run_judge (request : Request) (decoded : Except DecodeFault (Option (Authenticator δ)))
    (s : σ) : (h.run (c.judge request decoded) s).1 = c.verdict (h.clock s) request decoded := by
  cases decoded with
  | error fault =>
    cases fault with
    | store fault => rfl
    | codec error => rfl
  | ok found =>
    cases found with
    | none => rfl
    | some a =>
      simp only [judge, verdict, Program.bind_eq, Program.pure_eq, h.run_bind, h.run_done, run_accept]

theorem run_retrieve {request : Request} {raw : String} (hLocate : c.locate request = some raw)
    (s : σ) :
    (h.run (c.retrieve request) s).1 =
      c.verdict (h.clock s) request (h.run (c.decode raw) s).1 := by
  rw [c.retrieve_eq hLocate, h.run_bind, c.run_judge h, h.clock_run]

/-- An authenticator that is found was decoded, belongs to the client and is valid. -/
theorem accepted_of_retrieve {request : Request} {raw : String} {s : σ} {a : Authenticator δ}
    (hLocate : c.locate request = some raw)
    (hResult : (h.run (c.retrieve request) s).1 = .ok (some a)) :
    (h.run (c.decode raw) s).1 = .ok (some a) ∧ c.belongs request a = true ∧
      a.isValid (h.clock s) = true := by
  rw [c.run_retrieve h hLocate] at hResult
  unfold verdict at hResult
  split at hResult
  · cases hResult
  · cases hResult
  · cases hResult
  next found hDecode =>
    have hFound := Except.ok.inj hResult
    split at hFound
    · next hAccepted =>
      obtain rfl := Option.some.inj hFound
      exact ⟨hDecode, hAccepted⟩
    · cases hFound

/-! ## Making a wire value -/

theorem run_start (a : Authenticator δ) (s : σ) :
    (h.run (c.start a) s).1 =
      match (h.run (c.issue a) s).1 with
      | .error cause => .error (c.failure .initialization cause)
      | .ok raw => .ok (c.wrap a raw) := by
  unfold start
  simp only [Program.bind_eq, h.run_bind]
  cases (h.run (c.issue a) s).1 with
  | error cause => rfl
  | ok raw => rfl

theorem state_start (a : Authenticator δ) (s : σ) :
    (h.run (c.start a) s).2 = (h.run (c.issue a) s).2 := by
  unfold start
  simp only [Program.bind_eq, h.run_bind]
  cases (h.run (c.issue a) s).1 with
  | error cause => rfl
  | ok raw => rfl

/-! ## Touching and writing back -/

theorem run_touch (a : Authenticator δ) (s : σ) :
    (h.run (c.touch a) s).1 = a.touch (h.clock s) ∧
      h.store (h.run (c.touch a) s).2 = h.store s := by
  have hStore : h.store (h.answer .now s).2 = h.store s := h.store_quiet (q := .now) rfl s
  refine ⟨?_, hStore⟩
  unfold touch
  simp only [Program.bind_eq, Program.pure_eq, h.run_bind, h.run_query .now, h.run_done,
    h.now_answer]

theorem run_update (a : Authenticator δ) (response : Response) (s : σ) :
    (h.run (c.update a response) s).1 =
        (match (h.run (c.reissue a) s).1 with
        | .error cause => .error (c.failure .update cause)
        | .ok none => .ok response
        | .ok (some raw) => c.blame .update (c.place (c.wrap a raw) response)) ∧
      (h.run (c.update a response) s).2 = (h.run (c.reissue a) s).2 := by
  unfold update
  simp only [Program.bind_eq, h.run_bind]
  cases (h.run (c.reissue a) s).1 with
  | error cause => exact ⟨rfl, rfl⟩
  | ok given =>
    cases given with
    | none => exact ⟨rfl, rfl⟩
    | some raw => exact ⟨rfl, rfl⟩

/-! ## Renewing -/

/-- The successor that a fresh authenticator is made into. -/
def successor (old fresh : Authenticator δ) : Authenticator δ :=
  { fresh with details := c.inherit old.details fresh.details }

/-- What a renewal does with a fresh authenticator. -/
def install (old fresh : Authenticator δ) : Program δ (Except LifecycleError ν) := do
  match c.blameRenewal (← c.start (c.successor old fresh)) with
  | .error error => return .error error
  | .ok value =>
    Program.emit (.renewed c.name old.id fresh.id)
    return .ok value

/-- What a renewal does once the old authenticator is revoked. -/
def replace (old : Authenticator δ) (request : Request) : Program δ (Except LifecycleError ν) := do
  match c.blameRenewal (← c.create old.login request) with
  | .error error => return .error error
  | .ok fresh => c.install old fresh

theorem renewValue_eq (old : Authenticator δ) (request : Request) :
    c.renewValue old request = (c.revoke old.id).bind fun
      | .error cause => .done (.error (c.failure .renewal cause))
      | .ok () => c.replace old request := rfl

theorem run_install (old fresh : Authenticator δ) (s : σ) :
    (h.run (c.install old fresh) s).1 =
        (match (h.run (c.issue (c.successor old fresh)) s).1 with
        | .error cause => .error (.within c.name .renewal (c.failure .initialization cause))
        | .ok raw => .ok (c.wrap (c.successor old fresh) raw)) ∧
      h.store (h.run (c.install old fresh) s).2 =
        h.store (h.run (c.issue (c.successor old fresh)) s).2 ∧
      ∀ e ∈ h.trace (c.issue (c.successor old fresh)) s, e ∈ h.trace (c.install old fresh) s := by
  have hTrace : ∀ e ∈ h.trace (c.issue (c.successor old fresh)) s,
      e ∈ h.trace (c.install old fresh) s := fun e he => by
    unfold install start
    simp only [Program.bind_eq, h.trace_bind, List.append_assoc]
    exact List.mem_append_left _ he
  refine ⟨?_, ?_, hTrace⟩
  · unfold install
    simp only [Program.bind_eq, h.run_bind, run_start]
    cases (h.run (c.issue (c.successor old fresh)) s).1 with
    | error cause => rfl
    | ok raw => rfl
  · unfold install
    simp only [Program.bind_eq, h.run_bind, run_start, state_start]
    cases (h.run (c.issue (c.successor old fresh)) s).1 with
    | error cause => rfl
    | ok raw => exact h.store_run_quiet (Program.Quiet.bind (Program.quiet_query rfl) fun _ =>
        Program.quiet_done _) _

/-- Without a fresh authenticator nothing is replaced, and with one the rest is to install it. -/
theorem replace_eq (old : Authenticator δ) (request : Request) :
    c.replace old request = (c.create old.login request).bind fun
      | .error error => .done (.error (.within c.name .renewal error))
      | .ok fresh => c.install old fresh := by
  refine congrArg (c.create old.login request).bind (funext fun created => ?_)
  cases created with
  | error error => rfl
  | ok fresh => rfl

theorem run_replace (old : Authenticator δ) (request : Request) (s : σ) :
    let created := h.run (c.create old.login request) s
    (∀ error, created.1 = .error error →
      h.run (c.replace old request) s = (.error (.within c.name .renewal error), created.2)) ∧
    ∀ fresh, created.1 = .ok fresh →
      h.run (c.replace old request) s = h.run (c.install old fresh) created.2 ∧
      h.trace (c.replace old request) s =
        h.trace (c.create old.login request) s ++ h.trace (c.install old fresh) created.2 := by
  intro created
  rw [replace_eq, h.run_bind, h.trace_bind]
  refine ⟨fun error hError => ?_, fun fresh hFresh => ?_⟩
  · rw [hError]
    rfl
  · rw [hFresh]
    exact ⟨rfl, rfl⟩

/-- The fresh authenticator of a renewal, if it comes to that. -/
def renewed? (old : Authenticator δ) (request : Request) (s : σ) : Option (Authenticator δ) :=
  match (h.run (c.revoke old.id) s).1 with
  | .error _ => none
  | .ok () => (h.run (c.create old.login request) (h.run (c.revoke old.id) s).2).1.toOption

/-- Where the fresh authenticator of a renewal is installed. -/
def renewing (old : Authenticator δ) (request : Request) (s : σ) : σ :=
  (h.run (c.create old.login request) (h.run (c.revoke old.id) s).2).2

/-- A renewal without a fresh authenticator fails once the old one is revoked or cannot be. -/
theorem run_renewValue_of_none {old : Authenticator δ} {request : Request} {s : σ}
    (hNone : c.renewed? h old request s = none) :
    (∃ error, (h.run (c.renewValue old request) s).1 = .error error) ∧
      h.store (h.run (c.renewValue old request) s).2 = h.store (h.run (c.revoke old.id) s).2 := by
  rw [c.renewValue_eq, h.run_bind]
  unfold renewed? at hNone
  cases hRevoke : (h.run (c.revoke old.id) s).1 with
  | error cause => exact ⟨⟨_, rfl⟩, rfl⟩
  | ok _ =>
    rw [hRevoke] at hNone
    obtain ⟨hFailed, -⟩ := c.run_replace h old request (h.run (c.revoke old.id) s).2
    cases hCreate : (h.run (c.create old.login request) (h.run (c.revoke old.id) s).2).1 with
    | ok fresh =>
      rw [hCreate] at hNone
      cases hNone
    | error error =>
      simp only [hFailed error hCreate]
      exact ⟨⟨_, rfl⟩, h.store_run_quiet (c.quiet_create old.login request) _⟩

/-- A renewal with a fresh authenticator issues its successor. -/
theorem run_renewValue_of_some {old fresh : Authenticator δ} {request : Request} {s : σ}
    (hFresh : c.renewed? h old request s = some fresh) :
    (h.run (c.renewValue old request) s).1 =
        (match (h.run (c.issue (c.successor old fresh)) (c.renewing h old request s)).1 with
        | .error cause => .error (.within c.name .renewal (c.failure .initialization cause))
        | .ok raw => .ok (c.wrap (c.successor old fresh) raw)) ∧
      h.store (h.run (c.renewValue old request) s).2 =
        h.store (h.run (c.issue (c.successor old fresh)) (c.renewing h old request s)).2 ∧
      (h.run (c.create old.login request) (h.run (c.revoke old.id) s).2).1 = .ok fresh ∧
      h.store (c.renewing h old request s) = h.store (h.run (c.revoke old.id) s).2 := by
  have hStore : h.store (c.renewing h old request s) = h.store (h.run (c.revoke old.id) s).2 :=
    h.store_run_quiet (c.quiet_create old.login request) _
  rw [c.renewValue_eq, h.run_bind]
  unfold renewed? at hFresh
  cases hRevoke : (h.run (c.revoke old.id) s).1 with
  | error cause =>
    rw [hRevoke] at hFresh
    cases hFresh
  | ok _ =>
    rw [hRevoke] at hFresh
    obtain ⟨-, hMade⟩ := c.run_replace h old request (h.run (c.revoke old.id) s).2
    cases hCreate : (h.run (c.create old.login request) (h.run (c.revoke old.id) s).2).1 with
    | error error =>
      rw [hCreate] at hFresh
      cases hFresh
    | ok made =>
      rw [hCreate] at hFresh
      obtain rfl : made = fresh := Option.some.inj hFresh
      obtain ⟨hResult, hAfter, -⟩ := c.run_install h old made (c.renewing h old request s)
      simp only [(hMade made hCreate).1]
      exact ⟨hResult, hAfter, trivial, hStore⟩

/-- To put the value of a successor into a response asks nothing more. -/
theorem run_renew (old : Authenticator δ) (request : Request) (response : Response) (s : σ) :
    (h.run (c.renew old request response) s).1 =
        (match (h.run (c.renewValue old request) s).1 with
        | .error error => .error error
        | .ok value => c.blameRenewal (c.embed value response)) ∧
      (h.run (c.renew old request response) s).2 = (h.run (c.renewValue old request) s).2 := by
  unfold renew
  simp only [Program.bind_eq, h.run_bind]
  cases (h.run (c.renewValue old request) s).1 with
  | error error => exact ⟨rfl, rfl⟩
  | ok value => exact ⟨rfl, rfl⟩

/-! ## Ending -/

theorem run_discard (a : Authenticator δ) (response : Response) (s : σ) :
    (h.run (c.discard a response) s).1 =
        (match (h.run (c.revoke a.id) s).1 with
        | .error cause => .error (c.failure .discard cause)
        | .ok () => .ok (c.clear response)) ∧
      h.store (h.run (c.discard a response) s).2 = h.store (h.run (c.revoke a.id) s).2 := by
  unfold discard
  simp only [Program.bind_eq, h.run_bind]
  cases (h.run (c.revoke a.id) s).1 with
  | error cause => exact ⟨rfl, rfl⟩
  | ok _ => exact ⟨rfl, h.store_run_quiet (Program.Quiet.bind (Program.quiet_query rfl) fun _ =>
      Program.quiet_done _) _⟩

end WebLogin.Carrier
