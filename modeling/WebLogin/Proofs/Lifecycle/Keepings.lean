import WebLogin.Proofs.Lifecycle.Client
import WebLogin.Proofs.Lifecycle.World

/-!
# The two keepings of the cookie carrier

A cookie service keeps its authenticators in a store, under identifiers that travel in cookies, or as
signed records in the cookies themselves. A client that brings back the cookie it was last given
cannot tell which, as long as all times are whole seconds. Both services do what a reference does
that knows neither store nor cookies and has one record, that of the session.

* `Reference.step`: what the reference does in one turn.
* `perform_refines`: a turn of a service is a turn of the reference, or the creation of an
  authenticator fails.
* `play_eq_steps`: so is every script.
* `keepings_agree`: the two services show the same to the same script.
-/

namespace WebLogin

variable {δ ν : Type}

/-! ## Operations that ask for no identifier -/

namespace CookieKeeping

open Program

theorem drawless_encodeFresh (codec : SignedCodec) (a : CookieAuthenticator) :
    (codec.encodeFresh Json.Form.cookieAuthenticator a : Program δ String).Drawless := by
  have hSeal : (codec.crypter.encryptFresh (Json.Form.cookieAuthenticator.render a) :
      Program δ String).Drawless := by
    unfold Crypter.encryptFresh
    split
    · exact drawless_done _
    · exact Drawless.bind (drawless_query rfl) fun _ => drawless_done _
  exact Drawless.bind hSeal fun _ => Drawless.bind (drawless_query rfl) fun _ => drawless_done _

theorem drawless_decode (raw : String) (keeping : CookieKeeping) : (keeping.decode raw).Drawless := by
  cases keeping with
  | storeBacked => exact Drawless.bind (drawless_query rfl) fun _ => drawless_done _
  | selfContained codec => exact drawless_done _

theorem drawless_encode (a : CookieAuthenticator) (keeping : CookieKeeping) :
    (keeping.encode a).Drawless := by
  cases keeping with
  | storeBacked =>
    exact Drawless.bind (Drawless.bind (drawless_query rfl) fun _ => drawless_done _) fun _ =>
      drawless_done _
  | selfContained codec =>
    exact Drawless.bind (drawless_encodeFresh codec a) fun _ => drawless_done _

theorem drawless_write (a : CookieAuthenticator) (keeping : CookieKeeping) :
    (keeping.write a).Drawless := by
  cases keeping with
  | storeBacked =>
    exact Drawless.bind (Drawless.bind (drawless_query rfl) fun _ => drawless_done _) fun _ =>
      drawless_done _
  | selfContained codec =>
    exact Drawless.bind (drawless_encodeFresh codec a) fun _ => drawless_done _

theorem drawless_revoke (id : String) (keeping : CookieKeeping) : (keeping.revoke id).Drawless := by
  cases keeping with
  | storeBacked => exact Drawless.bind (drawless_query rfl) fun _ => drawless_done _
  | selfContained codec => exact drawless_done _

end CookieKeeping

/-! ## Scripts -/

/-- What a client wants once it is found to be logged in. -/
inductive Wish where
  /-- To be served, which is a use. -/
  | stay
  | renew
  | leave

/-- What a client asks for. -/
inductive Move where
  | login (login : Login)
  | request (wish : Wish)

/-- One turn of a script. The clock may go on, or back, within it. -/
structure Turn where
  move : Move
  /-- The clock when an authenticator is made at a login, or looked for. -/
  time : Instant
  /-- The clock when the server goes on with an authenticator that it found. -/
  later : Instant
  /-- The request with what the client holds. -/
  bring : Option String → Request

/-- What is seen of a turn: what was made or found, and whether the client holds a wire value after
it. -/
structure Seen (δ : Type) where
  found : Except LifecycleError (Option (Authenticator δ))
  holds : Bool

/-- Whether an authenticator could not be made, by itself or inside another step. -/
def LifecycleError.ofCreation : LifecycleError → Bool
  | failed _ phase _ => phase = .creation
  | within _ _ inner => inner.ofCreation

/-- A turn in which no authenticator could be made. -/
def Seen.Failed (seen : Seen δ) : Prop :=
  ∃ error, seen.found = .error error ∧ error.ofCreation = true

namespace Service

/-- What the server does with an authenticator that it found. -/
def grant (S : Service δ ν) (request : Request) (a : Authenticator δ) :
    Wish → Program δ (Except LifecycleError Response)
  | .stay => S.refresh {} a
  | .renew => S.carrier.renew a request {}
  | .leave => S.carrier.discard a {}

/-- One turn of a client that holds something. -/
def perform (S : Service δ ν) (h : Host δ (World δ)) (turn : Turn) (held : Option String)
    (w : World δ) : Except LifecycleError (Option (Authenticator δ) × Response) × World δ :=
  match turn.move with
  | .login login =>
    let (result, w) := h.run (S.logIn login (turn.bring held) {}) { w with clock := turn.time }
    (result.map fun made => (some made.1, made.2), w)
  | .request wish =>
    match h.run (S.carrier.retrieve (turn.bring held)) { w with clock := turn.time } with
    | (.error error, w) => (.error error, w)
    | (.ok none, w) => (.ok (none, {}), w)
    | (.ok (some a), w) =>
      let (result, w) := h.run (S.grant (turn.bring held) a wish) { w with clock := turn.later }
      (result.map fun sent => (some a, sent), w)

/-- What is seen of a script. The client takes from each response what it then holds. -/
def play (S : Service δ ν) (h : Host δ (World δ)) :
    List Turn → Option String → World δ → List (Seen δ)
  | [], _, _ => []
  | turn :: rest, held, w =>
    match S.perform h turn held w with
    | (.error error, w) => ⟨.error error, held.isSome⟩ :: S.play h rest held w
    | (.ok (found, sent), w) =>
      ⟨.ok found, (S.holding sent held).isSome⟩ :: S.play h rest (S.holding sent held) w

end Service

/-! ## The reference -/

/-- What cookie services have in common: settings, a way to take fingerprints, and the identifiers in
the order in which they are given out. -/
structure Terms where
  settings : CookieSettings
  fingerprint : Request → String
  id : Nat → Except GeneratorFault String

/-- The record of the session, if there is one, and how many identifiers are given out. -/
structure Reference where
  drawn : Nat := 0
  session : Option CookieAuthenticator := none

namespace Terms

variable (t : Terms)

/-- The service with a keeping. -/
abbrev service (keeping : CookieKeeping) : Service CookieDetails Cookie :=
  .cookie t.settings keeping t.fingerprint

/-- Surroundings with some random bytes. -/
abbrev host (bytes : Nat → (count : Nat) → Vector UInt8 count) :
    Host CookieDetails (World CookieDetails) :=
  World.host t.id bytes

/-- A new record. -/
def create (drawn : Nat) (login : Login) (request : Request) (now : Instant) :
    Except LifecycleError CookieAuthenticator :=
  match t.id drawn with
  | .error fault => .error (.failed .cookie .creation (.generator fault))
  | .ok id =>
    match now.add? t.settings.expiry with
    | none => .error (.failed .cookie .creation (.expiry t.settings.expiry))
    | some expires => .ok {
        id, login, lastUsed := now, expires, idle := t.settings.idle
        details := ⟨t.settings.maxAge,
          if t.settings.fingerprinting then some (t.fingerprint request) else none⟩ }

/-- Whether a record admits a request at an instant. -/
def admits (request : Request) (now : Instant) (a : CookieAuthenticator) : Bool :=
  (!t.settings.fingerprinting || a.details.fingerprint == some (t.fingerprint request)) &&
    a.isValid now

/-- Requests that bring what the client holds in the carrier's cookie, which has no part in their
fingerprint. -/
structure Carries (bring : Option String → Request) : Prop where
  cookie : ∀ held, (bring held).cookie? t.settings.cookie.name = held
  fingerprint : ∀ held, t.fingerprint (bring held) = t.fingerprint (bring none)

end Terms

/-- A turn of the reference. -/
def Reference.step (t : Terms) (turn : Turn) (r : Reference) :
    Except LifecycleError (Option CookieAuthenticator) × Reference :=
  let request := turn.bring none
  match turn.move with
  | .login login =>
    match t.create r.drawn login request turn.time with
    | .error error => (.error error, { r with drawn := r.drawn + 1 })
    | .ok a => (.ok (some a), ⟨r.drawn + 1, some a⟩)
  | .request wish =>
    match r.session.filter (t.admits request turn.time) with
    | none => (.ok none, r)
    | some a =>
      match wish with
      | .stay => (.ok (some a), { r with session := some (a.touch turn.later).value })
      | .renew =>
        match t.create r.drawn a.login request turn.later with
        | .error error => (.error (.within .cookie .renewal error), { r with drawn := r.drawn + 1 })
        | .ok fresh => (.ok (some a), ⟨r.drawn + 1, some fresh⟩)
      | .leave => (.ok (some a), { r with session := none })

/-- What is seen of a script of the reference. -/
def Reference.steps (t : Terms) : List Turn → Reference → List (Seen CookieDetails)
  | [], _ => []
  | turn :: rest, r =>
    ⟨(r.step t turn).1, (r.step t turn).2.session.isSome⟩ :: steps t rest (r.step t turn).2

/-! ## Whole seconds -/

/-- Settings with all times in whole seconds. -/
structure CookieSettings.Whole (settings : CookieSettings) : Prop where
  expiry : 1000000000 ∣ settings.expiry.nanoseconds
  idle : ∀ timeout, settings.idle = some timeout → 1000000000 ∣ timeout.nanoseconds
  maxAge : ∀ age, settings.maxAge = some age → 1000000000 ∣ age.nanoseconds

/-- A turn at times in whole seconds. -/
structure Turn.Whole (turn : Turn) : Prop where
  time : 1000000000 ∣ turn.time.nanoseconds
  later : 1000000000 ∣ turn.later.nanoseconds

namespace Terms

variable {t : Terms} {keeping : CookieKeeping}
  {bytes : Nat → (count : Nat) → Vector UInt8 count} {w : World CookieDetails}
  {held : Option String} {r : Reference} {turn : Turn} {a : CookieAuthenticator}

/-- A new record in whole seconds comes out of a cookie as it is. -/
theorem fromCookie_of_create {login : Login} {request : Request} {now : Instant} {drawn : Nat}
    (hSettings : t.settings.Whole) (hNow : 1000000000 ∣ now.nanoseconds)
    (hCreate : t.create drawn login request now = .ok a) : a.fromCookie = a := by
  unfold create at hCreate
  split at hCreate
  · cases hCreate
  split at hCreate
  · cases hCreate
  next id hId expires hExpires =>
    obtain rfl := Except.ok.inj hCreate
    have hEnd : 1000000000 ∣ expires.nanoseconds := by
      rw [Instant.nanoseconds_of_add? hExpires]
      exact Int.dvd_add hNow hSettings.expiry
    simp only [Authenticator.fromCookie, Authenticator.rounded, Instant.floor_of_dvd hNow,
      Instant.floor_of_dvd hEnd, Duration.map_cut_of_dvd hSettings.idle,
      Duration.map_cut_of_dvd hSettings.maxAge]

theorem fromCookie_usedAt (hWhole : a.fromCookie = a) {now : Instant}
    (hNow : 1000000000 ∣ now.nanoseconds) : (a.usedAt now).fromCookie = a.usedAt now := by
  have hUsed : (a.usedAt now).fromCookie = a.fromCookie.usedAt now.floor := rfl
  rw [hUsed, hWhole, Instant.floor_of_dvd hNow]

theorem seen_of_fromCookie (hWhole : a.fromCookie = a) :
    (t.service keeping).seen a a.lastUsed = a := by
  cases keeping with
  | storeBacked => rfl
  | selfContained codec => exact hWhole

/-! ## A service and the reference -/

/-- What a client of a service holds for the session of the reference. -/
def Holds (t : Terms) (keeping : CookieKeeping) (store : Store CookieDetails)
    (held : Option String) : Option CookieAuthenticator → Prop
  | none => held = none
  | some a => a.fromCookie = a ∧
      ∃ raw, held = some raw ∧ (t.service keeping).Keeps a a.lastUsed store raw

/-- The state of a service and its client that stands for one of the reference. -/
structure Represents (t : Terms) (keeping : CookieKeeping) (w : World CookieDetails)
    (held : Option String) (r : Reference) : Prop where
  drawn : w.drawn = r.drawn
  holds : t.Holds keeping w.store held r.session

theorem isSome_of_holds {store : Store CookieDetails} {session : Option CookieAuthenticator}
    (hHolds : t.Holds keeping store held session) : held.isSome = session.isSome := by
  cases session with
  | none => exact congrArg Option.isSome (show held = none from hHolds)
  | some a =>
    obtain ⟨-, raw, rfl, -⟩ := hHolds
    rfl

theorem run_create (t : Terms) (keeping : CookieKeeping)
    (bytes : Nat → (count : Nat) → Vector UInt8 count) (login : Login) (request : Request)
    (w : World CookieDetails) :
    (t.host bytes).run ((t.service keeping).carrier.create login request) w =
      (t.create w.drawn login request w.clock, { w with drawn := w.drawn + 1 }) := by
  have hId : (t.host bytes).answer (.freshId Carrier.generator) w =
      (t.id w.drawn, { w with drawn := w.drawn + 1 }) := rfl
  unfold Carrier.create create
  simp only [Program.bind_eq, Host.run_bind, Host.run_query _ (.freshId Carrier.generator), hId]
  cases t.id w.drawn with
  | error fault => rfl
  | ok id =>
    simp only [Host.run_bind, Host.run_query _ .now, Host.now_answer]
    change (t.host bytes).run (match w.clock.add? t.settings.expiry with
      | none => _
      | some expires => _) _ = _
    cases w.clock.add? t.settings.expiry with
    | none => rfl
    | some expires => rfl

theorem drawless_retrieve (t : Terms) (keeping : CookieKeeping) (request : Request) :
    ((t.service keeping).carrier.retrieve request).Drawless := by
  cases hLocate : (t.service keeping).carrier.locate request with
  | none =>
    rw [Carrier.retrieve_of_none _ hLocate]
    exact Program.drawless_done _
  | some raw =>
    rw [Carrier.retrieve_eq _ hLocate]
    exact Program.Drawless.bind (keeping.drawless_decode raw) fun decoded =>
      Carrier.always_judge _ (R := fun q => q.draws = false) rfl (fun _ => rfl) request decoded

theorem drawless_issue (t : Terms) (keeping : CookieKeeping) (a : CookieAuthenticator) :
    ((t.service keeping).carrier.issue a).Drawless := by
  refine Program.Drawless.bind (keeping.drawless_encode a) fun issued => ?_
  cases issued with
  | error cause => exact Program.drawless_done _
  | ok raw =>
    exact Program.Drawless.bind (Program.drawless_query rfl) fun _ => Program.drawless_done _

theorem drawless_refresh (t : Terms) (keeping : CookieKeeping) (response : Response)
    (a : CookieAuthenticator) : ((t.service keeping).refresh response a).Drawless := by
  refine Program.Drawless.bind
    (Program.Drawless.bind (Program.drawless_query rfl) fun _ => Program.drawless_done _)
    fun touched => ?_
  cases touched with
  | unchanged a => exact Program.drawless_done _
  | changed a =>
    refine Program.Drawless.bind (keeping.drawless_write a) fun written => ?_
    cases written with
    | error cause => exact Program.drawless_done _
    | ok given =>
      cases given with
      | none => exact Program.drawless_done _
      | some raw => exact Program.drawless_done _

theorem drawless_discard (t : Terms) (keeping : CookieKeeping) (response : Response)
    (a : CookieAuthenticator) :
    ((t.service keeping).carrier.discard a response).Drawless := by
  refine Program.Drawless.bind (keeping.drawless_revoke a.id) fun revoked => ?_
  cases revoked with
  | error cause => exact Program.drawless_done _
  | ok _ => exact Program.Drawless.bind (Program.drawless_query rfl) fun _ => Program.drawless_done _

theorem drawless_install (t : Terms) (keeping : CookieKeeping) (old fresh : CookieAuthenticator) :
    ((t.service keeping).carrier.install old fresh).Drawless := by
  have hStart : ((t.service keeping).carrier.start
      ((t.service keeping).carrier.successor old fresh)).Drawless := by
    refine Program.Drawless.bind (t.drawless_issue keeping _) fun issued => ?_
    cases issued with
    | error cause => exact Program.drawless_done _
    | ok raw => exact Program.drawless_done _
  refine Program.Drawless.bind hStart fun started => ?_
  cases started with
  | error error => exact Program.drawless_done _
  | ok value =>
    exact Program.Drawless.bind (Program.drawless_query rfl) fun _ => Program.drawless_done _

/-! ## One turn -/

variable (bytes) in
theorem retrieve_refines (hCarries : t.Carries turn.bring)
    (hHolds : t.Holds keeping w.store held r.session) :
    ((t.host bytes).run ((t.service keeping).carrier.retrieve (turn.bring held)) w).1 =
      .ok (r.session.filter (t.admits (turn.bring none) w.clock)) := by
  have hLocate : (t.service keeping).carrier.locate (turn.bring held) = held := hCarries.cookie held
  cases hSession : r.session with
  | none =>
    rw [hSession] at hHolds
    rw [show held = none from hHolds] at hLocate ⊢
    rw [Carrier.retrieve_of_none _ hLocate]
    rfl
  | some a =>
    rw [hSession] at hHolds
    obtain ⟨hWhole, raw, rfl, hKeeps⟩ := hHolds
    have hAdmits : t.admits (turn.bring none) w.clock a =
        ((t.service keeping).carrier.belongs (turn.bring (some raw)) a && a.isValid w.clock) := by
      rw [admits, ← hCarries.fingerprint (some raw)]
      rfl
    rw [Service.retrieve_kept (fun _ => World.reliable_host t.id bytes) hKeeps hLocate
      fun hNot => absurd trivial hNot, Service.admitted?, seen_of_fromCookie hWhole,
      Option.filter_some, hAdmits]
    rfl

/-- Where a service and its client have come to in a turn, next to the reference: all have failed to
make an authenticator, or they agree. -/
def Refines (t : Terms) (keeping : CookieKeeping) (held : Option String)
    (done : Except LifecycleError (Option CookieAuthenticator × Response) × World CookieDetails)
    (expected : Except LifecycleError (Option CookieAuthenticator) × Reference) : Prop :=
  (∃ error, error.ofCreation = true ∧ done.1 = .error error ∧ expected.1 = .error error) ∨
    ∃ found sent, done.1 = .ok (found, sent) ∧ expected.1 = .ok found ∧
      t.Represents keeping done.2 ((t.service keeping).holding sent held) expected.2

theorem ofCreation_of_create {login : Login} {request : Request} {now : Instant} {drawn : Nat}
    {error : LifecycleError} (hCreate : t.create drawn login request now = .error error) :
    error.ofCreation = true := by
  unfold create at hCreate
  split at hCreate
  · cases hCreate
    rfl
  split at hCreate
  · cases hCreate
    rfl
  · cases hCreate

theorem create_bring (hCarries : t.Carries turn.bring) (drawn : Nat) (login : Login)
    (held : Option String) (now : Instant) :
    t.create drawn login (turn.bring held) now = t.create drawn login (turn.bring none) now := by
  unfold create
  rw [hCarries.fingerprint held]

theorem drawn_logIn (t : Terms) (keeping : CookieKeeping)
    (bytes : Nat → (count : Nat) → Vector UInt8 count) (login : Login) (request : Request)
    (response : Response) (w : World CookieDetails) :
    ((t.host bytes).run ((t.service keeping).logIn login request response) w).2.drawn =
      w.drawn + 1 := by
  rw [Service.run_logIn, run_create]
  cases t.create w.drawn login request w.clock with
  | error error => rfl
  | ok a =>
    have hIssue := World.drawn_run t.id bytes (t.drawless_issue keeping a)
      { w with drawn := w.drawn + 1 }
    simp only
    cases ((t.host bytes).run ((t.service keeping).carrier.issue a)
        { w with drawn := w.drawn + 1 }).1 with
    | error cause => exact hIssue
    | ok raw => exact hIssue

theorem drawn_renew (t : Terms) (keeping : CookieKeeping)
    (bytes : Nat → (count : Nat) → Vector UInt8 count) (a : CookieAuthenticator)
    (request : Request) (response : Response) (w : World CookieDetails) :
    ((t.host bytes).run ((t.service keeping).carrier.renew a request response) w).2.drawn =
      w.drawn + 1 := by
  have hRevoke := Service.revoke_reliable (S := t.service keeping)
    (fun _ => World.reliable_host t.id bytes) a.id w
  have hDrawn := World.drawn_run t.id bytes (keeping.drawless_revoke a.id) w
  rw [(Carrier.run_renew _ _ a request response w).2, Carrier.renewValue_eq, Host.run_bind, hRevoke]
  simp only
  rw [Carrier.replace_eq, Host.run_bind, run_create]
  cases t.create ((t.host bytes).run ((t.service keeping).carrier.revoke a.id) w).2.drawn a.login
      request ((t.host bytes).run ((t.service keeping).carrier.revoke a.id) w).2.clock with
  | error error => exact congrArg (· + 1) hDrawn
  | ok fresh =>
    exact (World.drawn_run t.id bytes (t.drawless_install keeping a fresh) _).trans
      (congrArg (· + 1) hDrawn)

variable (t keeping bytes held a)

theorem login_refines {login : Login} (hSettings : t.settings.Whole)
    (hTime : 1000000000 ∣ w.clock.nanoseconds) (hCarries : t.Carries turn.bring)
    (hDrawn : w.drawn = r.drawn) :
    let made := (t.host bytes).run ((t.service keeping).logIn login (turn.bring held) {}) w
    t.Refines keeping held (made.1.map fun a => (some a.1, a.2), made.2)
      (match t.create r.drawn login (turn.bring none) w.clock with
      | .error error => (.error error, { r with drawn := r.drawn + 1 })
      | .ok a => (.ok (some a), ⟨r.drawn + 1, some a⟩)) := by
  intro made
  have hCreate := t.run_create keeping bytes login (turn.bring held) w
  rw [create_bring hCarries, hDrawn] at hCreate
  cases hMade : t.create r.drawn login (turn.bring none) w.clock with
  | error error =>
    refine .inl ⟨error, ofCreation_of_create hMade, ?_, rfl⟩
    have hError : made.1 = .error error := by
      simp only [made, Service.run_logIn, hCreate, hMade]
    simp only [hError, Except.map]
  | ok a =>
    rw [hMade] at hCreate
    obtain ⟨sent, raw, hResult, hHolding, hKeeps⟩ :=
      Service.logIn_kept (fun _ => World.reliable_host t.id bytes) (congrArg Prod.fst hCreate)
        trivial {}
    refine .inr ⟨some a, sent, ?_, rfl, ?_, fromCookie_of_create hSettings hTime hMade, raw,
      hHolding held, hKeeps⟩
    · simp only [made, hResult, Except.map]
    · exact (t.drawn_logIn keeping bytes login (turn.bring held) {} w).trans
        (congrArg (· + 1) hDrawn)

variable {held a} in
theorem stay_refines (hTime : 1000000000 ∣ w.clock.nanoseconds)
    (hRepresents : t.Represents keeping w held r) (hSession : r.session = some a)
    (request : Request) :
    let done := (t.host bytes).run ((t.service keeping).grant request a .stay) w
    t.Refines keeping held (done.1.map fun sent => (some a, sent), done.2)
      (.ok (some a), { r with session := some (a.touch w.clock).value }) := by
  intro done
  obtain ⟨hDrawn, hHolds⟩ := hRepresents
  rw [hSession] at hHolds
  obtain ⟨hWhole, raw, rfl, hKeeps⟩ := hHolds
  obtain ⟨changed, raw', hResult, hHolding, hAfter⟩ :=
    Service.refresh_kept (fun _ => World.reliable_host t.id bytes) hKeeps
      (t.service keeping).blank_empty
  rw [seen_of_fromCookie hWhole] at hResult hAfter
  refine .inr ⟨some a, changed, ?_, rfl, ?_, ?_, raw', hHolding, ?_⟩
  · have hDone : done.1 = .ok changed := hResult
    rw [hDone]
    rfl
  · exact (World.drawn_run t.id bytes (t.drawless_refresh keeping {} a) w).trans hDrawn
  · rw [Authenticator.touch_value]
    split
    · exact fromCookie_usedAt hWhole hTime
    · exact hWhole
  · rw [Authenticator.touch_value]
    exact hAfter.usedAt

theorem renew_refines (hSettings : t.settings.Whole) (hTime : 1000000000 ∣ w.clock.nanoseconds)
    (hCarries : t.Carries turn.bring) (hDrawn : w.drawn = r.drawn) :
    let done := (t.host bytes).run ((t.service keeping).grant (turn.bring held) a .renew) w
    t.Refines keeping held (done.1.map fun sent => (some a, sent), done.2)
      (match t.create r.drawn a.login (turn.bring none) w.clock with
      | .error error => (.error (.within .cookie .renewal error), { r with drawn := r.drawn + 1 })
      | .ok fresh => (.ok (some a), ⟨r.drawn + 1, some fresh⟩)) := by
  intro done
  have hRevoked : ((t.host bytes).run ((t.service keeping).carrier.revoke a.id) w).2.drawn =
      r.drawn :=
    (World.drawn_run t.id bytes (keeping.drawless_revoke a.id) w).trans hDrawn
  have hClock := (t.host bytes).clock_run ((t.service keeping).carrier.revoke a.id) w
  have hCreate := t.run_create keeping bytes a.login (turn.bring held)
    ((t.host bytes).run ((t.service keeping).carrier.revoke a.id) w).2
  change World.clock _ = w.clock at hClock
  rw [create_bring hCarries, hRevoked, hClock] at hCreate
  obtain ⟨hFailed, hRenewed⟩ := Service.renew_plain (S := t.service keeping)
    (fun _ => World.reliable_host t.id bytes) (a := a) trivial (turn.bring held) {} w
  cases hMade : t.create r.drawn a.login (turn.bring none) w.clock with
  | error error =>
    have hDone : done.1 = .error (.within .cookie .renewal error) :=
      hFailed error (by rw [hCreate, hMade])
    have hCause : error.ofCreation = true := ofCreation_of_create hMade
    exact .inl ⟨.within .cookie .renewal error, hCause, by rw [hDone]; rfl, rfl⟩
  | ok fresh =>
    obtain ⟨changed, raw, hResult, hHolding, hKeeps⟩ :=
      hRenewed fresh (by rw [hCreate, hMade]) trivial
    have hDone : done.1 = .ok changed := hResult
    refine .inr ⟨some a, changed, by rw [hDone]; rfl, rfl, ?_,
      fromCookie_of_create hSettings hTime hMade, raw, hHolding held, hKeeps⟩
    exact (t.drawn_renew keeping bytes a (turn.bring held) {} w).trans (congrArg (· + 1) hDrawn)

theorem leave_refines (hDrawn : w.drawn = r.drawn) (request : Request) :
    let done := (t.host bytes).run ((t.service keeping).grant request a .leave) w
    t.Refines keeping held (done.1.map fun sent => (some a, sent), done.2)
      (.ok (some a), { r with session := none }) := by
  intro done
  have hRevoke := Service.revoke_reliable (S := t.service keeping)
    (fun _ => World.reliable_host t.id bytes) a.id w
  have hDone : done.1 = .ok ((t.service keeping).carrier.clear {}) := by
    rw [show done.1 = _ from (Carrier.run_discard _ _ a {} w).1, hRevoke]
  refine .inr ⟨some a, (t.service keeping).carrier.clear {}, by rw [hDone]; rfl, rfl, ?_, ?_⟩
  · exact (World.drawn_run t.id bytes (t.drawless_discard keeping {} a) w).trans hDrawn
  · have hCookie : ((t.service keeping).carrier.clear {}).cookie? t.settings.cookie.name =
        some t.settings.cookie.removal.removal := Response.cookie?_setCookie {} _
    change (t.service keeping).holding _ held = none
    simp only [Service.holding, hCookie]
    exact if_pos rfl

variable {t keeping held a}

theorem perform_refines (hSettings : t.settings.Whole) (hTurn : turn.Whole)
    (hCarries : t.Carries turn.bring) (hRepresents : t.Represents keeping w held r) :
    t.Refines keeping held ((t.service keeping).perform (t.host bytes) turn held w)
      (r.step t turn) := by
  obtain ⟨move, time, later, bring⟩ := turn
  obtain ⟨hDrawn, hHolds⟩ := hRepresents
  -- the clock is set before an authenticator is looked for, and again before it is used
  let w₁ : World CookieDetails := { w with clock := time }
  cases move with
  | login login =>
    exact t.login_refines keeping bytes held (w := w₁) hSettings hTurn.time hCarries hDrawn
  | request wish =>
    have hFound := retrieve_refines bytes (w := w₁) hCarries hHolds
    have hStore := (t.service keeping).store_retrieve (t.host bytes) (bring held) w₁
    have hSame := World.drawn_run t.id bytes (t.drawless_retrieve keeping (bring held)) w₁
    simp only [Service.perform, Reference.step]
    generalize (t.host bytes).run ((t.service keeping).carrier.retrieve (bring held)) w₁ = looked
      at hFound hStore hSame
    obtain ⟨result, w₂⟩ := looked
    obtain rfl : result = _ := hFound
    have hDrawn₂ : w₂.drawn = r.drawn := hSame.trans hDrawn
    have hHolds₂ : t.Holds keeping w₂.store held r.session := by
      rw [show w₂.store = w.store from hStore]
      exact hHolds
    dsimp only [w₁]
    cases hFilter : r.session.filter (t.admits (bring none) time) with
    | none =>
      refine .inr ⟨none, {}, rfl, rfl, hDrawn₂, ?_⟩
      rw [(t.service keeping).blank_empty held]
      exact hHolds₂
    | some a =>
      obtain ⟨hSession, -⟩ := Option.filter_eq_some_iff.mp hFilter
      let w₃ : World CookieDetails := { w₂ with clock := later }
      cases wish with
      | stay =>
        have hStay := t.stay_refines keeping bytes (w := w₃) hTurn.later ⟨hDrawn₂, hHolds₂⟩ hSession
          (bring held)
        exact hStay
      | renew =>
        have hRenew := t.renew_refines keeping bytes held a (w := w₃) hSettings hTurn.later hCarries
          hDrawn₂
        exact hRenew
      | leave =>
        have hLeave := t.leave_refines keeping bytes held a (w := w₃) hDrawn₂ (bring held)
        exact hLeave

/-- Any request brings what the client holds, if fingerprints are taken of metadata. -/
theorem carries_bringing (hMetadata : ReadsMetadata t.fingerprint) (r : Request) :
    t.Carries (r.bringing t.settings.cookie.name) := by
  refine ⟨r.cookie?_bringing t.settings.cookie.name, fun held => ?_⟩
  · cases held with
    | none => rfl
    | some value => exact hMetadata _ _ rfl rfl rfl

/-! ## Scripts -/

/-- A script of a service and its client is one of the reference, if no turn fails to make an
authenticator, be it seen on either side; and then nothing else fails. -/
theorem play_eq_steps (hSettings : t.settings.Whole) (turns : List Turn)
    (hTurns : ∀ turn ∈ turns, turn.Whole ∧ t.Carries turn.bring)
    (hRepresents : t.Represents keeping w held r)
    (hMade : (∀ seen ∈ (t.service keeping).play (t.host bytes) turns held w, ¬seen.Failed) ∨
      ∀ seen ∈ Reference.steps t turns r, ¬seen.Failed) :
    (t.service keeping).play (t.host bytes) turns held w = Reference.steps t turns r ∧
      ∀ seen ∈ Reference.steps t turns r, ∃ found, seen.found = .ok found := by
  induction turns generalizing held w r with
  | nil => exact ⟨rfl, fun seen hSeen => by cases hSeen⟩
  | cons turn rest ih =>
    obtain ⟨hTurn, hCarries⟩ := hTurns turn List.mem_cons_self
    simp only [Service.play, Reference.steps] at hMade ⊢
    rcases perform_refines bytes hSettings hTurn hCarries hRepresents with
      ⟨error, hCause, hDone, hExpected⟩ | ⟨found, sent, hDone, hExpected, hAfter⟩
    · -- both sides see a turn in which no authenticator is made
      exfalso
      generalize (t.service keeping).perform (t.host bytes) turn held w = done at hDone hMade
      obtain ⟨result, w'⟩ := done
      obtain rfl : result = _ := hDone
      rcases hMade with hMade | hMade
      · exact hMade _ List.mem_cons_self ⟨error, rfl, hCause⟩
      · exact hMade _ List.mem_cons_self ⟨error, hExpected, hCause⟩
    · generalize (t.service keeping).perform (t.host bytes) turn held w = done at hDone hMade hAfter ⊢
      obtain ⟨result, w'⟩ := done
      obtain rfl : result = _ := hDone
      obtain ⟨hRest, hFine⟩ := ih (fun other hOther => hTurns other (List.mem_cons_of_mem _ hOther))
        hAfter (hMade.imp (fun h seen hSeen => h seen (List.mem_cons_of_mem _ hSeen))
          fun h seen hSeen => h seen (List.mem_cons_of_mem _ hSeen))
      refine ⟨?_, fun seen hSeen => ?_⟩
      · simp only [hRest, hExpected, isSome_of_holds hAfter.holds]
      · rcases List.mem_cons.mp hSeen with rfl | hLater
        · exact ⟨found, hExpected⟩
        · exact hFine seen hLater

end Terms

/-- Two cookie services with the same settings, fingerprints and identifiers, one with an empty store
and one with signed cookies, show the same to every script in whole seconds in which no
authenticator fails to be made: each turn makes or finds the same authenticator or none, and after
it either both clients hold the carrier's cookie or neither does. Nothing fails. Whether identifiers
repeat, whether the clock goes back and what the random bytes are has no part in it. -/
theorem keepings_agree (t : Terms) (codec : SignedCodec)
    (bytes bytes' : Nat → (count : Nat) → Vector UInt8 count) (turns : List Turn)
    (hSettings : t.settings.Whole) (hTurns : ∀ turn ∈ turns, turn.Whole ∧ t.Carries turn.bring)
    (hMade : ∀ seen ∈ (t.service .storeBacked).play (t.host bytes) turns none {}, ¬seen.Failed) :
    (t.service (.selfContained codec)).play (t.host bytes') turns none {} =
        (t.service .storeBacked).play (t.host bytes) turns none {} ∧
      ∀ seen ∈ (t.service .storeBacked).play (t.host bytes) turns none {},
        ∃ found, seen.found = .ok found := by
  have hStart (keeping : CookieKeeping) : t.Represents keeping {} none {} := ⟨rfl, rfl⟩
  obtain ⟨hStored, hFine⟩ :=
    Terms.play_eq_steps bytes hSettings turns hTurns (hStart .storeBacked) (.inl hMade)
  obtain ⟨hSigned, -⟩ := Terms.play_eq_steps bytes' hSettings turns hTurns
    (hStart (.selfContained codec)) (.inr fun seen hSeen => hMade seen (hStored ▸ hSeen))
  exact ⟨hSigned.trans hStored.symm, hStored ▸ hFine⟩

/-- A client that logs in, comes back after ten seconds, comes back from elsewhere, renews its login,
ends it, and comes back once more. -/
theorem keepings_agree_from_login_to_logout :
    let t : Terms := ⟨{ idle := some ⟨60000000000, by decide, by decide⟩ }, Request.target,
      fun n => .ok (String.ofList (List.replicate n 'i'))⟩
    let turn (seconds : Fin 100) (move : Move) (target : String) : Turn :=
      ⟨move, ⟨seconds.val * 1000000000, by omega, by omega⟩,
        ⟨seconds.val * 1000000000, by omega, by omega⟩,
        ({ target } : Request).bringing t.settings.cookie.name⟩
    let turns := [turn 0 (.login ⟨"provider", "key"⟩) "/", turn 10 (.request .stay) "/",
      turn 20 (.request .stay) "/elsewhere", turn 30 (.request .renew) "/",
      turn 40 (.request .leave) "/", turn 50 (.request .stay) "/"]
    ((t.service (.selfContained Service.sampleCodec)).play
        (t.host fun _ count => Vector.replicate count 7) turns none {}).map (fun seen =>
      (seen.found.toOption.join.isSome, seen.holds)) =
      [(true, true), (true, true), (false, true), (true, true), (true, false), (false, false)] := by
  intro t turn turns
  let stored : List (Seen CookieDetails) := (t.service .storeBacked).play
    (t.host fun _ count => Vector.replicate count 0) turns none {}
  have hStored : stored.map (fun seen => (seen.found.toOption.join.isSome, seen.holds)) =
      [(true, true), (true, true), (false, true), (true, true), (true, false), (false, false)] := rfl
  have hFine : stored.all (fun seen => seen.found.toOption.isSome) = true := rfl
  have hMetadata : ReadsMetadata t.fingerprint := fun r r' _ hTarget _ => hTarget
  have hTurns : ∀ turn ∈ turns, turn.Whole ∧ t.Carries turn.bring := by
    intro other hOther
    simp only [turns, List.mem_cons, List.not_mem_nil, or_false] at hOther
    rcases hOther with rfl | rfl | rfl | rfl | rfl | rfl <;>
      exact ⟨⟨Int.dvd_mul_left _ _, Int.dvd_mul_left _ _⟩, Terms.carries_bringing hMetadata _⟩
  have hMade : ∀ seen ∈ stored, ¬seen.Failed := by
    rintro seen hSeen ⟨error, hError, -⟩
    have hSome := List.all_eq_true.mp hFine seen hSeen
    rw [hError] at hSome
    cases hSome
  have hSettings : t.settings.Whole := by
    refine ⟨⟨12 * 3600, rfl⟩, fun timeout hTimeout => ?_, fun age hAge => by cases hAge⟩
    obtain rfl := Option.some.inj hTimeout
    exact ⟨60, rfl⟩
  rw [(keepings_agree t Service.sampleCodec _ _ turns hSettings hTurns hMade).1]
  exact hStored

end WebLogin
