import WebLogin.Proofs.Lifecycle.Client

/-!
# The idle window

With an idle timeout, each visit in which a session is found starts its idle window anew, and no
other visit does. So over any sequence of visits a session lives exactly until it has been left alone
for longer than the timeout, or until its expiry. Without a store both are counted in whole seconds,
and what is cut off does not add up, however often the session is written back.

* `Within`, `within_anti`: the window, which once closed does not open again.
* `keeping_visit`, `keeping_visits`: what the client holds after one visit more, and after any
  sequence of visits.
* `idle_window_slides`: the statement for every visit after every sequence of visits.
-/

namespace WebLogin.Service

variable {δ ν σ : Type}

/-! ## The window -/

/-- An instant within the expiry and, from a time of last use, within the idle timeout, counted as a
service counts. -/
def Within (S : Service δ ν) (ends : Instant) (timeout : Duration) (used now : Instant) : Prop :=
  now < S.keptTime ends ∧ now.since (S.keptTime used) ≤ timeout.nanoseconds

theorem within_anti {S : Service δ ν} {ends : Instant} {timeout : Duration}
    {used earlier now : Instant} (hLe : earlier ≤ now) (hWithin : S.Within ends timeout used now) :
    S.Within ends timeout used earlier := by
  obtain ⟨hAhead, hFresh⟩ := hWithin
  have hNanoseconds : earlier.nanoseconds ≤ now.nanoseconds := hLe
  refine ⟨Int.lt_of_le_of_lt hLe hAhead, ?_⟩
  unfold Instant.since at hFresh ⊢
  omega

/-- With the fingerprint of the login, a request is one of the client that logged in. -/
theorem belongs_seen {S : Service δ ν} {home request : Request} {m : Authenticator δ}
    (hNew : S.IsNew home m) (hSame : S.carrier.imprint request = S.carrier.imprint home)
    (used : Instant) : S.carrier.belongs request (S.seen m used) = true := by
  cases S with
  | cookie settings keeping fingerprint =>
    have hSeen : ((cookie settings keeping fingerprint).seen m used).details.fingerprint =
        m.details.fingerprint := by
      cases keeping <;> rfl
    have hDetails : m.details.fingerprint =
        if settings.fingerprinting then some (fingerprint request) else none :=
      congrArg CookieDetails.fingerprint (hNew.details.trans hSame.symm)
    simp only [carrier, cookieCarrier, hSeen, hDetails]
    cases settings.fingerprinting <;> simp
  | session settings codec fingerprint =>
    have hSeen : ((session settings codec fingerprint).seen m used).details.fingerprint =
        m.details.fingerprint := rfl
    have hDetails : m.details.fingerprint =
        if settings.fingerprinting then some (fingerprint request) else none :=
      congrArg SessionDetails.fingerprint (hNew.details.trans hSame.symm)
    simp only [carrier, sessionCarrier, hSeen, hDetails]
    cases settings.fingerprinting <;> simp
  | bearer settings => rfl
  | jwt settings codec stored => rfl

/-- A session is valid within its window. The timeout is in whole seconds, so that nothing of it is
cut off. -/
theorem isValid_seen_iff {S : Service δ ν} {home : Request} {m : Authenticator δ}
    (hNew : S.IsNew home m) {timeout : Duration} (hIdle : S.carrier.idle = some timeout)
    (hWhole : 1000000000 ∣ timeout.nanoseconds) (used now : Instant) :
    (S.seen m used).isValid now = true ↔ S.Within m.expires timeout used now := by
  have hOwn : m.idle = some timeout := hNew.idle.trans hIdle
  have hKept : (S.seen m used).idle = some timeout := by
    rw [seen, Authenticator.idle_usedAt]
    rcases S.idle_kept m with hSame | hCut
    · exact hSame.trans hOwn
    · rw [hCut, hOwn, Option.map_some, Duration.cut_of_dvd hWhole]
  have hExpires : (S.seen m used).expires = S.keptTime m.expires := S.expires_kept m
  rw [Authenticator.isValid_iff, hExpires, hKept]
  constructor
  · rintro ⟨hAhead, hFresh⟩
    exact ⟨hAhead, hFresh timeout rfl⟩
  · rintro ⟨hAhead, hFresh⟩
    refine ⟨hAhead, fun other hOther => ?_⟩
    obtain rfl := Option.some.inj hOther
    exact hFresh

/-! ## Sequences of visits -/

/-- The instants of visits and what was found, in order. -/
abbrev Log (δ : Type) := List (Instant × Option (Authenticator δ))

/-- The instant of the last visit in which something was found, or of the login. -/
def lastUse (start : Instant) (log : Log δ) : Instant :=
  log.foldl (fun used visit => if visit.2.isSome then visit.1 else used) start

theorem lastUse_append (start : Instant) (log : Log δ) (now : Instant)
    (found : Option (Authenticator δ)) :
    lastUse start (log ++ [(now, found)]) = if found.isSome then now else lastUse start log := by
  simp [lastUse]

/-- A client with the fingerprint of its login comes back, later or at the same instant, and brings
the wire value that it holds. In between nothing was done to the store. -/
structure Returns (S : Service δ ν) (h : Host δ σ) (home : Request) (s : σ) (held : Option String)
    (s' : σ) (request : Request) (response : Response) : Prop where
  later : h.clock s ≤ h.clock s'
  store : h.store s' = h.store s
  brings : S.carrier.locate request = held
  same : S.carrier.imprint request = S.carrier.imprint home
  blank : S.Blank response

/-- Any sequence of visits of a client, from a state and the wire value that it holds there. -/
inductive Visits (S : Service δ ν) (h : Host δ σ) (home : Request) (start : σ)
    (first : Option String) : Log δ → σ → Option String → Prop where
  | nil : Visits S h home start first [] start first
  | snoc {log : Log δ} {s s' : σ} {held : Option String} {request : Request}
      {response changed : Response} {found : Option (Authenticator δ)}
      (hVisits : Visits S h home start first log s held)
      (hReturns : S.Returns h home s held s' request response)
      (hRun : (h.run (S.visit request response) s').1 = .ok (found, changed)) :
      Visits S h home start first (log ++ [(h.clock s', found)])
        (h.run (S.visit request response) s').2 (S.holding changed held)

variable {S : Service δ ν} {h : Host δ σ} {home request : Request} {m : Authenticator δ}
  {start s s' : σ} {first held : Option String} {log : Log δ} {timeout : Duration}
  {response : Response} {login : Login}

/-- What is known of a client after its visits: it holds a value of the session as it was last used,
and if a visit found nothing then the window was closed and has stayed closed. -/
structure Keeping (S : Service δ ν) (h : Host δ σ) (m : Authenticator δ) (timeout : Duration)
    (log : Log δ) (s : σ) (held : Option String) : Prop where
  later : m.lastUsed ≤ h.clock s
  keeps : ∃ raw, held = some raw ∧ S.Keeps m (lastUse m.lastUsed log) (h.store s) raw
  closed : (∀ visit ∈ log, visit.2.isSome = true) ∨
    ¬S.Within m.expires timeout (lastUse m.lastUsed log) (h.clock s)

theorem keeping_visit (hReliable : S.isStored = true → h.Reliable) (hNew : S.IsNew home m)
    (hEpoch : 0 ≤ m.lastUsed.nanoseconds) (hIdle : S.carrier.idle = some timeout)
    (hWhole : 1000000000 ∣ timeout.nanoseconds) (hKeeping : S.Keeping h m timeout log s held)
    (hReturns : S.Returns h home s held s' request response) :
    ∃ found changed, (h.run (S.visit request response) s').1 = .ok (found, changed) ∧
      (found.isSome = true ↔ (∀ visit ∈ log, visit.2.isSome = true) ∧
        S.Within m.expires timeout (lastUse m.lastUsed log) (h.clock s')) ∧
      (∀ a, found = some a → a = S.seen m (lastUse m.lastUsed log)) ∧
      S.Keeping h m timeout (log ++ [(h.clock s', found)])
        (h.run (S.visit request response) s').2 (S.holding changed held) := by
  obtain ⟨hLater, ⟨raw, rfl, hKeeps⟩, hClosed⟩ := hKeeping
  obtain ⟨hPast, hStore, hLocate, hSame, hBlank⟩ := hReturns
  have hLater' : m.lastUsed ≤ h.clock s' := Int.le_trans hLater hPast
  -- a token that cannot be read ended before 1970, and so before the login
  have hOver : ¬S.Legible m → m.expires ≤ h.clock s' := by
    intro hNot
    have hEnds := expires_of_not_legible hNot
    have hNow : m.lastUsed.nanoseconds ≤ (h.clock s').nanoseconds := hLater'
    change m.expires.nanoseconds ≤ (h.clock s').nanoseconds
    omega
  obtain ⟨changed, raw', hRun, hHolding, hAfter⟩ :=
    visit_kept hReliable (hStore.symm ▸ hKeeps) hLocate hOver hBlank
  have hClock := h.clock_run (S.visit request response) s'
  have hEntered : m.lastUsed ≤ h.clock (h.run (S.visit request response) s').2 := by
    rw [hClock]
    exact hLater'
  have hWindow := isValid_seen_iff hNew hIdle hWhole (lastUse m.lastUsed log) (h.clock s')
  have hTimed : m.idle.isSome = true := by
    rw [hNew.idle, hIdle]
    rfl
  have hOwn := belongs_seen hNew hSame (lastUse m.lastUsed log)
  rw [usedAfter, hTimed, Bool.and_true, ← lastUse_append] at hAfter
  by_cases hInside : S.Within m.expires timeout (lastUse m.lastUsed log) (h.clock s')
  · have hFound : S.admitted? m (lastUse m.lastUsed log) request (h.clock s') =
        some (S.seen m (lastUse m.lastUsed log)) := by
      rw [admitted?, hOwn, hWindow.mpr hInside]
      rfl
    -- the window is open now, so that it was open at every visit before
    have hAll : ∀ visit ∈ log, visit.2.isSome = true :=
      hClosed.resolve_right fun hOutside => hOutside (within_anti hPast hInside)
    rw [hFound] at hRun hAfter
    refine ⟨_, changed, hRun, ⟨fun _ => ⟨hAll, hInside⟩, fun _ => rfl⟩,
      fun a hSome => (Option.some.inj hSome).symm, hEntered, ⟨raw', hHolding, hAfter⟩,
      .inl fun visit hVisit => ?_⟩
    rcases List.mem_append.mp hVisit with hEarlier | hLast
    · exact hAll visit hEarlier
    · rw [List.mem_singleton.mp hLast]
      rfl
  · have hFound : S.admitted? m (lastUse m.lastUsed log) request (h.clock s') = none := by
      rw [admitted?, hOwn, Bool.eq_false_iff.mpr fun hValid => hInside (hWindow.mp hValid)]
      rfl
    rw [hFound] at hRun hAfter
    refine ⟨_, changed, hRun, ⟨fun hSome => (by cases hSome), fun hBoth => absurd hBoth.2 hInside⟩,
      fun a hSome => (by cases hSome), hEntered, ⟨raw', hHolding, hAfter⟩, .inr ?_⟩
    rw [lastUse_append, hClock]
    exact hInside

theorem keeping_visits (hReliable : S.isStored = true → h.Reliable) (hNew : S.IsNew home m)
    (hEpoch : 0 ≤ m.lastUsed.nanoseconds) (hIdle : S.carrier.idle = some timeout)
    (hWhole : 1000000000 ∣ timeout.nanoseconds) (hStart : S.Keeping h m timeout [] start first)
    (hVisits : S.Visits h home start first log s held) : S.Keeping h m timeout log s held := by
  induction hVisits with
  | nil => exact hStart
  | snoc _ hReturns hRun ih =>
    obtain ⟨found, changed, hResult, -, -, hKeeping⟩ :=
      keeping_visit hReliable hNew hEpoch hIdle hWhole ih hReturns
    obtain ⟨rfl, rfl⟩ := Prod.mk.inj (Except.ok.inj (hResult.symm.trans hRun))
    exact hKeeping

/-- A client logs in and then visits any number of times, each time with the wire value that it
holds. At every visit, the session is found exactly if it was found at all visits before and the
visit is within the expiry and within the idle timeout since the last use, with expiry and last use
in whole seconds where there is no store; and it was last used, so counted, at the last visit before.
Nothing fails on the way. -/
theorem idle_window_slides {sent reply : Response} {entered : σ}
    (hReliable : S.isStored = true → h.Reliable) (hIdle : S.carrier.idle = some timeout)
    (hWhole : 1000000000 ∣ timeout.nanoseconds) (hEpoch : 0 ≤ (h.clock start).nanoseconds)
    (hLogin : h.run (S.logIn login home response) start = (.ok (m, sent), entered))
    (hSendable : S.Sendable m)
    (hVisits : S.Visits h home entered (S.holding sent none) log s held)
    (hReturns : S.Returns h home s held s' request reply) :
    (h.clock start).add? S.carrier.expiry = some m.expires ∧
    ∃ found changed, (h.run (S.visit request reply) s').1 = .ok (found, changed) ∧
      (found.isSome = true ↔ (∀ visit ∈ log, visit.2.isSome = true) ∧
        h.clock s' < S.keptTime m.expires ∧
        (h.clock s').since (S.keptTime (lastUse (h.clock start) log)) ≤ timeout.nanoseconds) ∧
      ∀ a, found = some a →
        a = { S.kept m with lastUsed := S.keptTime (lastUse (h.clock start) log) } := by
  have hCreate := create_of_logIn (congrArg Prod.fst hLogin)
  obtain ⟨hNew, hNow⟩ := isNew_of_create hCreate
  have hPast : 0 ≤ m.lastUsed.nanoseconds := by
    rw [hNow]
    exact hEpoch
  have hStart : S.Keeping h m timeout [] entered (S.holding sent none) := by
    obtain ⟨placed, raw, hResult, hHolding, hKeeps⟩ :=
      logIn_kept hReliable hCreate hSendable response
    have hClock := h.clock_run (S.logIn login home response) start
    rw [hLogin] at hResult hKeeps hClock
    obtain ⟨-, rfl⟩ := Prod.mk.inj (Except.ok.inj hResult)
    refine ⟨?_, ⟨raw, hHolding none, hKeeps⟩, .inl fun visit hVisit => by cases hVisit⟩
    rw [hNow, hClock]
    exact Int.le_refl _
  have hKeeping := keeping_visits hReliable hNew hPast hIdle hWhole hStart hVisits
  obtain ⟨found, changed, hRun, hFound, hSeen, -⟩ :=
    keeping_visit hReliable hNew hPast hIdle hWhole hKeeping hReturns
  rw [← hNow]
  exact ⟨hNew.expires, found, changed, hRun, hFound, hSeen⟩

/-- A login with a bearer token half a second into 1970, with two seconds to stay unused, and visits
after two and four seconds. -/
theorem idle_window_slides_for_token :
    let S : Service Unit String := .bearer { idle := some ⟨2000000000, by decide, by decide⟩ }
    let h : Host Unit (Surroundings Unit) := Surroundings.steady
    let start : Surroundings Unit :=
      { clock := ⟨500000000, by decide, by decide⟩, generators := [.listed ["id"]] }
    let request : Request := { headers := [(defaultTokenHeader, ⟨[105, 100], by decide⟩)] }
    ∃ m sent entered log s held s',
      h.run (S.logIn ⟨"provider", "key"⟩ {} {}) start = (.ok (m, sent), entered) ∧
      S.Visits h {} entered (S.holding sent none) log s held ∧
      log.map (·.1.nanoseconds) = [2000000000] ∧ (h.clock s').nanoseconds = 4000000000 ∧
      ∃ found changed, (h.run (S.visit request {}) s').1 = .ok (found, changed) ∧
        found.isSome = true := by
  intro S h start request
  let m : Authenticator Unit := S.carrier.record "id" ⟨"provider", "key"⟩ start.clock
    ⟨43200500000000, by decide, by decide⟩ {}
  let sent : Response := ({} : Response).setHeader defaultTokenHeader ⟨[105, 100], by decide⟩
  let entered := (h.run (S.logIn ⟨"provider", "key"⟩ {} {}) start).2
  have hCreate : (h.run (S.carrier.create ⟨"provider", "key"⟩ {}) start).1 = .ok m := rfl
  have hLogin : h.run (S.logIn ⟨"provider", "key"⟩ {} {}) start = (.ok (m, sent), entered) := by
    have hIssue : (h.run (S.carrier.issue m)
        (h.run (S.carrier.create ⟨"provider", "key"⟩ {}) start).2).1 = .ok "id" := rfl
    have hEmbed : S.carrier.embed (S.carrier.wrap m "id") {} = .ok sent := by
      change S.carrier.embed "id" {} = .ok sent
      rfl
    refine Prod.ext ?_ rfl
    simp only [run_logIn, hCreate, hIssue, hEmbed]
    rfl
  have hHolding : S.holding sent none = some "id" := rfl
  have hReadable : HeaderValue.Readable m.id := by
    intro c hc
    have hId : m.id.toList = ['i', 'd'] := by decide
    rw [hId] at hc
    rcases List.mem_cons.mp hc with rfl | hLast
    · exact .inl (by decide)
    · rw [List.mem_singleton.mp hLast]
      exact .inl (by decide)
  have hBlank : S.Blank {} := S.blank_empty
  let second := { entered with clock := ⟨2000000000, by decide, by decide⟩ }
  let s := (h.run (S.visit request {}) second).2
  let s' := { s with clock := ⟨4000000000, by decide, by decide⟩ }
  have hVisits : S.Visits h {} entered (S.holding sent none) [] entered (S.holding sent none) := .nil
  have hFirst : S.Returns h {} entered (S.holding sent none) second request {} :=
    ⟨by decide, rfl, hHolding ▸ rfl, rfl, hBlank⟩
  have hOnce := hVisits.snoc hFirst (show (h.run (S.visit request {}) second).1 = _ from rfl)
  have hSecond : S.Returns h {} s (S.holding {} (S.holding sent none)) s' request {} :=
    ⟨by decide, rfl, hHolding ▸ rfl, rfl, hBlank⟩
  refine ⟨m, sent, entered, _, s, _, s', hLogin, hOnce, rfl, rfl, ?_⟩
  obtain ⟨-, found, changed, hRun, hFound, -⟩ :=
    idle_window_slides (fun _ => Surroundings.reliable_steady) rfl ⟨2, rfl⟩ (by decide) hLogin
      hReadable hOnce hSecond
  refine ⟨found, changed, hRun, hFound.mpr ⟨fun visit hVisit => ?_, by decide, by decide⟩⟩
  rw [List.mem_singleton.mp hVisit]
  rfl

end WebLogin.Service
