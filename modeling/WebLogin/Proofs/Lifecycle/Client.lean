import WebLogin.Proofs.Lifecycle.Update

/-!
# Clients

What a server does for a client: it logs the client in, and with each later request it retrieves and,
if it finds an authenticator, goes on with it. From each response the client takes what it has to
bring with its next request.

* `place_issued`: an issued wire value, put into a response, is what the client then holds.
* `Keeps`: what makes a wire value one of a session, whichever service it is.
* `retrieve_kept`: the session of such a value is found exactly as long as it is valid and the
  client's own.
* `logIn_kept`, `visit_kept`, `renew_plain`: what the client holds after a login, a visit and a
  renewal.
-/

namespace WebLogin.Service

variable {δ ν σ : Type}

/-! ## What a server does -/

/-- Makes an authenticator for a login and puts its wire value into a response. -/
def logIn (S : Service δ ν) (login : Login) (request : Request) (response : Response) :
    Program δ (Except LifecycleError (Authenticator δ × Response)) := do
  match ← S.carrier.create login request with
  | .error error => return .error error
  | .ok a =>
    match ← S.carrier.start a with
    | .error error => return .error error
    | .ok value => return (S.carrier.embed value response).map fun sent => (a, sent)

/-- Retrieves, and goes on with what is found. -/
def whenFound (S : Service δ ν) (request : Request) (response : Response)
    (act : Authenticator δ → Program δ (Except LifecycleError Response)) :
    Program δ (Except LifecycleError (Option (Authenticator δ) × Response)) := do
  match ← S.carrier.retrieve request with
  | .error error => return .error error
  | .ok none => return .ok (none, response)
  | .ok (some a) => return (← act a).map fun changed => (some a, changed)

/-- Touches an authenticator and writes it back if that changed it. -/
def refresh (S : Service δ ν) (response : Response) (a : Authenticator δ) :
    Program δ (Except LifecycleError Response) := do
  S.carrier.updateTouched (← S.carrier.touch a) response

/-- Finds a client logged in and notes the use. -/
def visit (S : Service δ ν) (request : Request) (response : Response) :
    Program δ (Except LifecycleError (Option (Authenticator δ) × Response)) :=
  S.whenFound request response (S.refresh response)

theorem run_whenFound (S : Service δ ν) (h : Host δ σ) (request : Request) (response : Response)
    (act : Authenticator δ → Program δ (Except LifecycleError Response)) (s : σ) :
    h.run (S.whenFound request response act) s =
      match (h.run (S.carrier.retrieve request) s).1 with
      | .error error => (.error error, (h.run (S.carrier.retrieve request) s).2)
      | .ok none => (.ok (none, response), (h.run (S.carrier.retrieve request) s).2)
      | .ok (some a) =>
        ((h.run (act a) (h.run (S.carrier.retrieve request) s).2).1.map fun changed =>
          (some a, changed), (h.run (act a) (h.run (S.carrier.retrieve request) s).2).2) := by
  unfold whenFound
  simp only [Program.bind_eq, Program.pure_eq, h.run_bind]
  cases (h.run (S.carrier.retrieve request) s).1 with
  | error error => rfl
  | ok found =>
    cases found with
    | none => rfl
    | some a => simp only [h.run_bind, h.run_done]

/-! ## What a client holds -/

/-- The wire value that a client holds after a response, which may give it one or take it away. -/
def holding : Service δ ν → Response → Option String → Option String
  | cookie settings _ _, response, held =>
    match response.cookie? settings.cookie.name with
    | some c => if c.removal = c then none else some c.value
    | none => held
  | session settings _ _, response, held =>
    match response.session.set.find? settings.key with
    | some value => some value
    | none => if response.session.removed.contains settings.key then none else held
  | bearer settings, response, held => response.header? settings.header <|> held
  | jwt settings _ _, response, held => response.header? settings.header <|> held

/-- A response that leaves the client with what it holds. -/
def Blank (S : Service δ ν) (response : Response) : Prop := ∀ held, S.holding response held = held

/-- An identifier that a header can bring, where that is what the client is given. -/
def Sendable : Service δ ν → Authenticator δ → Prop
  | bearer _, a => HeaderValue.Readable a.id
  | _, _ => True

theorem blank_empty (S : Service δ ν) : S.Blank {} := by
  cases S with
  | cookie settings keeping fingerprint => exact fun held => rfl
  | session settings codec fingerprint => exact fun held => rfl
  | bearer settings => exact fun held => rfl
  | jwt settings codec stored => exact fun held => rfl

variable {S : Service δ ν} {h : Host δ σ}

theorem Sendable.usedAt {a : Authenticator δ} (hSendable : S.Sendable a) (t : Instant) :
    S.Sendable (a.usedAt t) := by
  cases S with
  | cookie settings keeping fingerprint => trivial
  | session settings codec fingerprint => trivial
  | bearer settings => exact hSendable
  | jwt settings codec stored => trivial

theorem Sendable.kept {a : Authenticator δ} (hSendable : S.Sendable a) : S.Sendable (S.kept a) := by
  cases S with
  | cookie settings keeping fingerprint => trivial
  | session settings codec fingerprint => trivial
  | bearer settings => exact hSendable
  | jwt settings codec stored => trivial

theorem place_readable {text : String} (hReadable : HeaderValue.Readable text)
    (header : HeaderName) (response : Response) :
    ∃ changed, TokenHeader.place header text response = .ok changed ∧
      changed.header? header = some text := by
  obtain ⟨value, hValue⟩ := HeaderValue.exists_ofString? hReadable
  refine ⟨response.setHeader header value, ?_, ?_⟩
  · simp only [TokenHeader.place, Response.setHeaderText?, hValue, Option.map_some]
  · simp only [Response.header?, Response.setHeader, Dictionary.find?_insert, if_true,
      Option.bind_some]
    exact HeaderValue.text?_ofString? hReadable hValue

theorem place_issued {a : Authenticator δ} {raw : String} (hSendable : S.Sendable a)
    (hIssues : S.Issues a raw) (response : Response) :
    ∃ changed, S.carrier.place (S.carrier.wrap a raw) response = .ok changed ∧
      ∀ held, S.holding changed held = some raw := by
  cases S with
  | cookie settings keeping fingerprint =>
    refine ⟨response.setCookie (settings.cookie.cookie a.details.maxAge raw), rfl, fun held => ?_⟩
    have hCookie : (response.setCookie (settings.cookie.cookie a.details.maxAge raw)).cookie?
        settings.cookie.name = some (settings.cookie.cookie a.details.maxAge raw) :=
      response.cookie?_setCookie _
    have hLasting : (settings.cookie.cookie a.details.maxAge raw).removal ≠
        settings.cookie.cookie a.details.maxAge raw := by
      intro hRemoval
      cases congrArg Cookie.expires hRemoval
    simp only [holding, hCookie, if_neg hLasting]
    rfl
  | session settings codec fingerprint =>
    refine ⟨response.setSessionValue settings.key raw, rfl, fun held => ?_⟩
    have hValue : (response.setSessionValue settings.key raw).session.set.find? settings.key =
        some raw := response.session.set.find?_insert_self settings.key raw
    simp only [holding, hValue]
  | bearer settings =>
    obtain rfl : raw = a.id := hIssues
    obtain ⟨changed, hPlace, hHeader⟩ := place_readable hSendable settings.header response
    refine ⟨changed, hPlace, fun held => ?_⟩
    simp only [holding, hHeader]
    rfl
  | jwt settings codec stored =>
    obtain ⟨hClash, nonce, hRaw⟩ := hIssues
    have hReadable : HeaderValue.Readable raw := hRaw ▸ codec.readable_token _
    obtain ⟨changed, hPlace, hHeader⟩ := place_readable hReadable settings.header response
    refine ⟨changed, hPlace, fun held => ?_⟩
    simp only [holding, hHeader]
    rfl

theorem start_plain (hReliable : S.isStored = true → h.Reliable) {a : Authenticator δ}
    (hPlain : S.Plain a) (s : σ) :
    ∃ raw, (h.run (S.carrier.issue a) s).1 = .ok raw ∧ S.Issues a raw ∧
      h.store (h.run (S.carrier.issue a) s).2 =
        if S.isStored then (h.store s).add a else h.store s := by
  have hOutcome := S.issue_outcome h a s
  cases hIssue : (h.run (S.carrier.issue a) s).1 with
  | ok raw =>
    obtain ⟨hIssues, hStore⟩ := hOutcome.issued raw hIssue
    exact ⟨raw, rfl, hIssues, hStore⟩
  | error cause =>
    exfalso
    rcases (hOutcome.failed cause hIssue).2 with
      ⟨fault, -, hStored, hMem⟩ | ⟨name, -, hClash⟩
    · obtain ⟨before, after, hAnswer, -⟩ := Host.acts_of_mem_trace (hReliable hStored) hMem
      cases hAnswer
    · rw [clash?_of_plain hPlain] at hClash
      cases hClash

theorem update_plain (hReliable : S.isStored = true → h.Reliable) {a : Authenticator δ} {s : σ}
    (hPlain : S.Plain a) (hSendable : S.Sendable a)
    (hFind : S.isStored = true → (h.store s).find? a.id ≠ none) (response : Response) :
    ∃ changed, (h.run (S.carrier.update a response) s).1 = .ok changed ∧
      h.store (h.run (S.carrier.update a response) s).2 =
        (if S.isStored then (h.store s).add a else h.store s) ∧
      ((changed = response ∧ S.isStored = true) ∨
        ∃ raw, S.Issues a raw ∧ ∀ held, S.holding changed held = some raw) := by
  have hOutcome := S.reissue_outcome h a s
  obtain ⟨hResult, hState⟩ := S.carrier.run_update h a response s
  rw [hResult, hState]
  cases hReissue : (h.run (S.carrier.reissue a) s).1 with
  | error cause =>
    obtain ⟨hStored, hNone⟩ := (hOutcome.refused cause hReissue).2 (clash?_of_plain hPlain)
    exact absurd (hNone (hReliable hStored)) (hFind hStored)
  | ok handed =>
    obtain ⟨hReissues, hStore⟩ := hOutcome.written handed hReissue
    cases handed with
    | none => exact ⟨response, rfl, hStore, .inl ⟨rfl, stored_of_reissues_none hReissues⟩⟩
    | some raw =>
      have hIssues := issues_of_reissues hReissues
      obtain ⟨changed, hPlace, hHolding⟩ := place_issued hSendable hIssues response
      refine ⟨changed, ?_, hStore, .inr ⟨raw, hIssues, hHolding⟩⟩
      simp only [Carrier.blame, hPlace, Except.mapError]

/-! ## A value of a session -/

/-- The session of a login that was last used at an instant, as a retrieval gives it. -/
def seen (S : Service δ ν) (m : Authenticator δ) (used : Instant) : Authenticator δ :=
  (S.kept m).usedAt (S.keptTime used)

/-- A wire value of the session of a login that was last used at an instant. -/
structure Keeps (S : Service δ ν) (m : Authenticator δ) (used : Instant) (store : Store δ)
    (raw : String) : Prop where
  plain : S.Plain m
  sendable : S.Sendable m
  /-- The value was issued for the session, and without a store for this very use. -/
  issued : ∃ a t, S.Issues a raw ∧ S.Plain a ∧ S.kept a = S.seen m t ∧
    (S.isStored = false → t = used)
  stored : S.isStored = true → store.find? m.id = some (m.usedAt used)

/-- The record may be the one of the last use. -/
theorem Keeps.usedAt {m : Authenticator δ} {used : Instant} {store : Store δ} {raw : String}
    (hKeeps : S.Keeps m used store raw) : S.Keeps (m.usedAt used) used store raw := by
  have hSeen (t : Instant) : S.seen (m.usedAt used) t = S.seen m t := by
    rw [seen, S.kept_usedAt, Authenticator.usedAt_usedAt, seen]
  obtain ⟨a, t, hIssues, hPlain, hSame, hUsed⟩ := hKeeps.issued
  exact ⟨hKeeps.plain.usedAt used, hKeeps.sendable.usedAt used,
    ⟨a, t, hIssues, hPlain, hSame.trans (hSeen t).symm, hUsed⟩, hKeeps.stored⟩

/-- What a retrieval gives to a request that brings a value of the session. -/
def admitted? (S : Service δ ν) (m : Authenticator δ) (used : Instant) (request : Request)
    (now : Instant) : Option (Authenticator δ) :=
  if S.carrier.belongs request (S.seen m used) && (S.seen m used).isValid now then
    some (S.seen m used)
  else none

variable {home request : Request} {m : Authenticator δ} {used : Instant} {raw : String} {s : σ}
  {login : Login} {response : Response} {now : Instant}

theorem admitted?_eq_some {a : Authenticator δ} (hAdmitted : S.admitted? m used request now = some a) :
    a = S.seen m used := by
  unfold admitted? at hAdmitted
  split at hAdmitted
  · exact (Option.some.inj hAdmitted).symm
  · cases hAdmitted

theorem read_kept {store : Store δ} (hKeeps : S.Keeps m used store raw) :
    S.read store raw = .ok (some (S.seen m used)) ∨
      (∃ error, S.read store raw = .error error) ∧ ¬S.Legible m := by
  obtain ⟨-, -, ⟨a, t, hIssues, hPlain, hSame, hUsed⟩, hStore⟩ := hKeeps
  rcases read_of_issues hPlain hIssues store with hRead | ⟨hError, hNot⟩
  · left
    rw [hRead]
    by_cases hStored : S.isStored = true
    · have hId := congrArg Authenticator.id hSame
      rw [S.id_kept, seen, Authenticator.id_usedAt, S.id_kept] at hId
      rw [if_pos hStored, hId, hStore hStored, seen, kept_of_stored hStored, keptTime,
        if_pos hStored]
    · rw [if_neg hStored, hSame, hUsed (Bool.eq_false_iff.mpr hStored)]
  · refine .inr ⟨hError, ?_⟩
    have hExpires : a.expires.seconds = m.expires.seconds := by
      have hKept := congrArg Authenticator.expires hSame
      rw [S.expires_kept, seen, Authenticator.expires_usedAt, S.expires_kept] at hKept
      have hSeconds := congrArg Instant.seconds hKept
      rwa [S.keptTime_seconds, S.keptTime_seconds] at hSeconds
    cases S with
    | cookie settings keeping fingerprint => exact hNot
    | session settings codec fingerprint => exact hNot
    | bearer settings => exact hNot
    | jwt settings codec stored =>
      have hPast : ¬0 ≤ a.expires.seconds := hNot
      rwa [hExpires] at hPast

theorem retrieve_kept (hReliable : S.isStored = true → h.Reliable)
    (hKeeps : S.Keeps m used (h.store s) raw) (hLocate : S.carrier.locate request = some raw)
    (hPast : ¬S.Legible m → m.expires ≤ h.clock s) :
    (h.run (S.carrier.retrieve request) s).1 = .ok (S.admitted? m used request (h.clock s)) := by
  have hDecode : (h.run (S.carrier.decode raw) s).1 =
      (S.read (h.store s) raw).mapError .codec := by
    rcases decode_outcome S h raw s with ⟨hResult, -⟩ | ⟨hStored, id, fault, hTrace, -⟩
    · exact hResult
    · exact absurd (hTrace ▸ List.mem_singleton_self _)
        (not_failed_find (hReliable hStored) (S.carrier.decode raw) s)
  rw [Carrier.run_retrieve _ h hLocate, hDecode]
  rcases read_kept hKeeps with hRead | ⟨⟨error, hRead⟩, hNot⟩
  · rw [hRead]
    simp only [Except.mapError, Carrier.verdict, admitted?, Bool.and_eq_true]
  · rw [hRead]
    have hInvalid : (S.seen m used).isValid (h.clock s) = false := by
      refine Bool.eq_false_iff.mpr fun hValid => ?_
      have hAhead : (h.clock s).nanoseconds < (S.kept m).expires.nanoseconds :=
        (Authenticator.isValid_iff.mp hValid).1
      have hLe : (S.keptTime m.expires).nanoseconds ≤ m.expires.nanoseconds :=
        S.keptTime_le m.expires
      have hOver : m.expires.nanoseconds ≤ (h.clock s).nanoseconds := hPast hNot
      rw [S.expires_kept] at hAhead
      omega
    simp only [Except.mapError, Carrier.verdict, admitted?, hInvalid, Bool.and_false,
      Bool.false_eq_true, if_false]

theorem keeps_issued {store : Store δ} {a : Authenticator δ} (hPlain : S.Plain m)
    (hSendable : S.Sendable m) (hIssues : S.Issues a raw) (hSame : a = m.usedAt used ∨
      a = (S.kept m).usedAt used) :
    S.Keeps m used (if S.isStored then store.add a else store) raw := by
  have hKept : S.kept a = S.seen m used := by
    rcases hSame with rfl | rfl
    · exact S.kept_usedAt m used
    · rw [S.kept_usedAt, S.kept_kept, seen]
  have hPlainA : S.Plain a := by
    rcases hSame with rfl | rfl
    · exact hPlain.usedAt used
    · exact hPlain.kept.usedAt used
  refine ⟨hPlain, hSendable, ⟨a, used, hIssues, hPlainA, hKept, fun _ => rfl⟩, fun hStored => ?_⟩
  have hRecord : a = m.usedAt used := by
    rcases hSame with rfl | rfl
    · rfl
    · rw [kept_of_stored hStored]
  rw [if_pos hStored, hRecord, Store.find?_add]
  exact if_pos rfl

/-! ## Login, visit, renewal and logout -/

theorem run_logIn (S : Service δ ν) (h : Host δ σ) (login : Login) (request : Request)
    (response : Response) (s : σ) :
    h.run (S.logIn login request response) s =
      match (h.run (S.carrier.create login request) s).1 with
      | .error error => (.error error, (h.run (S.carrier.create login request) s).2)
      | .ok a =>
        match (h.run (S.carrier.issue a) (h.run (S.carrier.create login request) s).2).1 with
        | .error cause => (.error (S.carrier.failure .initialization cause),
            (h.run (S.carrier.issue a) (h.run (S.carrier.create login request) s).2).2)
        | .ok raw => ((S.carrier.embed (S.carrier.wrap a raw) response).map fun sent => (a, sent),
            (h.run (S.carrier.issue a) (h.run (S.carrier.create login request) s).2).2) := by
  unfold logIn
  simp only [Program.bind_eq, Program.pure_eq, h.run_bind]
  cases (h.run (S.carrier.create login request) s).1 with
  | error error => rfl
  | ok a =>
    simp only [h.run_bind, Carrier.run_start, Carrier.state_start]
    cases (h.run (S.carrier.issue a) (h.run (S.carrier.create login request) s).2).1 with
    | error cause => rfl
    | ok raw => rfl

theorem logIn_kept (hReliable : S.isStored = true → h.Reliable)
    (hCreate : (h.run (S.carrier.create login request) s).1 = .ok m) (hSendable : S.Sendable m)
    (response : Response) :
    ∃ sent raw, (h.run (S.logIn login request response) s).1 = .ok (m, sent) ∧
      (∀ held, S.holding sent held = some raw) ∧
      S.Keeps m m.lastUsed (h.store (h.run (S.logIn login request response) s).2) raw := by
  obtain ⟨hNew, hNow⟩ := isNew_of_create hCreate
  have hPlain := plain_of_isNew hNew
  obtain ⟨raw, hIssue, hIssues, hStore⟩ :=
    start_plain hReliable hPlain (h.run (S.carrier.create login request) s).2
  obtain ⟨sent, hPlace, hHolding⟩ := place_issued hSendable hIssues response
  have hEmbed : S.carrier.embed (S.carrier.wrap m raw) response = .ok sent := by
    simp only [Carrier.embed, Carrier.blame, hPlace, Except.mapError]
  rw [run_logIn, hCreate]
  simp only [hIssue, hEmbed]
  refine ⟨sent, raw, rfl, hHolding, ?_⟩
  rw [hStore]
  exact keeps_issued hPlain hSendable hIssues (.inl rfl)

theorem create_of_logIn {sent : Response}
    (hLogin : (h.run (S.logIn login request response) s).1 = .ok (m, sent)) :
    (h.run (S.carrier.create login request) s).1 = .ok m := by
  rw [run_logIn] at hLogin
  cases hCreate : (h.run (S.carrier.create login request) s).1 with
  | error error =>
    rw [hCreate] at hLogin
    cases hLogin
  | ok a =>
    rw [hCreate] at hLogin
    cases hIssue : (h.run (S.carrier.issue a) (h.run (S.carrier.create login request) s).2).1 with
    | error cause =>
      simp only [hIssue] at hLogin
      cases hLogin
    | ok raw =>
      simp only [hIssue] at hLogin
      cases hEmbed : S.carrier.embed (S.carrier.wrap a raw) response with
      | error error =>
        rw [hEmbed] at hLogin
        cases hLogin
      | ok placed =>
        rw [hEmbed] at hLogin
        exact congrArg Except.ok (Prod.mk.inj (Except.ok.inj hLogin)).1

/-- The instant at which a session is used after a visit. -/
def usedAfter (S : Service δ ν) (m : Authenticator δ) (used : Instant) (request : Request)
    (now : Instant) : Instant :=
  if (S.admitted? m used request now).isSome && m.idle.isSome then now else used

/-- Where the value is a key into the store, it leads to the record that is written back. -/
theorem Keeps.rewritten {store : Store δ} (hKeeps : S.Keeps m used store raw)
    (hStored : S.isStored = true) (now : Instant) :
    S.Keeps m now (store.add ((S.kept m).usedAt now)) raw := by
  obtain ⟨a, t, hIssues, hPlain, hSame, -⟩ := hKeeps.issued
  refine ⟨hKeeps.plain, hKeeps.sendable, ⟨a, t, hIssues, hPlain, hSame, fun hFalse => ?_⟩,
    fun _ => ?_⟩
  · cases hFalse.symm.trans hStored
  · rw [kept_of_stored hStored, Store.find?_add]
    exact if_pos rfl

theorem isSome_idle_seen (S : Service δ ν) (m : Authenticator δ) (used : Instant) :
    (S.seen m used).idle.isSome = m.idle.isSome := by
  rw [seen, Authenticator.idle_usedAt]
  rcases S.idle_kept m with hKept | hKept
  · rw [hKept]
  · rw [hKept, Option.isSome_map]

theorem refresh_kept (hReliable : S.isStored = true → h.Reliable)
    (hKeeps : S.Keeps m used (h.store s) raw) (hBlank : S.Blank response) :
    ∃ changed raw', (h.run (S.refresh response (S.seen m used)) s).1 = .ok changed ∧
      S.holding changed (some raw) = some raw' ∧
      S.Keeps m (if m.idle.isSome then h.clock s else used)
        (h.store (h.run (S.refresh response (S.seen m used)) s).2) raw' := by
  obtain ⟨hTouch, hStore⟩ := S.carrier.run_touch h (S.seen m used) s
  have hTimed := S.isSome_idle_seen m used
  have hRun : h.run (S.refresh response (S.seen m used)) s =
      h.run (S.carrier.updateTouched ((S.seen m used).touch (h.clock s)) response)
        (h.run (S.carrier.touch (S.seen m used)) s).2 := by
    unfold refresh
    rw [Program.bind_eq, h.run_bind, hTouch]
  rw [hRun]
  cases hIdle : (S.seen m used).idle with
  | none =>
    rw [hIdle] at hTimed
    have hTouched : (S.seen m used).touch (h.clock s) = .unchanged (S.seen m used) := by
      unfold Authenticator.touch
      rw [hIdle]
    rw [hTouched, ← hTimed]
    exact ⟨response, raw, rfl, hBlank _, hStore.symm ▸ hKeeps⟩
  | some timeout =>
    rw [hIdle] at hTimed
    rw [Authenticator.touch_of_idle hIdle, ← hTimed]
    have hSame : (S.seen m used).usedAt (h.clock s) = (S.kept m).usedAt (h.clock s) := rfl
    rw [hSame]
    have hFind : S.isStored = true → (h.store (h.run (S.carrier.touch (S.seen m used)) s).2).find?
        ((S.kept m).usedAt (h.clock s)).id ≠ none := by
      intro hStored
      have hId : ((S.kept m).usedAt (h.clock s)).id = m.id := S.id_kept m
      rw [hStore, hId, hKeeps.stored hStored]
      exact Option.some_ne_none _
    obtain ⟨changed, hResult, hAfter, hHolding⟩ := update_plain hReliable
      (hKeeps.plain.kept.usedAt _) (hKeeps.sendable.kept.usedAt _) hFind response
    rw [hStore] at hAfter
    rcases hHolding with ⟨rfl, hStored⟩ | ⟨fresh, hIssues, hHolding⟩
    · -- the client keeps its value, which is a key into the store
      rw [if_pos hStored] at hAfter
      exact ⟨changed, raw, hResult, hBlank _, hAfter.symm ▸ hKeeps.rewritten hStored _⟩
    · have hFresh : S.Keeps m (h.clock s)
          (if S.isStored then (h.store s).add ((S.kept m).usedAt (h.clock s)) else h.store s) fresh :=
        keeps_issued hKeeps.plain hKeeps.sendable hIssues (.inr rfl)
      exact ⟨changed, fresh, hResult, hHolding _, hAfter.symm ▸ hFresh⟩

/-- After a visit the client holds a value of the session, used at this instant if it was found and
has an idle timeout. -/
theorem visit_kept (hReliable : S.isStored = true → h.Reliable)
    (hKeeps : S.Keeps m used (h.store s) raw) (hLocate : S.carrier.locate request = some raw)
    (hPast : ¬S.Legible m → m.expires ≤ h.clock s) (hBlank : S.Blank response) :
    ∃ changed raw',
      (h.run (S.visit request response) s).1 = .ok (S.admitted? m used request (h.clock s), changed) ∧
      S.holding changed (some raw) = some raw' ∧
      S.Keeps m (S.usedAfter m used request (h.clock s))
        (h.store (h.run (S.visit request response) s).2) raw' := by
  have hStore := S.store_retrieve h request s
  have hClock := h.clock_run (S.carrier.retrieve request) s
  unfold visit usedAfter
  rw [run_whenFound, retrieve_kept hReliable hKeeps hLocate hPast]
  cases hFound : S.admitted? m used request (h.clock s) with
  | none => exact ⟨response, raw, rfl, hBlank _, hStore.symm ▸ hKeeps⟩
  | some a =>
    obtain rfl := admitted?_eq_some hFound
    obtain ⟨changed, raw', hResult, hHolding, hKeeps⟩ :=
      refresh_kept hReliable (hStore.symm ▸ hKeeps) hBlank
    rw [hClock] at hKeeps
    refine ⟨changed, raw', ?_, hHolding, hKeeps⟩
    simp only [hResult, Except.map]

theorem revoke_reliable (hReliable : S.isStored = true → h.Reliable) (id : String) (s : σ) :
    (h.run (S.carrier.revoke id) s).1 = .ok () := by
  rcases S.revoke_outcome h id s with ⟨hResult, -, -⟩ | ⟨fault, -, -, hTrace⟩
  · exact hResult
  · exfalso
    have hMem : ⟨.remove id, .error fault⟩ ∈ h.trace (S.carrier.revoke id) s :=
      hTrace ▸ List.mem_singleton_self _
    have hStored : S.isStored = true := by
      refine Bool.not_eq_false _ ▸ fun hFalse => ?_
      cases (h.always_run (quiet_of_callsOnly hFalse (S.callsOnly_revoke id)) s).1 _ hMem
    obtain ⟨before, after, hAnswer, -⟩ := Host.acts_of_mem_trace (hReliable hStored) hMem
    cases hAnswer

/-- A renewal makes a fresh authenticator and gives the client a value of its session; or none can
be made. -/
theorem renew_plain (hReliable : S.isStored = true → h.Reliable) {a : Authenticator δ}
    (hPlain : S.Plain a) (request : Request) (response : Response) (s : σ) :
    let created := h.run (S.carrier.create a.login request) (h.run (S.carrier.revoke a.id) s).2
    (∀ error, created.1 = .error error → (h.run (S.carrier.renew a request response) s).1 =
      .error (.within S.carrier.name .renewal error)) ∧
    ∀ fresh, created.1 = .ok fresh → S.Sendable fresh →
      ∃ changed raw, (h.run (S.carrier.renew a request response) s).1 = .ok changed ∧
        (∀ held, S.holding changed held = some raw) ∧
        S.Keeps fresh fresh.lastUsed (h.store (h.run (S.carrier.renew a request response) s).2)
          raw := by
  intro created
  have hRevoke := revoke_reliable hReliable a.id s
  obtain ⟨hRenew, hState⟩ := S.carrier.run_renew h a request response s
  rw [hRenew, hState]
  refine ⟨fun error hError => ?_, fun fresh hFresh hSendable => ?_⟩
  · obtain ⟨hFailed, -⟩ := S.carrier.run_replace h a request (h.run (S.carrier.revoke a.id) s).2
    have hValue : (h.run (S.carrier.renewValue a request) s).1 =
        .error (.within S.carrier.name .renewal error) := by
      rw [S.carrier.renewValue_eq, h.run_bind, hRevoke]
      simp only [hFailed error hError]
    rw [hValue]
  · have hRenewed : S.carrier.renewed? h a request s = some fresh := by
      unfold Carrier.renewed?
      rw [hRevoke]
      change created.1.toOption = some fresh
      rw [hFresh]
      rfl
    obtain ⟨hResult, hAfter, -, -⟩ := S.carrier.run_renewValue_of_some h hRenewed
    rw [successor_of_plain hPlain] at hResult hAfter
    have hPlainFresh := plain_of_isNew (isNew_of_create hFresh).1
    obtain ⟨raw, hIssue, hIssues, hStore⟩ :=
      start_plain hReliable hPlainFresh (S.carrier.renewing h a request s)
    obtain ⟨changed, hPlace, hHolding⟩ := place_issued hSendable hIssues response
    rw [hResult, hIssue]
    refine ⟨changed, raw, ?_, hHolding, ?_⟩
    · simp only [Carrier.blameRenewal, Carrier.embed, Carrier.blame, hPlace, Except.mapError]
    · rw [hAfter, hStore]
      exact keeps_issued hPlainFresh hSendable hIssues (.inl rfl)

end WebLogin.Service
