import Mathlib.Data.List.Nodup
import WebLogin.Proofs.Lifecycle.Update

/-!
# What an authenticator keeps for good

However often an authenticator is touched, written back and read again, it stays the one that was
made under its identifier, with nothing changed but its time of last use. So nobody stays logged in
beyond the expiry that was set at the login.

A run is any sequence of steps of one service, with the clock set anew in between. Its ledger says
what the host may use: authenticators that it was given, and wire values that were issued. The
invariant says where each of them comes from, and where the records come from that the store has
under their identifiers.

* `invariant_step`, `invariant_run`: the invariant is kept by every step, whichever calls of the
  store fail.
* `identity_constant`: the statement for every retrieval after every run.
-/

namespace WebLogin

variable {δ ν σ : Type}

/-! ## Runs -/

/-- What a run has come to: the authenticators that were made, those that the host was given, and
the wire values that were issued. -/
structure Ledger (δ : Type) where
  made : List (Authenticator δ) := []
  held : List (Authenticator δ) := []
  issued : List String := []

/-- The ledger with what a step adds to it. -/
def Ledger.record (l : Ledger δ) (made held : Option (Authenticator δ)) (issued : Option String) :
    Ledger δ :=
  ⟨l.made ++ made.toList, l.held ++ held.toList, l.issued ++ issued.toList⟩

namespace Service

theorem wire_issued {S : Service δ ν} {a : Authenticator δ} {result : Except LifecycleError ν}
    {failure : Cause → LifecycleError} {issued : Except Cause String}
    (hResult : result = match issued with
      | .error cause => .error (failure cause)
      | .ok raw => .ok (S.carrier.wrap a raw)) :
    result.toOption.map S.wire = issued.toOption := by
  rw [hResult]
  cases issued with
  | error cause => rfl
  | ok raw => exact congrArg some (S.wire_wrap a raw)

/-- One step of a service, with authenticators that the host was given, as they are, and with
requests that bring no wire value but an issued one. -/
inductive Step (S : Service δ ν) (h : Host δ σ) (l : Ledger δ) (s : σ) : Ledger δ → σ → Prop where
  /-- The clock is set, forwards or backwards. -/
  | waits (s' : σ) (hStore : h.store s' = h.store s) : Step S h l s l s'
  | creates (login : Login) (request : Request) :
      Step S h l s
        (l.record (h.run (S.carrier.create login request) s).1.toOption
          (h.run (S.carrier.create login request) s).1.toOption none)
        (h.run (S.carrier.create login request) s).2
  | starts (a : Authenticator δ) (hHeld : a ∈ l.held) :
      Step S h l s
        (l.record none none ((h.run (S.carrier.start a) s).1.toOption.map S.wire))
        (h.run (S.carrier.start a) s).2
  | retrieves (request : Request)
      (hIssued : ∀ raw, S.carrier.locate request = some raw → raw ∈ l.issued) :
      Step S h l s
        (l.record none (h.run (S.carrier.retrieve request) s).1.toOption.join none)
        (h.run (S.carrier.retrieve request) s).2
  | touches (a : Authenticator δ) (hHeld : a ∈ l.held) :
      Step S h l s
        (l.record none (some (h.run (S.carrier.touch a) s).1.value) none)
        (h.run (S.carrier.touch a) s).2
  /-- The wire value, if there is a new one, stands in the response along with what was there. -/
  | updates (a : Authenticator δ) (response : Response) (hHeld : a ∈ l.held) :
      Step S h l s
        (l.record none none (h.run (S.carrier.reissue a) s).1.toOption.join)
        (h.run (S.carrier.update a response) s).2
  | renews (a : Authenticator δ) (request : Request) (response : Response) (hHeld : a ∈ l.held) :
      Step S h l s
        (l.record (S.carrier.renewed? h a request s) none
          ((h.run (S.carrier.renewValue a request) s).1.toOption.map S.wire))
        (h.run (S.carrier.renew a request response) s).2
  | discards (a : Authenticator δ) (response : Response) (hHeld : a ∈ l.held) :
      Step S h l s l (h.run (S.carrier.discard a response) s).2

/-- A run of any length, from an empty ledger and any store. -/
inductive Run (S : Service δ ν) (h : Host δ σ) (start : σ) : Ledger δ → σ → Prop where
  | nil : Run S h start {} start
  | snoc {l l' : Ledger δ} {s s' : σ} (hRun : Run S h start l s) (hStep : Step S h l s l' s') :
      Run S h start l' s'

/-! ## Where things come from -/

/-- One of the authenticators that were made, at another time of use and perhaps with its times in
whole seconds. -/
def Known (S : Service δ ν) (made : List (Authenticator δ)) (a : Authenticator δ) : Prop :=
  ∃ m ∈ made, ∃ t, a = m.usedAt t ∨ a = (S.kept m).usedAt t

/-- A wire value that was issued for a known authenticator, with no record under its identifier but
a known one. -/
def Vouched (S : Service δ ν) (made : List (Authenticator δ)) (store : Store δ) (raw : String) :
    Prop :=
  ∃ a, S.Known made a ∧ S.Issues a raw ∧
    (S.isStored = true → ∀ record, store.find? a.id = some record → S.Known made record)

/-- No record is new in a store but a known one. -/
def Sound (S : Service δ ν) (made : List (Authenticator δ)) (before after : Store δ) : Prop :=
  ∀ id record, after.find? id = some record → before.find? id = some record ∨ S.Known made record

/-- What holds after every run. -/
structure Invariant (S : Service δ ν) (l : Ledger δ) (store : Store δ) : Prop where
  made : ∀ m ∈ l.made, ∃ request, S.IsNew request m
  held : ∀ a ∈ l.held, S.Known l.made a
  issued : ∀ raw ∈ l.issued, S.Vouched l.made store raw

variable {S : Service δ ν} {h : Host δ σ} {l l' : Ledger δ} {s s' start : σ}
  {made more : List (Authenticator δ)} {a m : Authenticator δ} {before after : Store δ}

theorem known_of_made (hMade : m ∈ made) : S.Known made m := ⟨m, hMade, m.lastUsed, .inl rfl⟩

theorem Known.mono (hKnown : S.Known made a) (hMore : made ⊆ more) : S.Known more a := by
  obtain ⟨m, hMade, t, hVersion⟩ := hKnown
  exact ⟨m, hMore hMade, t, hVersion⟩

theorem Known.usedAt (hKnown : S.Known made a) (t : Instant) : S.Known made (a.usedAt t) := by
  obtain ⟨m, hMade, t', rfl | rfl⟩ := hKnown
  · exact ⟨m, hMade, t, .inl rfl⟩
  · exact ⟨m, hMade, t, .inr rfl⟩

/-- What is kept of a known authenticator is kept of the one that was made: rounding twice is
rounding once. -/
theorem Known.kept (hKnown : S.Known made a) :
    ∃ m ∈ made, ∃ t, S.kept a = (S.kept m).usedAt t := by
  obtain ⟨m, hMade, t, rfl | rfl⟩ := hKnown
  · exact ⟨m, hMade, S.keptTime t, S.kept_usedAt m t⟩
  · refine ⟨m, hMade, S.keptTime t, ?_⟩
    rw [S.kept_usedAt, S.kept_kept]

theorem Invariant.plain (hInvariant : S.Invariant l before) (hKnown : S.Known l.made a) :
    S.Plain a := by
  obtain ⟨m, hMade, t, hVersion⟩ := hKnown
  obtain ⟨request, hNew⟩ := hInvariant.made m hMade
  have hPlain := plain_of_isNew hNew
  rcases hVersion with rfl | rfl
  · exact hPlain.usedAt t
  · exact hPlain.kept.usedAt t

theorem Vouched.mono {raw : String} (hVouched : S.Vouched made before raw) (hMore : made ⊆ more)
    (hSound : S.Sound more before after) : S.Vouched more after raw := by
  obtain ⟨a, hKnown, hIssues, hRecord⟩ := hVouched
  refine ⟨a, hKnown.mono hMore, hIssues, fun hStored record hFind => ?_⟩
  rcases hSound a.id record hFind with hBefore | hNew
  · exact (hRecord hStored record hBefore).mono hMore
  · exact hNew

/-! ## What becomes of the store -/

theorem sound_refl (store : Store δ) : S.Sound made store store := fun _ _ hFind => .inl hFind

theorem sound_add (hKnown : S.Known made a) : S.Sound made before (before.add a) := by
  intro id record hFind
  rw [Store.find?_add] at hFind
  by_cases hId : id = a.id
  · rw [if_pos hId] at hFind
    obtain rfl := Option.some.inj hFind
    exact .inr hKnown
  · rw [if_neg hId] at hFind
    exact .inl hFind

theorem sound_kept (hKnown : S.Known made a) :
    S.Sound made before (if S.isStored then before.add a else before) := by
  split
  · exact sound_add hKnown
  · exact sound_refl _

theorem sound_without (id : String) : S.Sound made before (S.without before id) := by
  intro other record hFind
  unfold without at hFind
  split at hFind
  · rw [Store.find?_remove] at hFind
    by_cases hId : other = id
    · rw [if_pos hId] at hFind
      cases hFind
    · rw [if_neg hId] at hFind
      exact .inl hFind
  · exact .inl hFind

theorem Sound.trans {middle : Store δ} (hFirst : S.Sound made before middle)
    (hSecond : S.Sound made middle after) : S.Sound made before after := by
  intro id record hFind
  rcases hSecond id record hFind with hMiddle | hKnown
  · exact hFirst id record hMiddle
  · exact .inr hKnown

/-- A wire value that was issued for a known authenticator is vouched for as soon as the store has the
record of that. -/
theorem vouched_add {raw : String} (hKnown : S.Known made a) (hIssues : S.Issues a raw) :
    S.Vouched made (if S.isStored then before.add a else before) raw := by
  refine ⟨a, hKnown, hIssues, fun hStored record hFind => ?_⟩
  rw [if_pos hStored, Store.find?_add, if_pos rfl] at hFind
  obtain rfl := Option.some.inj hFind
  exact hKnown

theorem issue_vouched (hKnown : S.Known made a) (s : σ) :
    S.Sound made (h.store s) (h.store (h.run (S.carrier.issue a) s).2) ∧
      ∀ raw, (h.run (S.carrier.issue a) s).1 = .ok raw →
        S.Vouched made (h.store (h.run (S.carrier.issue a) s).2) raw := by
  have hOutcome := S.issue_outcome h a s
  cases hIssue : (h.run (S.carrier.issue a) s).1 with
  | error cause =>
    obtain ⟨hSame, -⟩ := hOutcome.failed cause hIssue
    refine ⟨?_, fun raw hRaw => by cases hRaw⟩
    rw [hSame]
    exact sound_refl _
  | ok issued =>
    obtain ⟨hIssues, hStore⟩ := hOutcome.issued issued hIssue
    rw [hStore]
    refine ⟨sound_kept hKnown, fun raw hRaw => ?_⟩
    obtain rfl := Except.ok.inj hRaw
    exact vouched_add hKnown hIssues

theorem reissue_vouched (hKnown : S.Known made a) (s : σ) :
    S.Sound made (h.store s) (h.store (h.run (S.carrier.reissue a) s).2) ∧
      ∀ raw, (h.run (S.carrier.reissue a) s).1 = .ok (some raw) →
        S.Vouched made (h.store (h.run (S.carrier.reissue a) s).2) raw := by
  have hOutcome := S.reissue_outcome h a s
  cases hReissue : (h.run (S.carrier.reissue a) s).1 with
  | error cause =>
    obtain ⟨hSame, -⟩ := hOutcome.refused cause hReissue
    refine ⟨?_, fun raw hRaw => by cases hRaw⟩
    rw [hSame]
    exact sound_refl _
  | ok given =>
    obtain ⟨hReissues, hStore⟩ := hOutcome.written given hReissue
    rw [hStore]
    refine ⟨sound_kept hKnown, fun raw hRaw => ?_⟩
    obtain rfl := Except.ok.inj hRaw
    exact vouched_add hKnown (issues_of_reissues hReissues)

theorem revoke_sound (id : String) (s : σ) :
    S.Sound made (h.store s) (h.store (h.run (S.carrier.revoke id) s).2) := by
  rcases S.revoke_outcome h id s with ⟨-, hStore, -⟩ | ⟨fault, -, hStore, -⟩
  · rw [hStore]
    exact sound_without id
  · rw [hStore]
    exact sound_refl _

/-! ## Every run -/

theorem Invariant.record (hInvariant : S.Invariant l before) {new given : Option (Authenticator δ)}
    {issued : Option String} (hNew : ∀ m, new = some m → ∃ request, S.IsNew request m)
    (hGiven : ∀ a, given = some a → S.Known (l.made ++ new.toList) a)
    (hIssued : ∀ raw, issued = some raw → S.Vouched (l.made ++ new.toList) after raw)
    (hSound : S.Sound (l.made ++ new.toList) before after) :
    S.Invariant (l.record new given issued) after where
  made m hMade := by
    rcases List.mem_append.mp hMade with hOld | hAdded
    · exact hInvariant.made m hOld
    · exact hNew m (Option.mem_toList.mp hAdded)
  held a hHeld := by
    rcases List.mem_append.mp hHeld with hOld | hAdded
    · exact (hInvariant.held a hOld).mono (List.subset_append_left _ _)
    · exact hGiven a (Option.mem_toList.mp hAdded)
  issued raw hRaw := by
    rcases List.mem_append.mp hRaw with hOld | hAdded
    · exact (hInvariant.issued raw hOld).mono (List.subset_append_left _ _) hSound
    · exact hIssued raw (Option.mem_toList.mp hAdded)

theorem toOption_eq_some {ε α : Type} {x : Except ε α} {y : α} (h : x.toOption = some y) :
    x = .ok y := by
  cases x with
  | error e => cases h
  | ok z => exact congrArg Except.ok (Option.some.inj h)

/-- What is retrieved by an issued wire value is valid and an authenticator that was made, as it is
kept. -/
theorem Invariant.retrieved (hInvariant : S.Invariant l (h.store s)) {request : Request}
    (hIssued : ∀ raw, S.carrier.locate request = some raw → raw ∈ l.issued)
    {found : Authenticator δ} (hFound : (h.run (S.carrier.retrieve request) s).1 = .ok (some found)) :
    (∃ m ∈ l.made, ∃ t, found = (S.kept m).usedAt t) ∧ found.isValid (h.clock s) = true := by
  obtain ⟨raw, hLocate, hRead, -, hValid⟩ := read_of_retrieve hFound
  obtain ⟨a, hKnown, hIssues, hRecord⟩ := hInvariant.issued raw (hIssued raw hLocate)
  refine ⟨?_, hValid⟩
  rcases read_of_issues (hInvariant.plain hKnown) hIssues (h.store s) with
    hSame | ⟨⟨error, hError⟩, -⟩
  · have hSame := Except.ok.inj (hSame.symm.trans hRead)
    by_cases hStored : S.isStored = true
    · rw [if_pos hStored] at hSame
      have hKept := (hRecord hStored found hSame).kept
      rwa [kept_of_stored hStored] at hKept
    · rw [if_neg hStored] at hSame
      rw [← Option.some.inj hSame]
      exact hKnown.kept
  · cases hError.symm.trans hRead

theorem invariant_step (hInvariant : S.Invariant l (h.store s)) (hStep : S.Step h l s l' s') :
    S.Invariant l' (h.store s') := by
  have hNothing (made : List (Authenticator δ)) (a : Authenticator δ) :
      (none : Option (Authenticator δ)) = some a → S.Known made a := fun hSome => by cases hSome
  have hNobody (m : Authenticator δ) :
      (none : Option (Authenticator δ)) = some m → ∃ request, S.IsNew request m :=
    fun hSome => by cases hSome
  cases hStep with
  | waits s' hStore =>
    rw [hStore]
    exact hInvariant
  | creates login request =>
    rw [h.store_run_quiet (S.carrier.quiet_create login request)]
    refine hInvariant.record (fun m hMade => ?_) (fun a hMade => ?_)
      (fun raw hRaw => by cases hRaw) (sound_refl _)
    · exact ⟨request, (isNew_of_create (toOption_eq_some hMade)).1⟩
    · refine known_of_made (List.mem_append_right _ ?_)
      rw [hMade]
      exact List.mem_singleton_self a
  | starts a hHeld =>
    have hKnown : S.Known (l.made ++ (none : Option (Authenticator δ)).toList) a :=
      (hInvariant.held a hHeld).mono (List.subset_append_left _ _)
    obtain ⟨hSound, hVouched⟩ := issue_vouched (h := h) hKnown s
    rw [Carrier.state_start]
    refine hInvariant.record hNobody (hNothing _) (fun raw hRaw => ?_) hSound
    rw [wire_issued (S.carrier.run_start h a s)] at hRaw
    exact hVouched raw (toOption_eq_some hRaw)
  | retrieves request hIssued =>
    rw [S.store_retrieve h]
    refine hInvariant.record hNobody (fun a hGiven => ?_) (fun raw hRaw => by cases hRaw)
      (sound_refl _)
    have hFound := toOption_eq_some (Option.join_eq_some_iff.mp hGiven)
    obtain ⟨⟨m, hMade, t, hSame⟩, -⟩ := hInvariant.retrieved hIssued hFound
    exact ⟨m, List.mem_append_left _ hMade, t, .inr hSame⟩
  | touches a hHeld =>
    obtain ⟨hTouched, hStore⟩ := S.carrier.run_touch h a s
    rw [hStore]
    refine hInvariant.record hNobody (fun b hGiven => ?_) (fun raw hRaw => by cases hRaw)
      (sound_refl _)
    obtain rfl := Option.some.inj hGiven
    rw [hTouched, Authenticator.touch_value]
    exact ((hInvariant.held a hHeld).mono (List.subset_append_left _ _)).usedAt _
  | updates a response hHeld =>
    have hKnown : S.Known (l.made ++ (none : Option (Authenticator δ)).toList) a :=
      (hInvariant.held a hHeld).mono (List.subset_append_left _ _)
    obtain ⟨hSound, hVouched⟩ := reissue_vouched (h := h) hKnown s
    rw [(S.carrier.run_update h a response s).2]
    refine hInvariant.record hNobody (hNothing _) (fun raw hRaw => ?_) hSound
    exact hVouched raw (toOption_eq_some (Option.join_eq_some_iff.mp hRaw))
  | renews a request response hHeld =>
    have hPlain := hInvariant.plain (hInvariant.held a hHeld)
    rw [(S.carrier.run_renew h a request response s).2]
    cases hRenewed : S.carrier.renewed? h a request s with
    | none =>
      obtain ⟨⟨error, hError⟩, hStore⟩ := S.carrier.run_renewValue_of_none h hRenewed
      rw [hStore, hError]
      exact hInvariant.record hNobody (hNothing _) (fun raw hRaw => by cases hRaw)
        (revoke_sound a.id s)
    | some fresh =>
      -- the record of the old one is gone by now, and the fresh one is in the ledger of this step
      obtain ⟨hResult, hAfter, hCreate, hRevoked⟩ := S.carrier.run_renewValue_of_some h hRenewed
      rw [successor_of_plain hPlain] at hResult hAfter
      have hKnown : S.Known (l.made ++ (some fresh).toList) fresh :=
        known_of_made (List.mem_append_right _ (List.mem_singleton_self fresh))
      obtain ⟨hSound, hVouched⟩ :=
        issue_vouched (h := h) hKnown (S.carrier.renewing h a request s)
      rw [hRevoked] at hSound
      rw [hAfter]
      refine hInvariant.record (fun m hMade => ?_) (hNothing _) (fun raw hRaw => ?_)
        ((revoke_sound a.id s).trans hSound)
      · obtain rfl := Option.some.inj hMade
        exact ⟨request, (isNew_of_create hCreate).1⟩
      · rw [wire_issued hResult] at hRaw
        exact hVouched raw (toOption_eq_some hRaw)
  | discards a response hHeld =>
    rw [(S.carrier.run_discard h a response s).2]
    refine ⟨hInvariant.made, hInvariant.held, fun raw hRaw => ?_⟩
    exact (hInvariant.issued raw hRaw).mono (List.Subset.refl _) (revoke_sound a.id s)

theorem invariant_run (hRun : S.Run h start l s) : S.Invariant l (h.store s) := by
  induction hRun with
  | nil =>
    refine ⟨fun m hMade => ?_, fun a hHeld => ?_, fun raw hRaw => ?_⟩
    · cases hMade
    · cases hHeld
    · cases hRaw
  | snoc _ hStep ih => exact invariant_step ih hStep

/-- Whatever is retrieved after any run of a service is the authenticator that was made under its
identifier, as it is kept and at another time of use: its identifier, login, details, expiry and
idle timeout are those it was made with, on the services without a store with their times in whole
seconds. So it is never retrieved at or after the expiry it was made with, however often it was
touched and written back. -/
theorem identity_constant (hRun : S.Run h start l s) (hDistinct : (l.made.map (·.id)).Nodup)
    {request : Request} (hIssued : ∀ raw, S.carrier.locate request = some raw → raw ∈ l.issued)
    {found : Authenticator δ} (hFound : (h.run (S.carrier.retrieve request) s).1 = .ok (some found)) :
    ∃ m, (∀ other, other ∈ l.made ∧ other.id = found.id ↔ other = m) ∧
      found = { S.kept m with lastUsed := found.lastUsed } ∧ h.clock s < m.expires := by
  obtain ⟨⟨m, hMade, t, hSame⟩, hValid⟩ := (invariant_run hRun).retrieved hIssued hFound
  have hId : found.id = m.id := by
    rw [hSame]
    exact S.id_kept m
  have hExpires : found.expires = S.keptTime m.expires := by
    rw [hSame]
    exact S.expires_kept m
  refine ⟨m, fun other => ⟨fun hOther => ?_, fun hOther => ?_⟩, ?_, ?_⟩
  · exact List.inj_on_of_nodup_map hDistinct hOther.1 hMade (hOther.2.trans hId)
  · rw [hOther]
    exact ⟨hMade, hId.symm⟩
  · rw [hSame]
    rfl
  · have hAhead : h.clock s < found.expires := (Authenticator.isValid_iff.mp hValid).1
    have hLe : (S.keptTime m.expires).nanoseconds ≤ m.expires.nanoseconds := S.keptTime_le m.expires
    rw [hExpires] at hAhead
    exact Int.lt_of_lt_of_le hAhead hLe

/-- A bearer token that is used and written back a second after its login, and found again. -/
theorem identity_constant_of_touched_token :
    let S : Service Unit String := .bearer { idle := some ⟨2000000000, by decide, by decide⟩ }
    let h : Host Unit (Surroundings Unit) := Surroundings.steady
    let start : Surroundings Unit := { generators := [.listed ["id"]] }
    let request : Request := { headers := [(defaultTokenHeader, ⟨[105, 100], by decide⟩)] }
    ∃ l s found, S.Run h start l s ∧ (h.run (S.carrier.retrieve request) s).1 = .ok (some found) ∧
      found.lastUsed = ⟨1000000000, by decide, by decide⟩ ∧
      ∃ m, (∀ other, other ∈ l.made ∧ other.id = found.id ↔ other = m) ∧
        found = { S.kept m with lastUsed := found.lastUsed } ∧ h.clock s < m.expires := by
  intro S h start request
  have hStart : S.Run h start {} start := .nil
  have hCreated := hStart.snoc (.creates ⟨"provider", "key"⟩ {})
  let a := S.carrier.record "id" ⟨"provider", "key"⟩ .epoch ⟨43200000000000, by decide, by decide⟩ {}
  have hStarted := hCreated.snoc (.starts a (List.mem_singleton_self a))
  let later := (h.run (S.carrier.start a)
    (h.run (S.carrier.create ⟨"provider", "key"⟩ {}) start).2).2
  let waited := { later with clock := ⟨1000000000, by decide, by decide⟩ }
  have hTouched := (hStarted.snoc (.waits waited rfl)).snoc (.touches a (List.mem_singleton_self a))
  let touched := a.usedAt ⟨1000000000, by decide, by decide⟩
  let written := (h.run (S.carrier.update touched {}) (h.run (S.carrier.touch a) waited).2).2
  have hWritten := hTouched.snoc (.updates touched {} (List.mem_cons_of_mem a List.mem_cons_self))
  have hFound : (h.run (S.carrier.retrieve request) written).1 = .ok (some touched) := rfl
  refine ⟨_, written, touched, hWritten, hFound, rfl, ?_⟩
  refine identity_constant hWritten (List.nodup_singleton "id") (fun raw hLocate => ?_) hFound
  obtain rfl : "id" = raw := Option.some.inj hLocate
  exact List.mem_singleton_self "id"

end Service

end WebLogin
