import WebLogin.Proofs.Authenticator.Rounding
import WebLogin.Proofs.Lifecycle.Service
import WebLogin.Proofs.Settings.Environment

/-!
# When an authenticator can be made

An authenticator is made unless there is no identifier for it or its expiry is no instant. Spans that come
from variables are short enough for that, as long as the clock is not in the last hundred years.

* `Instant.add?_eq_some_iff`, `Instant.add?_eq_none_iff`: a span after an instant is exact or none.
* `Carrier.create_eq_error_iff`, `Carrier.exists_create_error_iff`: the two ways in which nothing is made.
* `Service.Configured`, `settable_of_configured`: services whose settings are read from variables, and
  their spans.
* `create_spans`: what is made with settings from variables, which texts are spans, and when nothing is
  made, whatever the settings are.
-/

namespace WebLogin

/-! ## A span after an instant -/

namespace Instant

/-- The nanoseconds since the start of 1970 that are an instant. -/
def InRange (n : Int) : Prop := -377705116800 * 1000000000 ≤ n ∧ n < 253402300800 * 1000000000

/-- The last nanosecond of the year 9999. -/
def greatest : Instant := ⟨253402300800 * 1000000000 - 1, by decide, by decide⟩

variable {t u : Instant} {d : Duration}

theorem add?_eq_some_iff : t.add? d = some u ↔ u.nanoseconds = t.nanoseconds + d.nanoseconds := by
  constructor
  · exact nanoseconds_of_add?
  · intro hSum
    have hRange : InRange (t.nanoseconds + d.nanoseconds) := hSum ▸ ⟨u.lower, u.upper⟩
    exact (dif_pos hRange).trans (congrArg some (ext hSum.symm))

theorem add?_eq_none_iff : t.add? d = none ↔ ¬InRange (t.nanoseconds + d.nanoseconds) := by
  constructor
  · intro hNone hRange
    have hSome : t.add? d = some ⟨t.nanoseconds + d.nanoseconds, hRange.1, hRange.2⟩ :=
      add?_eq_some_iff.mpr rfl
    rw [hNone] at hSome
    cases hSome
  · exact fun hNot => dif_neg hNot

end Instant

namespace Carrier

variable {δ ν σ : Type} {c : Carrier δ ν} {h : Host δ σ} {login : Login} {request : Request} {s : σ}

/-- What is made ends one expiry after the clock. -/
theorem create_eq_ok_iff {a : Authenticator δ} :
    (h.run (c.create login request) s).1 = .ok a ↔
      (h.answer (.freshId generator) s).1 = .ok a.id ∧
        (h.clock s).add? c.expiry = some a.expires ∧
          a = c.record a.id login (h.clock s) a.expires request := by
  rw [run_create]
  cases (h.answer (.freshId generator) s).1 with
  | error fault => exact iff_of_false (fun h => by cases h) fun h => (by cases h.1)
  | ok id =>
    cases (h.clock s).add? c.expiry with
    | none => exact iff_of_false (fun h => by cases h) fun h => (by cases h.2.1)
    | some expires =>
      constructor
      · intro hMade
        cases hMade
        exact ⟨rfl, rfl, rfl⟩
      · rintro ⟨hId, hExpires, hRecord⟩
        obtain rfl := Except.ok.inj hId
        obtain rfl := Option.some.inj hExpires
        exact congrArg Except.ok hRecord.symm

/-- Nothing is made for want of an identifier, or of an instant to end at. -/
theorem create_eq_error_iff {error : LifecycleError} :
    (h.run (c.create login request) s).1 = .error error ↔
      (∃ fault, (h.answer (.freshId generator) s).1 = .error fault ∧
        error = c.failure .creation (.generator fault)) ∨
      (∃ id, (h.answer (.freshId generator) s).1 = .ok id) ∧
        ¬Instant.InRange ((h.clock s).nanoseconds + c.expiry.nanoseconds) ∧
          error = c.failure .creation (.expiry c.expiry) := by
  rw [run_create, ← Instant.add?_eq_none_iff]
  cases (h.answer (.freshId generator) s).1 with
  | error fault => simp [eq_comm]
  | ok id => cases (h.clock s).add? c.expiry <;> simp [eq_comm]

/-- The creation fails exactly if there is no identifier, or no instant to end at. -/
theorem exists_create_error_iff :
    (∃ cause, (h.run (c.create login request) s).1 = .error (c.failure .creation cause)) ↔
      (∃ fault, (h.answer (.freshId generator) s).1 = .error fault) ∨
        ¬Instant.InRange ((h.clock s).nanoseconds + c.expiry.nanoseconds) := by
  constructor
  · rintro ⟨cause, hMade⟩
    rcases create_eq_error_iff.mp hMade with ⟨fault, hFault, -⟩ | ⟨-, hRange, -⟩
    · exact .inl ⟨fault, hFault⟩
    · exact .inr hRange
  · intro hObstacle
    cases hId : (h.answer (.freshId generator) s).1 with
    | error fault => exact ⟨_, create_eq_error_iff.mpr (.inl ⟨fault, hId, rfl⟩)⟩
    | ok id =>
      rcases hObstacle with ⟨fault, hFault⟩ | hRange
      · rw [hId] at hFault
        cases hFault
      · exact ⟨_, create_eq_error_iff.mpr (.inr ⟨⟨id, hId⟩, hRange, rfl⟩)⟩

theorem exists_cause_of_create {error : LifecycleError}
    (hError : (h.run (c.create login request) s).1 = .error error) :
    ∃ cause, error = c.failure .creation cause := by
  rcases create_eq_error_iff.mp hError with ⟨fault, -, rfl⟩ | ⟨-, -, rfl⟩
  · exact ⟨_, rfl⟩
  · exact ⟨_, rfl⟩

end Carrier

namespace Service

variable {δ ν σ : Type}

/-! ## Settings from variables -/

/-- The settings of a service are those that the variables give. -/
def Configured : Service δ ν → Environment → Prop
  | cookie settings _ _, env => CookieSettings.ofEnvironment env = .ok settings
  | session settings _ _, env => SessionSettings.ofEnvironment env = .ok settings
  | bearer settings, env => BearerSettings.ofEnvironment env = .ok settings
  | jwt settings _ _, env => JwtSettings.ofEnvironment env = .ok settings

variable {S : Service δ ν} {env : Environment}

/-- The spans of settings that are read from variables. -/
theorem settable_of_configured (h : S.Configured env) :
    S.carrier.expiry.Settable ∧ ∀ timeout, S.carrier.idle = some timeout → timeout.Settable := by
  cases S with
  | cookie settings keeping fingerprint =>
    simp only [Configured, CookieSettings.ofEnvironment, Except.bind_eq_ok_iff,
      Except.pure_eq_ok_iff] at h
    obtain ⟨_, _, _, _, _, _, idle, hIdle, expiry, hExpiry, rfl⟩ := h
    exact Environment.settable_spans hIdle hExpiry
  | session settings codec fingerprint =>
    simp only [Configured, SessionSettings.ofEnvironment, Except.bind_eq_ok_iff,
      Except.pure_eq_ok_iff] at h
    obtain ⟨_, _, idle, hIdle, expiry, hExpiry, rfl⟩ := h
    exact Environment.settable_spans hIdle hExpiry
  | bearer settings =>
    simp only [Configured, BearerSettings.ofEnvironment, Except.bind_eq_ok_iff,
      Except.pure_eq_ok_iff] at h
    obtain ⟨_, _, _, _, idle, hIdle, expiry, hExpiry, rfl⟩ := h
    exact Environment.settable_spans hIdle hExpiry
  | jwt settings codec stored =>
    simp only [Configured, JwtSettings.ofEnvironment, Except.bind_eq_ok_iff,
      Except.pure_eq_ok_iff] at h
    obtain ⟨_, _, _, _, _, _, idle, hIdle, expiry, hExpiry, rfl⟩ := h
    exact Environment.settable_spans hIdle hExpiry

/-! ## What is made -/

/-- With settings from variables, and a hundred years left, an authenticator is made for every identifier.
It ends one expiry after the clock and is valid. -/
theorem create_of_configured (hConfigured : S.Configured env) {h : Host δ σ} {s : σ}
    (hClock : (h.clock s).nanoseconds + greatestSeconds * 1000000000 ≤ Instant.greatest.nanoseconds)
    (login : Login) (request : Request) {id : String}
    (hId : (h.answer (.freshId Carrier.generator) s).1 = .ok id) :
    ∃ a, (h.run (S.carrier.create login request) s).1 = .ok a ∧
      a.expires.nanoseconds = (h.clock s).nanoseconds + S.carrier.expiry.nanoseconds ∧
        h.clock s < a.expires ∧ a.isValid (h.clock s) = true := by
  obtain ⟨⟨hLeast, hMost⟩, hIdle⟩ := settable_of_configured hConfigured
  have hLower := (h.clock s).lower
  have hEnd : Instant.greatest.nanoseconds = 253402300800 * 1000000000 - 1 := rfl
  have hRange : Instant.InRange ((h.clock s).nanoseconds + S.carrier.expiry.nanoseconds) := by
    unfold Instant.InRange
    omega
  let expires : Instant := ⟨_, hRange.1, hRange.2⟩
  have hExpires : (h.clock s).add? S.carrier.expiry = some expires := Instant.add?_eq_some_iff.mpr rfl
  refine ⟨S.carrier.record id login (h.clock s) expires request,
    Carrier.create_eq_ok_iff.mpr ⟨hId, hExpires, rfl⟩, rfl, ?_, ?_⟩
  · change (h.clock s).nanoseconds < (h.clock s).nanoseconds + S.carrier.expiry.nanoseconds
    omega
  · exact Authenticator.isValid_new hExpires hLeast fun timeout hTimeout => (hIdle timeout hTimeout).1

/-- Settings from variables never make an expiry overflow: while a hundred years are left, only the lack of
an identifier keeps an authenticator from being made, and what is made ends exactly one expiry after the
clock and is valid. The spans are those of the texts that are decimal numbers from one to the greatest; all
other texts are refused. Whatever the settings are, nothing is made exactly if there is no identifier or
the expiry is no instant. -/
theorem create_spans (S : Service δ ν) (h : Host δ σ) (login : Login) (request : Request) (s : σ) :
    let made := (h.run (S.carrier.create login request) s).1
    (∀ env, S.Configured env →
      (h.clock s).nanoseconds + greatestSeconds * 1000000000 ≤ Instant.greatest.nanoseconds →
        match (h.answer (.freshId Carrier.generator) s).1 with
        | .error fault => made = .error (S.carrier.failure .creation (.generator fault))
        | .ok _ => ∃ a, made = .ok a ∧
          a.expires.nanoseconds = (h.clock s).nanoseconds + S.carrier.expiry.nanoseconds ∧
            h.clock s < a.expires ∧ a.isValid (h.clock s) = true) ∧
      (∀ text,
        (∀ d, Variable.seconds text = .ok d ↔
          ∃ n, Integer.Denotes (Text.trimChars text.toList) n ∧ 1 ≤ n ∧ n ≤ greatestSeconds ∧
            d.nanoseconds = n * 1000000000) ∧
        ((∀ n, Integer.Denotes (Text.trimChars text.toList) n → n < 1 ∨ greatestSeconds < n) →
          ∃ fault, Variable.seconds text = .error fault ∧
            ∀ (env : Environment) name, env.text? name = some text →
              env.read? Variable.seconds name = .error (.refused name fault))) ∧
      ((∃ cause, made = .error (S.carrier.failure .creation cause)) ↔
        (∃ fault, (h.answer (.freshId Carrier.generator) s).1 = .error fault) ∨
          ¬Instant.InRange ((h.clock s).nanoseconds + S.carrier.expiry.nanoseconds)) ∧
      ∀ error, made = .error error → ∃ cause, error = S.carrier.failure .creation cause := by
  intro made
  refine ⟨fun env hConfigured hClock => ?_, fun text => ⟨fun d => Variable.seconds_eq_ok_iff,
    fun hOther => ?_⟩, Carrier.exists_create_error_iff, fun error => Carrier.exists_cause_of_create⟩
  · cases hId : (h.answer (.freshId Carrier.generator) s).1 with
    | error fault => exact Carrier.create_eq_error_iff.mpr (.inl ⟨fault, hId, rfl⟩)
    | ok id => exact create_of_configured hConfigured hClock login request hId
  · obtain ⟨fault, hRead⟩ := Variable.exists_fault hOther
    exact ⟨fault, hRead, fun env name hText => Environment.read?_of_error hText hRead⟩

/-- A minute that is set with a sign, zeros and blanks around it. -/
theorem create_spans_of_minute :
    let env : Environment := .ofList [("AUTH_COOKIE_EXPIRY_SECS", " +0060 ")]
    let S : Service CookieDetails Cookie :=
      .cookie { expiry := ⟨60000000000, by decide, by decide⟩ } .storeBacked fun _ => ""
    let s : Surroundings CookieDetails := { generators := [.numbered 1] }
    let login : Login := ⟨"credentials", "alice@example.com"⟩
    S.Configured env ∧
      ∃ a, (Surroundings.steady.run (S.carrier.create login {}) s).1 = .ok a ∧
        a.expires.nanoseconds = 60000000000 ∧ a.isValid .epoch = true ∧
          ∃ fault, Variable.seconds "-60" = .error fault := by
  intro env S s login
  have hConfigured : S.Configured env := by rfl
  have hOther : ∀ n, Integer.Denotes (Text.trimChars "-60".toList) n → n < 1 ∨ greatestSeconds < n := by
    intro n hDenotes
    have hTrimmed : Text.trimChars "-60".toList = '-' :: "60".toList := by decide
    rw [hTrimmed, Integer.denotes_iff_of_no_plus fun rest h => (by cases h)] at hDenotes
    exact absurd (hDenotes.2.1 '-' List.mem_cons_self) (by decide)
  obtain ⟨hMade, hTexts, -⟩ := S.create_spans Surroundings.steady login {} s
  obtain ⟨a, hRun, hExpires, -, hValid⟩ := hMade env hConfigured (by decide)
  obtain ⟨fault, hRefused, -⟩ := (hTexts "-60").2 hOther
  exact ⟨hConfigured, a, hRun, hExpires, hValid, fault, hRefused⟩

end Service

end WebLogin
