import WebLogin.Proofs.Jwt.RoundTrip
import WebLogin.Proofs.Signed.RoundTrip

/-!
# Rounds of writing and reading

An authenticator that is kept in its wire value alone is written and read again with each request. The
first round rounds its times, and the later ones find nothing more to round.

* `WireForm`, `WireForm.rounds`: the three kinds of wire value, and so many rounds in a row.
* `Authenticator.Coarsens`: what any number of rounds leaves (`coarsens_of_round`, `Coarsens.trans`).
* `Coarsens.isValid_of_isValid`, `Coarsens.isValid_of_later`: the expiry and the last use go down, and the
  timeout goes down too unless it is negative; so validity ends earlier, but by less than two seconds.
* `WireForm.rounds_within_two_seconds`: both, for every kind of wire value and any number of rounds.
-/

namespace WebLogin

variable {δ γ σ : Type}

/-- A timeout that is not negative, if there is one. -/
def Authenticator.Forward (idle : Option Duration) : Prop :=
  ∀ timeout, idle = some timeout → 0 ≤ timeout.nanoseconds

namespace Authenticator

/-! ## Coarser records -/

/-- The second record is the first with its times rounded to seconds; the timeout is cut or left. -/
structure Coarsens (a b : Authenticator δ) : Prop where
  lastUsed : b.lastUsed = a.lastUsed.floor
  expires : b.expires = a.expires.floor
  idle : b.idle = a.idle ∨ b.idle = a.idle.map Duration.cut

variable {a b c : Authenticator δ}

theorem coarsens_rounded_cut (a : Authenticator δ) (details : δ) :
    a.Coarsens (a.rounded (a.idle.map Duration.cut) details) :=
  ⟨rfl, rfl, .inr rfl⟩

theorem coarsens_rounded (a : Authenticator δ) (details : δ) :
    a.Coarsens (a.rounded a.idle details) :=
  ⟨rfl, rfl, .inl rfl⟩

theorem Coarsens.trans (hFirst : a.Coarsens b) (hSecond : b.Coarsens c) : a.Coarsens c where
  lastUsed := by rw [hSecond.lastUsed, hFirst.lastUsed, Instant.floor_floor]
  expires := by rw [hSecond.expires, hFirst.expires, Instant.floor_floor]
  idle := by
    rcases hFirst.idle with hSame | hCut
    · rw [← hSame]
      exact hSecond.idle
    · rcases hSecond.idle with hSame | hAgain
      · exact .inr (hSame.trans hCut)
      · right
        rw [hAgain, hCut, Duration.map_cut_cut]

/-- A timeout that is not negative loses less than a second. -/
theorem Coarsens.timeouts (h : a.Coarsens b) (hForward : Forward a.idle) :
    Option.Rel (fun d e => 0 ≤ e.nanoseconds ∧ e.nanoseconds ≤ d.nanoseconds ∧
      d.nanoseconds < e.nanoseconds + 1000000000) a.idle b.idle := by
  cases hIdle : a.idle with
  | none =>
    rcases h.idle with hSame | hCut
    · rw [hSame, hIdle]
      exact .none
    · rw [hCut, hIdle]
      exact .none
  | some d =>
    have hLeast := hForward d hIdle
    rcases h.idle with hSame | hCut
    · rw [hSame, hIdle]
      exact .some ⟨hLeast, Int.le_refl _, by omega⟩
    · rw [hCut, hIdle]
      obtain ⟨hPositive, hBelow⟩ := d.cutsTo_cut.forward hLeast
      have hClose := d.cutsTo_cut.close
      exact .some ⟨hPositive, hBelow, by omega⟩

theorem Coarsens.forward (h : a.Coarsens b) (hForward : Forward a.idle) : Forward b.idle := by
  intro timeout hTimeout
  have hTimeouts := h.timeouts hForward
  rw [hTimeout] at hTimeouts
  generalize a.idle = idle at hTimeouts
  cases hTimeouts with
  | some hNear => exact hNear.1

/-- The coarser record is never valid when the finer one is not. -/
theorem Coarsens.isValid_of_isValid (h : a.Coarsens b) (hForward : Forward a.idle) {t : Instant}
    (hValid : b.isValid t = true) : a.isValid t = true := by
  obtain ⟨hAhead, hFresh⟩ := isValid_iff.mp hValid
  rw [h.expires] at hAhead
  rw [h.lastUsed] at hFresh
  have hEnd := a.expires.floor_le
  have hUse := a.lastUsed.floor_le
  refine isValid_iff.mpr ⟨?_, fun timeout hTimeout => ?_⟩
  · change t.nanoseconds < a.expires.floor.nanoseconds at hAhead
    change t.nanoseconds < a.expires.nanoseconds
    omega
  · have hTimeouts := h.timeouts hForward
    rw [hTimeout] at hTimeouts
    generalize hIdle : b.idle = idle at hTimeouts
    cases hTimeouts with
    | some hNear =>
      have hWithin := hFresh _ hIdle
      unfold Instant.since at hWithin ⊢
      omega

/-- The coarser record is valid whenever the finer one is still valid two seconds later. -/
theorem Coarsens.isValid_of_later (h : a.Coarsens b) (hForward : Forward a.idle) {t later : Instant}
    (hLater : later.nanoseconds = t.nanoseconds + 2000000000) (hValid : a.isValid later = true) :
    b.isValid t = true := by
  obtain ⟨hAhead, hFresh⟩ := isValid_iff.mp hValid
  have hEnd := a.expires.lt_floor_add_second
  have hUse := a.lastUsed.lt_floor_add_second
  refine isValid_iff.mpr ⟨?_, fun timeout hTimeout => ?_⟩
  · change later.nanoseconds < a.expires.nanoseconds at hAhead
    rw [h.expires]
    change t.nanoseconds < a.expires.floor.nanoseconds
    omega
  · have hTimeouts := h.timeouts hForward
    rw [hTimeout] at hTimeouts
    generalize hIdle : a.idle = idle at hTimeouts
    cases hTimeouts with
    | some hNear =>
      have hWithin := hFresh _ hIdle
      rw [h.lastUsed]
      unfold Instant.since at hWithin ⊢
      omega

end Authenticator

/-! ## Wire values -/

/-- The ways to keep an authenticator in a wire value alone. -/
inductive WireForm : Type → Type where
  | cookie (codec : SignedCodec) : WireForm CookieDetails
  | session (codec : SignedCodec) : WireForm SessionDetails
  | token (codec : JwtCodec) (settings : JwtSettings) : WireForm JwtDetails

/-- Two seconds. -/
def twoSeconds : Duration := ⟨2000000000, by decide, by decide⟩

namespace WireForm

/-- Writes an authenticator and reads what was written. -/
def round : WireForm δ → Authenticator δ → Program γ (Except CodecError (Authenticator δ))
  | cookie codec, a => do
    return codec.decode Json.Form.cookieAuthenticator
      (← codec.encodeFresh Json.Form.cookieAuthenticator a)
  | session codec, a => do
    return codec.decode Json.Form.sessionAuthenticator
      (← codec.encodeFresh Json.Form.sessionAuthenticator a)
  | token codec settings, a => do
    return (← codec.encodeFresh settings a) >>= codec.decode settings

/-- Writes and reads an authenticator so many times, each time what was read before. -/
def rounds (w : WireForm δ) :
    Nat → Authenticator δ → Program γ (Except CodecError (Authenticator δ))
  | 0, a => return .ok a
  | n + 1, a => do
    match ← w.round a with
    | .error error => return .error error
    | .ok b => w.rounds n b

/-- The authenticators of a wire form: the timeout is not negative, and a token leaves it to the
settings, has no claims of the host's and does not end before 1970. -/
def Carries : WireForm δ → Authenticator δ → Prop
  | cookie _, a => Authenticator.Forward a.idle
  | session _, a => Authenticator.Forward a.idle
  | token _ settings, a => Authenticator.Forward a.idle ∧ a.idle = settings.idle ∧
      a.details.claims = none ∧ 0 ≤ a.expires.nanoseconds

theorem Carries.forward {w : WireForm δ} {a : Authenticator δ} (h : w.Carries a) :
    Authenticator.Forward a.idle := by
  cases w with
  | cookie codec => exact h
  | session codec => exact h
  | token codec settings => exact h.1

/-- One round gives a coarser record of the same kind, whatever the random bytes are. -/
theorem coarsens_of_round {w : WireForm δ} {a : Authenticator δ} (h : w.Carries a)
    (answer : (q : Query γ) → σ → q.Answer × σ) (s : σ) :
    ∃ b, ((w.round a).run answer s).1 = .ok b ∧ a.Coarsens b ∧ w.Carries b := by
  cases w with
  | cookie codec =>
    have hCoarsens : a.Coarsens a.fromCookie := a.coarsens_rounded_cut _
    refine ⟨a.fromCookie, ?_, hCoarsens, hCoarsens.forward h⟩
    simp only [round, Program.bind_eq, Program.pure_eq, Program.run_bind, Program.run_done]
    exact codec.decode_encodeFresh answer s (Json.Form.reads_cookieAuthenticator a).parse?_render
  | session codec =>
    have hCoarsens : a.Coarsens a.fromSession := a.coarsens_rounded_cut _
    refine ⟨a.fromSession, ?_, hCoarsens, hCoarsens.forward h⟩
    simp only [round, Program.bind_eq, Program.pure_eq, Program.run_bind, Program.run_done]
    exact codec.decode_encodeFresh answer s (Json.Form.reads_sessionAuthenticator a).parse?_render
  | token codec settings =>
    obtain ⟨hForward, hIdle, hClaims, hEpoch⟩ := h
    have hSeconds : 0 ≤ a.expires.seconds := Int.ediv_nonneg hEpoch (by decide)
    have hClash : JwtCodec.clash? a = none := by
      rw [JwtCodec.clash?, hClaims]
      decide
    obtain ⟨nonce, hToken⟩ := codec.run_encodeFresh settings answer s hClash
    have hCoarsens : a.Coarsens (a.rounded settings.idle ⟨none⟩) := hIdle ▸ a.coarsens_rounded _
    refine ⟨_, ?_, hCoarsens, hCoarsens.forward hForward, rfl, rfl, Int.mul_nonneg hSeconds (by decide)⟩
    simp only [round, Program.pure_eq, Program.run_bind, Program.run_done, hToken, bind, Except.bind]
    exact codec.decode_token_of_none settings hClaims hSeconds nonce

/-- So does any number of rounds from the first on. -/
theorem coarsens_of_rounds {w : WireForm δ} {a : Authenticator δ} (h : w.Carries a) (n : Nat)
    (answer : (q : Query γ) → σ → q.Answer × σ) (s : σ) :
    ∃ b, ((w.rounds (n + 1) a).run answer s).1 = .ok b ∧ a.Coarsens b := by
  induction n generalizing a s with
  | zero =>
    obtain ⟨b, hRound, hCoarsens, -⟩ := coarsens_of_round h answer s
    refine ⟨b, ?_, hCoarsens⟩
    simp only [rounds, Program.bind_eq, Program.run_bind, hRound]
    rfl
  | succ n ih =>
    obtain ⟨b, hRound, hFirst, hCarries⟩ := coarsens_of_round h answer s
    obtain ⟨c, hRounds, hLater⟩ := ih hCarries ((w.round a).run answer s).2
    refine ⟨c, ?_, hFirst.trans hLater⟩
    rw [rounds]
    simp only [Program.bind_eq, Program.run_bind, hRound]
    exact hRounds

/-- To round never lengthens a session and shortens it by less than two seconds. What is read of an
authenticator that was written, and read and written any number of times more, is valid only when the
authenticator itself is, and whenever the authenticator is still valid two seconds later. -/
theorem rounds_within_two_seconds (w : WireForm δ) {a : Authenticator δ} (h : w.Carries a) (n : Nat)
    (answer : (q : Query γ) → σ → q.Answer × σ) (s : σ) :
    ∃ b, ((w.rounds (n + 1) a).run answer s).1 = .ok b ∧
      (∀ t, b.isValid t = true → a.isValid t = true) ∧
      ∀ t later, t.add? twoSeconds = some later → a.isValid later = true → b.isValid t = true := by
  obtain ⟨b, hRounds, hCoarsens⟩ := coarsens_of_rounds h n answer s
  refine ⟨b, hRounds, fun t hValid => ?_, fun t later hLater hValid => ?_⟩
  · exact hCoarsens.isValid_of_isValid h.forward hValid
  · exact hCoarsens.isValid_of_later h.forward (Instant.nanoseconds_of_add? hLater) hValid

/-- A record that was last used half a second before 1970, with a timeout of two and a half seconds, after
three rounds: a fifth of a second before 1970 it is valid, as the record itself still is two seconds
later; 2.2 seconds after 1970 it is not valid, as the record itself is not. -/
theorem rounds_within_two_seconds_about_1970 :
    let w : WireForm SessionDetails := .session ⟨⟨List.replicate 32 0, "", by decide⟩, .plain⟩
    let a : SessionAuthenticator :=
      { id := "id-1", login := ⟨"credentials", "1"⟩, lastUsed := ⟨-500000000, by decide, by decide⟩
        expires := ⟨3900000000, by decide, by decide⟩
        idle := some ⟨2500000000, by decide, by decide⟩, details := ⟨none⟩ }
    w.Carries a ∧ ∃ b, ((w.rounds 3 a).run Surroundings.answer ({} : Surroundings Unit)).1 = .ok b ∧
      b.isValid ⟨-200000000, by decide, by decide⟩ = true ∧
      b.isValid ⟨2200000000, by decide, by decide⟩ = false := by
  intro w a
  have hCarries : w.Carries a := by
    rintro _ ⟨⟩
    decide
  obtain ⟨b, hRounds, hOnly, hStill⟩ :=
    w.rounds_within_two_seconds hCarries 2 Surroundings.answer ({} : Surroundings Unit)
  refine ⟨hCarries, b, hRounds, ?_, ?_⟩
  · exact hStill _ ⟨1800000000, by decide, by decide⟩ (by decide) (by decide)
  · refine Bool.eq_false_iff.mpr fun hValid => ?_
    exact absurd (hOnly _ hValid) (by decide)

end WireForm

end WebLogin
