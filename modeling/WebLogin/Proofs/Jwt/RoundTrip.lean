import WebLogin.Proofs.Jwt.Codec
import WebLogin.Surroundings

/-!
# Authenticators through a token

A token is written and read with the same codec and the same settings, whatever the surroundings
answer while it is written.

* `clash?_eq_some_iff`: the name for which an authenticator is not signed.
* `run_encodeFresh`: what is signed otherwise.
* `token_round_trip`: an authenticator with a claim of a reserved name is refused before anything is
  asked of the surroundings, and every other one comes back from its token.
-/

namespace WebLogin.JwtCodec

variable {δ σ : Type}

/-- The name is the first of the reserved ones that the host's claims use. -/
def ClashesOn (a : JwtAuthenticator) (name : String) : Prop :=
  ∃ custom before after, a.details.claims = some custom ∧
    Jwt.reservedNames = before ++ name :: after ∧ name ∈ custom.keys ∧
    ∀ other ∈ before, other ∉ custom.keys

theorem clash?_eq_some_iff {a : JwtAuthenticator} {name : String} :
    clash? a = some name ↔ ClashesOn a name := by
  unfold clash? ClashesOn
  rw [List.find?_eq_some_iff_append, Dictionary.contains_iff]
  have hFree (custom : Dictionary Json) (other : String) :
      (!custom.contains other) = true ↔ other ∉ custom.keys := by
    rw [← Dictionary.contains_iff, Bool.not_eq_true', Bool.not_eq_true]
  cases a.details.claims with
  | none =>
    have hNoKey : name ∉ (Dictionary.empty : Dictionary Json).keys := List.not_mem_nil
    simp [hNoKey]
  | some custom =>
    simp only [Option.getD_some, hFree]
    constructor
    · rintro ⟨hName, before, after, hNames, hBefore⟩
      exact ⟨custom, before, after, rfl, hNames, hName, hBefore⟩
    · rintro ⟨_, before, after, ⟨⟩, hNames, hName, hBefore⟩
      exact ⟨hName, before, after, hNames, hBefore⟩

/-- Without a clash no claim of the host's has a reserved name. -/
theorem unreserved_of_clash?_eq_none {a : JwtAuthenticator} (hClash : clash? a = none) :
    ∀ name ∈ Jwt.reservedNames, name ∉ (a.details.claims.getD .empty).keys := by
  intro name hName hKey
  exact List.find?_eq_none.mp hClash name hName (Dictionary.contains_iff.mpr hKey)

/-- In every run an authenticator without a clash is signed, and its login is under some nonce. -/
theorem run_encodeFresh (c : JwtCodec) (settings : JwtSettings) {a : JwtAuthenticator}
    (answer : (q : Query δ) → σ → q.Answer × σ) (s : σ) (hClash : clash? a = none) :
    ∃ nonce, ((c.encodeFresh settings a).run answer s).1 = .ok (c.token (claimsOf settings a
      ((c.subjectCrypter settings.encryptSubject).encrypt nonce
        (Json.Form.login.render a.login)))) := by
  obtain ⟨nonce, hSubject⟩ := (c.subjectCrypter settings.encryptSubject).run_encryptFresh answer
    (Json.Form.login.render a.login) s
  refine ⟨nonce, ?_⟩
  rw [← hSubject, encodeFresh, hClash]
  simp only [Program.bind_eq, Program.pure_eq, Program.run_bind, subjectFresh, subjectCrypter]
  rfl

theorem portable_of_readable {a : JwtAuthenticator} (hClash : clash? a = none)
    (hReadable : ∀ custom, a.details.claims = some custom → Readable custom) :
    Portable (a.details.claims.getD .empty) := by
  have hUnreserved := unreserved_of_clash?_eq_none hClash
  cases hClaims : a.details.claims with
  | none => exact portable_empty
  | some custom =>
    rw [hClaims] at hUnreserved
    obtain ⟨hSpelled, hUnchecked⟩ := hReadable custom hClaims
    exact ⟨hSpelled, hUnreserved, fun v hMem =>
      absurd (List.mem_map.mpr ⟨_, hMem, rfl⟩) hUnchecked⟩

/-- An authenticator is refused exactly if one of the host's claims has a reserved name, for the first
such name, and then nothing is asked of the surroundings, so that no random byte is drawn. Any other
authenticator is signed. Read with the same codec and the same settings, its token gives it back: the
times rounded down, the idle timeout of the settings, and every claim of the host's, where an empty
list of claims comes back as none. Nothing is said of the token of an expiry before 1970 or of claims
that cannot be read. -/
theorem token_round_trip (c : JwtCodec) (settings : JwtSettings) (a : JwtAuthenticator)
    (answer : (q : Query δ) → σ → q.Answer × σ) (s : σ) :
    (∀ name, ((c.encodeFresh settings a).run answer s).1 = .error (.reservedClaim name) ↔
      ClashesOn a name) ∧
    (∀ name, ClashesOn a name →
      c.encodeFresh settings a = (.done (.error (.reservedClaim name)) : Program δ _)) ∧
    ((∀ name, ¬ClashesOn a name) →
      ∃ token, ((c.encodeFresh settings a).run answer s).1 = .ok token ∧
        (0 ≤ a.expires.nanoseconds →
          (∀ custom, a.details.claims = some custom → Readable custom) →
          c.decode settings token = .ok { a with
            lastUsed := a.lastUsed.floor
            expires := a.expires.floor
            idle := settings.idle
            details := ⟨a.details.claims.filter fun custom => !custom.isEmpty⟩ })) := by
  have hRefused (name : String) (hClash : ClashesOn a name) :
      c.encodeFresh settings a = (.done (.error (.reservedClaim name)) : Program δ _) := by
    rw [encodeFresh, clash?_eq_some_iff.mpr hClash]
    rfl
  cases hClash : clash? a with
  | some found =>
    have hFound : ClashesOn a found := clash?_eq_some_iff.mp hClash
    refine ⟨fun name => ?_, hRefused, fun hNone => absurd hFound (hNone found)⟩
    rw [hRefused found hFound, ← clash?_eq_some_iff, hClash]
    simp
  | none =>
    obtain ⟨nonce, hToken⟩ := c.run_encodeFresh settings answer s hClash
    refine ⟨fun name => ?_, hRefused, fun _ => ⟨_, hToken, fun hEpoch hReadable => ?_⟩⟩
    · rw [hToken, ← clash?_eq_some_iff, hClash]
      simp
    · exact c.decode_token settings (portable_of_readable hClash hReadable)
        (Int.ediv_nonneg hEpoch (by decide)) nonce

/-- A claim that would take the place of the subject is refused, also beside one that comes later in
the order of the names; claims within claims are given back. -/
theorem token_round_trip_of_nested_claims :
    let c : JwtCodec := ⟨List.replicate 32 0, .sealed [], by decide⟩
    let settings : JwtSettings := {}
    let signed (custom : Dictionary Json) : JwtAuthenticator :=
      { id := "id-1", login := ⟨"credentials", "é:\n"⟩, lastUsed := ⟨-1, by decide, by decide⟩
        expires := ⟨1500000000, by decide, by decide⟩, idle := none, details := ⟨some custom⟩ }
    let refused := signed ⟨[("exp", .null), ("sub", .string "admin")], by decide⟩
    let nested := signed
      ⟨[("role", .string "admin"), ("tenant", .object [("id", .ofInt 7)])], by decide⟩
    ((c.encodeFresh settings refused).run Surroundings.answer ({} : Surroundings Unit)).1 =
        .error (.reservedClaim "sub") ∧
      ∃ token, ((c.encodeFresh settings nested).run Surroundings.answer
          ({} : Surroundings Unit)).1 = .ok token ∧
        c.decode settings token = .ok { nested with
          lastUsed := ⟨-1000000000, by decide, by decide⟩
          expires := ⟨1000000000, by decide, by decide⟩ } := by
  intro c settings signed refused nested
  have hClash : ClashesOn refused "sub" := clash?_eq_some_iff.mp (by decide)
  have hFree : ∀ name, ¬ClashesOn nested name := by
    intro name hName
    have hNone : clash? nested = none := by decide
    cases hNone.symm.trans (clash?_eq_some_iff.mpr hName)
  have hReadable : ∀ custom, nested.details.claims = some custom → Readable custom := by
    rintro _ ⟨⟩
    refine ⟨⟨?_, ?_, by decide⟩, by decide⟩
    · exact ⟨trivial, ⟨Json.Form.exact_ofInt (by decide) (by decide), trivial⟩, trivial⟩
    · exact ⟨by decide, trivial, ⟨by decide, trivial, trivial⟩, trivial⟩
  have hRefused := c.token_round_trip settings refused Surroundings.answer ({} : Surroundings Unit)
  have hNested := c.token_round_trip settings nested Surroundings.answer ({} : Surroundings Unit)
  obtain ⟨token, hToken, hRead⟩ := hNested.2.2 hFree
  exact ⟨(hRefused.1 "sub").mpr hClash, token, hToken, hRead (by decide) hReadable⟩

end WebLogin.JwtCodec
