import WebLogin.Proofs.Jwt.RoundTrip

/-!
# Accepted tokens are signed again

A token may be spelled in any way: with claims in another order, with claims of the host's given twice,
with blanks and escapes, with claims that no authenticator has. What is read of it lies within what can
be signed, so that an authenticator that came out of a token goes into one.

* `ofTree?_eq_some`, `mem_of_customOf?`: the host's claims as they are read.
* `portable_of_ofTree?`: they are claims that a token gives back, if their numbers are kept exactly.
* `ofToken_of_decode`: what is known of every authenticator that came out of a token.
* `decode_reissued`, `encodeFresh_of_decode`: it is signed again, at any time of use, and comes back.
-/

namespace WebLogin.JwtCodec

open Json (Tree)

variable {δ σ : Type}

/-! ## Claims as they are read -/

/-- The claims of a tree, and the tree that they are of: an object that is not too deep, whose keys can
all be read. -/
theorem ofTree?_eq_some {t : Tree} {claims : Jwt.Claims} (h : Jwt.Claims.ofTree? t = some claims) :
    ∃ written members, t = .object written ∧ t.depth ≤ Json.greatestDepth ∧
      Tree.keyed? written = some members ∧ Jwt.Claims.passes members = true ∧
      Jwt.Claims.customOf? members = some claims.custom := by
  unfold Jwt.Claims.ofTree? at h
  cases t with
  | object written =>
    dsimp only at h
    split at h
    · cases h
    next hDepth =>
    obtain ⟨members, hKeyed, h⟩ := Option.bind_eq_some_iff.mp h
    obtain ⟨fields, -, h⟩ := Option.bind_eq_some_iff.mp h
    split at h
    · next id issuer subject issuedAt expires =>
      split at h
      · cases h
      next hPasses =>
      simp only [Option.bind_eq_bind, Option.bind_eq_some_iff] at h
      obtain ⟨_, -, _, -, _, -, _, -, _, -, custom, hCustom, h⟩ := h
      obtain rfl := Option.some.inj h
      exact ⟨written, members, rfl, Nat.not_lt.mp hDepth, hKeyed, by simpa using hPasses, hCustom⟩
    · cases h
  | null => cases h
  | bool b => cases h
  | number n => cases h
  | string s => cases h
  | array elements => cases h

/-- Each of the host's claims is the value of a member whose name is not reserved. -/
theorem mem_of_customOf? {members : List (String × Tree)} {custom : Dictionary Json}
    (hCustom : Jwt.Claims.customOf? members = some custom) {m : String × Json}
    (hMem : m ∈ custom.entries) :
    ∃ t, (m.1, t) ∈ members ∧ m.1 ∉ Jwt.reservedNames ∧ t.value? = some m.2 := by
  obtain ⟨values, hValues, hList⟩ := Option.bind_eq_some_iff.mp hCustom
  obtain rfl := Option.some.inj hList
  obtain ⟨⟨name, t⟩, hOwn, hValue⟩ :=
    Json.exists_of_mapM_eq_some hValues (Dictionary.mem_sortEntries hMem)
  obtain ⟨v, hv, rfl⟩ := Option.map_eq_some_iff.mp hValue
  obtain ⟨hIn, hUnreserved⟩ := List.mem_filter.mp hOwn
  exact ⟨t, hIn, by simpa using hUnreserved, hv⟩

theorem mem_of_keyed? {written : List (Option String × Tree)} {members : List (String × Tree)}
    (hKeyed : Tree.keyed? written = some members) {m : String × Tree} (hMem : m ∈ members) :
    (some m.1, m.2) ∈ written := by
  obtain ⟨⟨key, t⟩, hIn, hm⟩ := Json.exists_of_mapM_eq_some hKeyed hMem
  obtain ⟨name, rfl, rfl⟩ := Option.map_eq_some_iff.mp hm
  exact hIn

theorem depth_le_membersDepth {written : List (Option String × Tree)} {key : Option String}
    {t : Tree} (hMem : (key, t) ∈ written) : t.depth ≤ Tree.membersDepth written := by
  induction written with
  | nil => cases hMem
  | cons m rest ih =>
    rcases List.mem_cons.mp hMem with rfl | hRest
    · exact Nat.le_max_left _ _
    · exact Nat.le_trans (ih hRest) (Nat.le_max_right _ _)

/-- A claim that is checked in passing is no array or object with something in it. -/
theorem hollow_of_passes {members : List (String × Tree)}
    (hPasses : Jwt.Claims.passes members = true) {t : Tree} (hMem : ("nbf", t) ∈ members) {v : Json}
    (hValue : t.value? = some v) : v.elements = [] ∧ v.members = [] := by
  unfold Jwt.Claims.passes at hPasses
  split at hPasses
  · next notBefore _ hField _ =>
    obtain rfl := Json.eq_of_field? hField hMem
    -- only an array or an object with something in it is turned down
    cases t with
    | array elements =>
      cases elements with
      | nil =>
        obtain rfl : Json.array [] = v := Option.some.inj hValue
        exact ⟨rfl, rfl⟩
      | cons first rest => cases hPasses
    | object written =>
      cases written with
      | nil =>
        obtain rfl : Json.object [] = v := Option.some.inj hValue
        exact ⟨rfl, rfl⟩
      | cons first rest => cases hPasses
    | null =>
      obtain rfl : Json.null = v := Option.some.inj hValue
      exact ⟨rfl, rfl⟩
    | bool b =>
      obtain rfl : Json.bool b = v := Option.some.inj hValue
      exact ⟨rfl, rfl⟩
    | number n =>
      obtain ⟨m, -, rfl⟩ := Option.map_eq_some_iff.mp hValue
      exact ⟨rfl, rfl⟩
    | string s =>
      obtain ⟨text, -, rfl⟩ := Option.map_eq_some_iff.mp hValue
      exact ⟨rfl, rfl⟩
  · cases hPasses

theorem portable_of_ofTree? {t : Tree} {claims : Jwt.Claims}
    (hClaims : Jwt.Claims.ofTree? t = some claims)
    (hExact : Json.MembersExact claims.custom.entries) : Portable claims.custom := by
  obtain ⟨written, members, rfl, hDepth, hKeyed, hPasses, hCustom⟩ := ofTree?_eq_some hClaims
  have hOwn {m : String × Json} (hMem : m ∈ claims.custom.entries) :
      ∃ t, (m.1, t) ∈ members ∧ m.1 ∉ Jwt.reservedNames ∧ t.value? = some m.2 :=
    mem_of_customOf? hCustom hMem
  constructor
  case spelled =>
    refine ⟨hExact, ⟨claims.custom.sorted, Json.membersCanonical_iff.mpr fun m hm => ?_⟩, ?_⟩
    · -- in order whatever the order in the tree is, since a dictionary is sorted
      obtain ⟨t, -, -, hValue⟩ := hOwn hm
      exact Json.canonical_of_value? hValue
    · refine Nat.le_trans (Nat.succ_le_succ (Json.membersDepth_le_iff.mpr fun m hm => ?_)) hDepth
      obtain ⟨t, hIn, -, hValue⟩ := hOwn hm
      exact Nat.le_trans (Json.depth_of_value? hValue)
        (depth_le_membersDepth (mem_of_keyed? hKeyed hIn))
  case unreserved =>
    intro name hReserved hKey
    obtain ⟨m, hm, rfl⟩ := List.mem_map.mp hKey
    obtain ⟨t, -, hUnreserved, -⟩ := hOwn hm
    exact hUnreserved hReserved
  case hollow =>
    intro v hMem
    obtain ⟨t, hIn, -, hValue⟩ := hOwn hMem
    exact hollow_of_passes hPasses hIn hValue

/-! ## Authenticators out of tokens -/

/-- What is known of every authenticator that came out of a token. -/
structure OfToken (settings : JwtSettings) (a : JwtAuthenticator) : Prop where
  lastUsed : 1000000000 ∣ a.lastUsed.nanoseconds
  expires : 1000000000 ∣ a.expires.nanoseconds
  epoch : 0 ≤ a.expires.nanoseconds
  idle : a.idle = settings.idle
  nonempty : ∀ custom, a.details.claims = some custom → custom.isEmpty = false
  unreserved : ∀ custom, a.details.claims = some custom →
    ∀ name ∈ Jwt.reservedNames, name ∉ custom.keys

theorem nanoseconds_of_ofSeconds? {n : Int} {t : Instant} (h : Instant.ofSeconds? n = some t) :
    t.nanoseconds = n * 1000000000 := by
  unfold Instant.ofSeconds? Instant.ofNanoseconds? at h
  split at h
  · obtain rfl := Option.some.inj h
    rfl
  · cases h

/-- The claims that a token was read as. -/
theorem claims_of_decode {c : JwtCodec} {settings : JwtSettings} {token : String}
    {a : JwtAuthenticator} (hDecoded : c.decode settings token = .ok a) :
    ∃ t claims, Jwt.Claims.ofTree? t = some claims ∧ 0 ≤ claims.expires ∧
      c.Describes settings claims a := by
  obtain ⟨claims, hVerified, hDescribes⟩ := decode_eq_ok_iff.mp hDecoded
  obtain ⟨text, -, hRead⟩ := verify_eq_ok_iff.mp hVerified
  obtain ⟨_, _, _, t, -, -, -, -, -, hClaims, hEpoch, -⟩ := readClaims_eq_ok_iff.mp hRead
  exact ⟨t, claims, hClaims, hEpoch, hDescribes⟩

theorem ofToken_of_decode {c : JwtCodec} {settings : JwtSettings} {token : String}
    {a : JwtAuthenticator} (hDecoded : c.decode settings token = .ok a) : OfToken settings a := by
  obtain ⟨t, claims, hClaims, hEpoch, hDescribes⟩ := claims_of_decode hDecoded
  obtain ⟨_, members, -, -, -, -, hCustom⟩ := ofTree?_eq_some hClaims
  have hLastUsed := nanoseconds_of_ofSeconds? hDescribes.lastUsed
  have hExpires := nanoseconds_of_ofSeconds? hDescribes.expires
  have hOwn {custom : Dictionary Json} (hSome : a.details.claims = some custom) :
      claims.custom = custom ∧ custom.isEmpty = false := by
    have hGiven := hDescribes.custom.symm.trans hSome
    split at hGiven
    · cases hGiven
    · next hNonempty =>
      obtain rfl := Option.some.inj hGiven
      exact ⟨rfl, by simpa using hNonempty⟩
  constructor
  case lastUsed => exact hLastUsed ▸ Int.dvd_mul_left _ _
  case expires => exact hExpires ▸ Int.dvd_mul_left _ _
  case epoch => omega
  case idle => exact hDescribes.idle
  case nonempty => exact fun custom hSome => (hOwn hSome).2
  case unreserved =>
    intro custom hSome name hReserved hKey
    obtain ⟨rfl, -⟩ := hOwn hSome
    obtain ⟨m, hm, rfl⟩ := List.mem_map.mp hKey
    obtain ⟨t, -, hUnreserved, -⟩ := mem_of_customOf? hCustom hm
    exact hUnreserved hReserved

theorem OfToken.clash? {settings : JwtSettings} {a : JwtAuthenticator} (hOf : OfToken settings a) :
    clash? a = none := by
  cases hClash : JwtCodec.clash? a with
  | none => rfl
  | some name =>
    obtain ⟨custom, before, after, hSome, hNames, hKey, -⟩ := clash?_eq_some_iff.mp hClash
    have hReserved : name ∈ Jwt.reservedNames := by
      rw [hNames]
      exact List.mem_append_right before List.mem_cons_self
    exact absurd hKey (hOf.unreserved custom hSome name hReserved)

/-- The numbers of the host's claims, if there are any, are integers of 64 bits. -/
def ExactClaims (a : JwtAuthenticator) : Prop :=
  ∀ custom, a.details.claims = some custom → Json.MembersExact custom.entries

theorem portable_of_decode {c : JwtCodec} {settings : JwtSettings} {token : String}
    {a : JwtAuthenticator} (hDecoded : c.decode settings token = .ok a) (hExact : ExactClaims a) :
    Portable (a.details.claims.getD .empty) := by
  obtain ⟨t, claims, hClaims, -, hDescribes⟩ := claims_of_decode hDecoded
  have hCustom := hDescribes.custom
  by_cases hEmpty : claims.custom.isEmpty = true
  · rw [hCustom, if_pos hEmpty]
    exact portable_empty
  · rw [if_neg hEmpty] at hCustom
    rw [hCustom]
    exact portable_of_ofTree? hClaims (hExact _ hCustom)

/-- What came out of a token is not rounded any more when it goes into one. -/
theorem OfToken.rounded_usedAt {settings : JwtSettings} {a : JwtAuthenticator}
    (hOf : OfToken settings a) (t : Instant) :
    (a.usedAt t).rounded settings.idle
        ⟨(a.usedAt t).details.claims.filter fun custom => !custom.isEmpty⟩ =
      a.usedAt t.floor := by
  have hFilter : (a.details.claims.filter fun custom => !custom.isEmpty) = a.details.claims := by
    cases hClaims : a.details.claims with
    | none => rfl
    | some custom => rw [Option.filter_some, hOf.nonempty custom hClaims]; rfl
  have hExpires := Instant.floor_of_dvd hOf.expires
  obtain ⟨id, login, lastUsed, expires, idle, ⟨claims⟩⟩ := a
  obtain rfl : idle = settings.idle := hOf.idle
  simp only [Authenticator.usedAt, Authenticator.rounded] at hFilter hExpires ⊢
  rw [hFilter, hExpires]

/-- Used at any time, it is signed in every run, and the new token gives it back with that time in whole
seconds. -/
theorem decode_reissued {c : JwtCodec} {settings : JwtSettings} {token : String}
    {a : JwtAuthenticator} (hDecoded : c.decode settings token = .ok a) (hExact : ExactClaims a)
    (t : Instant) (nonce : Vector UInt8 Crypter.nonceSize) :
    c.decode settings (c.token (claimsOf settings (a.usedAt t)
      ((c.subjectCrypter settings.encryptSubject).encrypt nonce
        (Json.Form.login.render a.login)))) = .ok (a.usedAt t.floor) := by
  have hOf := ofToken_of_decode hDecoded
  have hOwn : Portable (a.details.claims.getD .empty) := portable_of_decode hDecoded hExact
  rw [← hOf.rounded_usedAt t]
  exact c.decode_token settings (a := a.usedAt t) hOwn (Int.ediv_nonneg hOf.epoch (by decide)) nonce

/-- As it came out of a token, it is signed in every run, and the new token gives back the same. -/
theorem encodeFresh_of_decode {c : JwtCodec} {settings : JwtSettings} {token : String}
    {a : JwtAuthenticator} (hDecoded : c.decode settings token = .ok a) (hExact : ExactClaims a)
    (answer : (q : Query δ) → σ → q.Answer × σ) (s : σ) :
    ∃ token', ((c.encodeFresh settings a).run answer s).1 = .ok token' ∧
      c.decode settings token' = .ok a := by
  have hOf := ofToken_of_decode hDecoded
  obtain ⟨nonce, hToken⟩ := c.run_encodeFresh settings answer s hOf.clash?
  have hSame : a.usedAt a.lastUsed = a := rfl
  have hBack := decode_reissued hDecoded hExact a.lastUsed nonce
  rw [Instant.floor_of_dvd hOf.lastUsed, hSame] at hBack
  exact ⟨_, hToken, hBack⟩

end WebLogin.JwtCodec
