import WebLogin.Jwt.Codec
import WebLogin.Proofs.Authenticator.Records
import WebLogin.Proofs.Bytes.Base64
import WebLogin.Proofs.Except
import WebLogin.Proofs.Json.Value
import WebLogin.Proofs.Signed.Crypter
import WebLogin.Proofs.Text.Split

/-!
# Tokens and what they say

What is known of a token that is read, layer by layer, and that a token is read back.

* `verify_eq_ok_iff`, `readClaims_eq_ok_iff`: a verified token is a text with its own tag behind it,
  its header names the algorithm of the tag, and its issuer is the expected one.
* `decode_eq_ok_iff`: the record of a token is the one that its verified claims describe.
* `Readable`, `Portable`, `ofTree?_json`: the host's own claims are told from those that a token needs
  for itself, and all of them are read back.
* `decode_token`: an authenticator is read back, with its times rounded down.
-/

namespace WebLogin.JwtCodec

open Json (Tree)

/-! ## Parts -/

theorem symbol_ne_dot {v : Nat} (h : v < 64) : Base64.Alphabet.urlSafe.symbol v ≠ '.' := by
  have hAll : ∀ v ∈ List.range 64, Base64.Alphabet.urlSafe.symbol v ≠ '.' := by decide
  exact hAll v (List.mem_range.mpr h)

theorem dot_not_mem_encode (bytes : List UInt8) : '.' ∉ Base64.encode .urlSafe bytes := by
  intro h
  obtain ⟨v, hv, hSymbol⟩ := Base64.symbol_of_mem_encode h
  exact symbol_ne_dot hv hSymbol.symm

theorem readPart_eq_ok_iff {part : List Char} {tree : Tree} :
    readPart part = .ok tree ↔
      ∃ bytes, part = Base64.encode .urlSafe bytes ∧ Tree.ofBytes? bytes = some tree := by
  unfold readPart
  constructor
  · intro h
    cases hBytes : Base64.decode .urlSafe (Utf8.encode part) with
    | error fault =>
      rw [hBytes] at h
      cases h
    | ok bytes =>
      have hPart := Utf8.encode_injective (Base64.decode_eq_ok_iff.mp hBytes)
      cases hTree : Tree.ofBytes? bytes with
      | none => simp [hBytes, hTree] at h
      | some found =>
        obtain rfl : found = tree := by simpa [hBytes, hTree] using h
        exact ⟨bytes, hPart, hTree⟩
  · rintro ⟨bytes, rfl, hTree⟩
    have hBytes : Base64.decode .urlSafe (Utf8.encode (Base64.encode .urlSafe bytes)) = .ok bytes :=
      Base64.decode_eq_ok_iff.mpr rfl
    simp [hBytes, hTree]

/-- A part that was written is read back. -/
theorem readPart_encodePart {v : Json} (hv : v.Exact) :
    readPart (encodePart v.render) = .ok (.ofValue v) := by
  refine readPart_eq_ok_iff.mpr ⟨Utf8.bytes v.render, rfl, ?_⟩
  rw [Utf8.bytes, Json.render, String.toList_ofList]
  exact Json.ofBytes?_write hv

/-! ## Tokens -/

/-- A token that is verified is a text with its own tag behind it. -/
theorem verify_eq_ok_iff {c : JwtCodec} {token issuer : String} {claims : Jwt.Claims} :
    c.verify token issuer = .ok claims ↔
      ∃ text, token.toList = text ++ '.' :: c.signature text ∧
        readClaims text issuer = .ok claims := by
  unfold verify
  constructor
  · intro h
    split at h
    · next text tag hCut =>
      obtain ⟨hToken, -⟩ := Text.cutLast?_eq_some_iff.mp hCut
      split at h
      · next hTag => exact ⟨text, by rw [hToken, hTag], h⟩
      · cases h
    · cases h
  · rintro ⟨text, hToken, hRead⟩
    have hCut : Text.cutLast? '.' token.toList = some (text, c.signature text) :=
      Text.cutLast?_eq_some_iff.mpr ⟨hToken, dot_not_mem_encode _⟩
    rw [hCut]
    simp [hRead]

/-- What the claims of a text are: both parts are read, the header names the algorithm of the tag,
the expiry is not before 1970 and the issuer is the expected one. -/
theorem readClaims_eq_ok_iff {text : List Char} {issuer : String} {claims : Jwt.Claims} :
    readClaims text issuer = .ok claims ↔
      ∃ header payload headerTree payloadTree,
        text = header ++ '.' :: payload ∧ '.' ∉ payload ∧
        readPart header = .ok headerTree ∧ Jwt.algorithmOf? headerTree = some Jwt.algorithm ∧
        readPart payload = .ok payloadTree ∧ Jwt.Claims.ofTree? payloadTree = some claims ∧
        0 ≤ claims.expires ∧ claims.issuer = issuer := by
  unfold readClaims
  constructor
  · intro h
    split at h
    · cases h
    next header payload hCut =>
    obtain ⟨hText, hDot⟩ := Text.cutLast?_eq_some_iff.mp hCut
    simp only [Except.bind_eq_ok_iff] at h
    obtain ⟨headerTree, hHeader, h⟩ := h
    split at h
    · simp at h
    next name hName =>
    split at h
    · simp at h
    next hAlgorithm =>
    simp only [Except.bind_eq_ok_iff] at h
    obtain ⟨payloadTree, hPayload, h⟩ := h
    split at h
    · simp at h
    next found hClaims =>
    split at h
    · simp at h
    next hExpires =>
    split at h
    · simp at h
    next hIssuer =>
    obtain rfl : found = claims := by simpa using h
    have hHS256 : name = Jwt.algorithm := by simpa using hAlgorithm
    exact ⟨header, payload, headerTree, payloadTree, hText, hDot, hHeader, hHS256 ▸ hName, hPayload,
      hClaims, Int.not_lt.mp hExpires, by simpa using hIssuer⟩
  · rintro ⟨header, payload, headerTree, payloadTree, hText, hDot, hHeader, hName, hPayload,
      hClaims, hExpires, hIssuer⟩
    rw [Text.cutLast?_eq_some_iff.mpr ⟨hText, hDot⟩]
    refine Except.bind_eq_ok_iff.mpr ⟨headerTree, hHeader, ?_⟩
    simp [hName, hPayload, hClaims, Int.not_lt.mpr hExpires, hIssuer]

theorem algorithmOf?_header :
    Jwt.algorithmOf? (.ofValue Jwt.header) = some Jwt.algorithm := by
  rfl

/-- The seconds of a claim fit into 64 bits. -/
def Fits (seconds : Int) : Prop := -0x8000000000000000 ≤ seconds ∧ seconds < 0x8000000000000000

/-- Claims of the host's own that can be read: their numbers are integers of 64 bits, the keys of
every object in them are in order, they are not too deep, and none of them has the name of a claim
that is checked in passing. -/
structure Readable (custom : Dictionary Json) : Prop where
  spelled : Json.Spelled (.object custom.entries)
  unchecked : "nbf" ∉ custom.keys

/-- Claims of the host's own that a token gives back: none of them has the name of a claim that a token
needs for itself, and if one has the name of a claim that is checked in passing, it is no array or object
with something in it. -/
structure Portable (custom : Dictionary Json) : Prop where
  spelled : Json.Spelled (.object custom.entries)
  unreserved : ∀ name ∈ Jwt.reservedNames, name ∉ custom.keys
  hollow : ∀ v, ("nbf", v) ∈ custom.entries → v.elements = [] ∧ v.members = []

theorem portable_empty : Portable .empty where
  spelled := ⟨trivial, ⟨List.Pairwise.nil, trivial⟩, by decide⟩
  unreserved _ _ := List.not_mem_nil
  hollow _ hMem := by cases hMem

/-- The claims that a token needs for itself, as members. -/
def reservedMembers (claims : Jwt.Claims) : List (String × Json) :=
  [("jti", .string claims.id), ("iss", .string claims.issuer), ("sub", .string claims.subject),
    ("iat", .ofInt claims.issuedAt), ("exp", .ofInt claims.expires)]

/-- Members with their trees. -/
def trees (ms : List (String × Json)) : List (String × Tree) := ms.map fun m => (m.1, Tree.ofValue m.2)

theorem keys_trees (ms : List (String × Json)) : (trees ms).map (·.1) = ms.map (·.1) := by
  rw [trees, List.map_map]
  rfl

theorem nodup_json {claims : Jwt.Claims} (hOwn : Portable claims.custom) :
    ((trees (reservedMembers claims ++ claims.custom.entries)).map (·.1)).Nodup := by
  rw [keys_trees, List.map_append]
  apply List.nodup_append.mpr
  refine ⟨show Jwt.reservedNames.Nodup by decide, claims.custom.nodup_keys, ?_⟩
  rintro name hReserved other hOther rfl
  exact hOwn.unreserved name hReserved hOther

/-- The tree of a value that is no array or object with something in it. -/
theorem ofValue_hollow {v : Json} (hHollow : v.elements = [] ∧ v.members = []) :
    (∀ t ts, Tree.ofValue v ≠ .array (t :: ts)) ∧ ∀ m ms, Tree.ofValue v ≠ .object (m :: ms) := by
  obtain ⟨hElements, hMembers⟩ := hHollow
  cases v with
  | array elements =>
    obtain rfl : elements = [] := hElements
    exact ⟨by rintro _ _ ⟨⟩, by rintro _ _ ⟨⟩⟩
  | object members =>
    obtain rfl : members = [] := hMembers
    exact ⟨by rintro _ _ ⟨⟩, by rintro _ _ ⟨⟩⟩
  | _ => exact ⟨by rintro _ _ ⟨⟩, by rintro _ _ ⟨⟩⟩

theorem passes_json {claims : Jwt.Claims} (hOwn : Portable claims.custom) :
    Jwt.Claims.passes (trees (reservedMembers claims ++ claims.custom.entries)) = true := by
  obtain ⟨audience, hAudience⟩ := Json.exists_field? (nodup_json hOwn) "aud"
  by_cases hMem : ∃ v, ("nbf", v) ∈ claims.custom.entries
  · obtain ⟨v, hMem⟩ := hMem
    obtain ⟨hArray, hObject⟩ := ofValue_hollow (hOwn.hollow v hMem)
    have hIn : ("nbf", Tree.ofValue v) ∈ trees (reservedMembers claims ++ claims.custom.entries) :=
      List.mem_map.mpr ⟨("nbf", v), List.mem_append_right _ hMem, rfl⟩
    rw [Jwt.Claims.passes, Json.field?_of_mem (nodup_json hOwn) hIn, hAudience]
    dsimp only
    split
    · next t ts hTree => exact absurd (Option.some.inj hTree) (hArray t ts)
    · next m ms hTree => exact absurd (Option.some.inj hTree) (hObject m ms)
    · rfl
  · have hNotBefore :
        "nbf" ∉ (trees (reservedMembers claims ++ claims.custom.entries)).map (·.1) := by
      rw [keys_trees, List.map_append, List.mem_append, not_or]
      refine ⟨show "nbf" ∉ Jwt.reservedNames by decide, fun hKey => ?_⟩
      obtain ⟨⟨_, v⟩, hv, rfl⟩ := List.mem_map.mp hKey
      exact hMem ⟨v, hv⟩
    rw [Jwt.Claims.passes, Json.field?_of_notMem hNotBefore, hAudience]

/-- The host's own claims are told from the others by their names. -/
theorem customOf?_json {claims : Jwt.Claims} (hOwn : Portable claims.custom) :
    Jwt.Claims.customOf? (trees (reservedMembers claims ++ claims.custom.entries)) =
      some claims.custom := by
  have hReserved : (trees (reservedMembers claims)).filter
      (fun m => !Jwt.reservedNames.contains m.1) = [] := rfl
  have hCustom : (trees claims.custom.entries).filter
      (fun m => !Jwt.reservedNames.contains m.1) = trees claims.custom.entries := by
    apply List.filter_eq_self.mpr
    intro m hm
    have hKey : m.1 ∈ claims.custom.keys := by
      rw [Dictionary.keys, ← keys_trees]
      exact List.mem_map.mpr ⟨m, hm, rfl⟩
    have hNot : m.1 ∉ Jwt.reservedNames := fun hName => hOwn.unreserved m.1 hName hKey
    simpa using hNot
  have hOwnOnly : (trees (reservedMembers claims ++ claims.custom.entries)).filter
      (fun m => !Jwt.reservedNames.contains m.1) = trees claims.custom.entries := by
    rw [trees, List.map_append, List.filter_append, ← trees, ← trees, hReserved, hCustom,
      List.nil_append]
  have hValues := Json.mapM_value? hOwn.spelled.canonical.2
  simp only [Jwt.Claims.customOf?, hOwnOnly, Option.bind_eq_bind]
  rw [trees, hValues]
  exact congrArg some claims.custom.ofList_entries

/-- Claims are read back from their JSON. -/
theorem ofTree?_json {claims : Jwt.Claims} (hOwn : Portable claims.custom)
    (hIssued : Fits claims.issuedAt) (hExpires : Fits claims.expires) :
    Jwt.Claims.ofTree? (.ofValue claims.json) = some claims := by
  have hTree : Tree.ofValue claims.json =
      .object (Tree.ofMemberValues (reservedMembers claims ++ claims.custom.entries)) := rfl
  -- the claims that a token needs for itself are not nested
  have hDepth : ¬Tree.depth
      (.object (Tree.ofMemberValues (reservedMembers claims ++ claims.custom.entries))) >
        Json.greatestDepth := by
    have hShallow := hOwn.spelled.shallow
    simpa [reservedMembers, Tree.ofMemberValues, Tree.ofValue, Tree.depth, Tree.membersDepth,
      Json.ofInt] using hShallow
  have hKeyed : Tree.keyed? (Tree.ofMemberValues (reservedMembers claims ++ claims.custom.entries)) =
      some (trees (reservedMembers claims ++ claims.custom.entries)) := Json.keyed?_ofMemberValues _
  have hPart : ∀ m ∈ trees (reservedMembers claims),
      m ∈ trees (reservedMembers claims ++ claims.custom.entries) := by
    intro m hm
    rw [trees, List.map_append]
    exact List.mem_append_left _ hm
  have hFields : Jwt.reservedNames.mapM
      (Tree.field? (trees (reservedMembers claims ++ claims.custom.entries))) =
      some ((trees (reservedMembers claims)).map fun m => some m.2) :=
    Json.mapM_field? (nodup_json hOwn) hPart
  have hIssued64 := Json.Form.integer64?_ofInt hIssued.1 hIssued.2
  have hExpires64 := Json.Form.integer64?_ofInt hExpires.1 hExpires.2
  rw [hTree]
  simp only [Jwt.Claims.ofTree?, hDepth, if_false, hKeyed, Option.bind_eq_bind, Option.bind_some,
    hFields, passes_json hOwn, customOf?_json hOwn]
  simp only [trees, reservedMembers, List.map_cons, List.map_nil, Bool.not_true, Bool.false_eq_true,
    if_false, Option.bind_some, hIssued64, hExpires64]
  rfl

theorem exact_json {claims : Jwt.Claims} (hOwn : Portable claims.custom)
    (hIssued : Fits claims.issuedAt) (hExpires : Fits claims.expires) : claims.json.Exact :=
  ⟨trivial, trivial, trivial, Json.Form.exact_ofInt hIssued.1 hIssued.2,
    Json.Form.exact_ofInt hExpires.1 hExpires.2, hOwn.spelled.exact⟩

/-- A token is verified, and its claims are read back. -/
theorem verify_token (c : JwtCodec) {claims : Jwt.Claims} (hOwn : Portable claims.custom)
    (hIssued : Fits claims.issuedAt) (hExpires : Fits claims.expires) (hEpoch : 0 ≤ claims.expires) :
    c.verify (c.token claims) claims.issuer = .ok claims := by
  have hHeader : readPart (encodePart Jwt.header.render) = .ok (.ofValue Jwt.header) :=
    readPart_encodePart ⟨trivial, trivial, trivial⟩
  have hPayload := readPart_encodePart (exact_json hOwn hIssued hExpires)
  refine verify_eq_ok_iff.mpr ⟨_, String.toList_ofList, ?_⟩
  exact readClaims_eq_ok_iff.mpr ⟨_, _, _, _, rfl, dot_not_mem_encode _, hHeader,
    algorithmOf?_header, hPayload, ofTree?_json hOwn hIssued hExpires, hEpoch, rfl⟩

/-! ## Authenticators -/

/-- How the subject of a login is hidden. -/
def subjectCrypter (c : JwtCodec) (encrypted : Bool) : Crypter :=
  if encrypted then c.crypter else .plain

theorem loginOf_eq_ok_iff {c : JwtCodec} {encrypted : Bool} {subject : String} {login : Login} :
    c.loginOf encrypted subject = .ok login ↔
      ∃ nonce json, subject = (c.subjectCrypter encrypted).encrypt nonce json ∧
        Json.Form.login.parse? json = some login := by
  unfold loginOf
  constructor
  · intro h
    obtain ⟨json, hJson, h⟩ := Except.bind_eq_ok_iff.mp h
    obtain ⟨nonce, hSubject⟩ := Crypter.decrypt_eq_ok_iff.mp hJson
    split at h
    · next found hParse =>
      obtain rfl : found = login := by simpa using h
      exact ⟨nonce, json, hSubject, hParse⟩
    · simp at h
  · rintro ⟨nonce, json, hSubject, hParse⟩
    refine Except.bind_eq_ok_iff.mpr ⟨json, Crypter.decrypt_eq_ok_iff.mpr ⟨nonce, hSubject⟩, ?_⟩
    simp [hParse]

theorem instantOf_eq_ok_iff {seconds : Int} {t : Instant} :
    instantOf seconds = .ok t ↔ Instant.ofSeconds? seconds = some t := by
  unfold instantOf
  cases Instant.ofSeconds? seconds with
  | none => simp
  | some u => simp

/-- The record of verified claims. -/
structure Describes (c : JwtCodec) (settings : JwtSettings) (claims : Jwt.Claims)
    (a : JwtAuthenticator) : Prop where
  id : a.id = claims.id
  login : c.loginOf settings.encryptSubject claims.subject = .ok a.login
  lastUsed : Instant.ofSeconds? claims.issuedAt = some a.lastUsed
  expires : Instant.ofSeconds? claims.expires = some a.expires
  idle : a.idle = settings.idle
  custom : a.details.claims = if claims.custom.isEmpty then none else some claims.custom

theorem decode_eq_ok_iff {c : JwtCodec} {settings : JwtSettings} {token : String}
    {a : JwtAuthenticator} :
    c.decode settings token = .ok a ↔
      ∃ claims, c.verify token settings.issuer = .ok claims ∧ c.Describes settings claims a := by
  unfold decode
  simp only [Except.bind_eq_ok_iff, instantOf_eq_ok_iff, Except.pure_eq_ok_iff]
  constructor
  · rintro ⟨claims, hVerify, login, hLogin, lastUsed, hLastUsed, expires, hExpires, rfl⟩
    exact ⟨claims, hVerify, rfl, hLogin, hLastUsed, hExpires, rfl, rfl⟩
  · rintro ⟨claims, hVerify, hDescribes⟩
    refine ⟨claims, hVerify, a.login, hDescribes.login, a.lastUsed, hDescribes.lastUsed, a.expires,
      hDescribes.expires, ?_⟩
    obtain ⟨id, login, lastUsed, expires, idle, ⟨claims⟩⟩ := a
    obtain ⟨rfl, -, -, -, rfl, rfl⟩ := hDescribes
    rfl

/-- Claims of which there are none are the same as no claims. -/
theorem filter_isEmpty (o : Option (Dictionary Json)) :
    (o.filter fun claims => !claims.isEmpty) =
      if (o.getD .empty).isEmpty then none else some (o.getD .empty) := by
  cases o with
  | none => rfl
  | some claims => cases hEmpty : claims.isEmpty <;> simp [hEmpty]

/-- The token of an authenticator is read back as that authenticator, with its times rounded down, the
idle timeout of the settings and the host's claims if there are any. -/
theorem decode_token (c : JwtCodec) (settings : JwtSettings) {a : JwtAuthenticator}
    (hOwn : Portable (a.details.claims.getD .empty)) (hEpoch : 0 ≤ a.expires.seconds)
    (nonce : Vector UInt8 Crypter.nonceSize) :
    c.decode settings (c.token (claimsOf settings a
      ((c.subjectCrypter settings.encryptSubject).encrypt nonce (Json.Form.login.render a.login)))) =
      .ok (a.rounded settings.idle ⟨a.details.claims.filter fun claims => !claims.isEmpty⟩) := by
  refine decode_eq_ok_iff.mpr ⟨_, c.verify_token hOwn a.lastUsed.seconds_bounds
    a.expires.seconds_bounds hEpoch, rfl, ?_, a.lastUsed.ofSeconds?_seconds,
    a.expires.ofSeconds?_seconds, rfl, ?_⟩
  · exact loginOf_eq_ok_iff.mpr ⟨nonce, _, rfl, (Json.Form.reads_login a.login).parse?_render⟩
  · exact filter_isEmpty a.details.claims

/-- The same without claims of the host's own. -/
theorem decode_token_of_none (c : JwtCodec) (settings : JwtSettings) {a : JwtAuthenticator}
    (hCustom : a.details.claims = none) (hEpoch : 0 ≤ a.expires.seconds)
    (nonce : Vector UInt8 Crypter.nonceSize) :
    c.decode settings (c.token (claimsOf settings a
      ((c.subjectCrypter settings.encryptSubject).encrypt nonce (Json.Form.login.render a.login)))) =
      .ok (a.rounded settings.idle ⟨none⟩) := by
  have hOwn : Portable (a.details.claims.getD .empty) := by
    rw [hCustom]
    exact portable_empty
  rw [c.decode_token settings hOwn hEpoch nonce, hCustom]
  rfl

end WebLogin.JwtCodec
