import WebLogin.Proofs.Json.Front
import WebLogin.Proofs.Lifecycle.Service
import WebLogin.Proofs.Signed.Codec
import WebLogin.Proofs.State.Callback

/-!
# One signer for three purposes

Records, states and the tokens of cookies may be signed under one key. Their signatures do not tell
them apart, but the signed texts do: the first symbol of a state is `Y` or `d`, that of a record is
neither, and a token has only digits in hexadecimal, which is true of no record and no state.

* `IsState`, `IsRecord`, `IsToken`: the three forms of a signed text. No text has two of them.
* `isState_of_unserialize`, `isRecord_of_decode`: what is accepted has the form of its purpose.
* `purposes_apart`: nothing that is issued for one purpose is accepted for another.
-/

namespace WebLogin

variable {H : HostItems} {δ σ : Type} {text : List Char}

/-! ## The three forms -/

/-- A text that begins with a fragment of a token or of an item under a name. -/
def IsState (text : List Char) : Prop :=
  ∃ id rest, text = StateFragment.encodePart id ++ '-' :: rest ∧
    (id = CsrfHandler.id ∨ ∃ name, id = "user-state:" ++ name)

/-- The hidden text of a record, either encrypted or only coded. -/
def IsRecord (text : List Char) : Prop :=
  (∃ rest, text = '1' :: '-' :: rest) ∨
    ∃ json, Json.RecordFront json ∧ text = Base64.encode .urlSafe (Utf8.encode json)

/-- Bytes in hexadecimal. -/
def IsToken (text : List Char) : Prop := ∃ bytes, text = Hex.encode bytes

theorem IsState.dash (hState : IsState text) : '-' ∈ text := by
  obtain ⟨id, rest, rfl, -⟩ := hState
  exact List.mem_append_right _ List.mem_cons_self

theorem IsState.front (hState : IsState text) : ∃ c rest, text = c :: rest ∧ c ∈ ['Y', 'd'] := by
  obtain ⟨id, rest, rfl, rfl | ⟨name, rfl⟩⟩ := hState
  · exact ⟨'Y', _, rfl, by decide⟩
  · have hBytes : ∃ others, Utf8.bytes ("user-state:" ++ name) = 117 :: others := by
      rw [Utf8.bytes, String.toList_append]
      exact ⟨_, rfl⟩
    obtain ⟨others, hOthers⟩ := hBytes
    obtain ⟨symbols, hSymbols⟩ := Base64.exists_encode_cons .standard 117 others
    rw [StateFragment.encodePart, hOthers, hSymbols]
    exact ⟨'d', _, rfl, by decide⟩

theorem IsRecord.front (hRecord : IsRecord text) :
    ∃ c rest, text = c :: rest ∧ c ∉ ['Y', 'd'] ∧ ∃ d ∈ text, d ∉ Hex.digits := by
  rcases hRecord with ⟨rest, rfl⟩ | ⟨json, hFront, rfl⟩
  · exact ⟨'1', _, rfl, by decide, '-', by simp, by decide⟩
  · obtain ⟨first, rest, hBytes, hFirst | ⟨rfl, second, others, rfl, hSecond⟩⟩ :=
      hFront.bytes
    · have hSymbol : ∀ n ∈ [9, 10, 13, 32, 91],
          Base64.Alphabet.urlSafe.symbol (n / 4) ∉ ['Y', 'd'] ∧
          Base64.Alphabet.urlSafe.symbol (n / 4) ∉ Hex.digits := by decide
      obtain ⟨symbols, hSymbols⟩ := Base64.exists_encode_cons .urlSafe first rest
      rw [hBytes, hSymbols]
      obtain ⟨hState, hToken⟩ := hSymbol first.toNat hFirst
      exact ⟨_, symbols, rfl, hState, _, List.mem_cons_self, hToken⟩
    · -- the symbol of a brace is a digit, so the one after it has to tell
      have hSymbol : ∀ n ∈ [9, 10, 13, 32, 34],
          Base64.Alphabet.urlSafe.symbol (123 % 4 * 16 + n / 16) ∉ Hex.digits := by decide
      obtain ⟨symbols, hSymbols⟩ := Base64.exists_encode_cons_cons .urlSafe 123 second others
      rw [hBytes, hSymbols]
      exact ⟨_, _, rfl, by decide, _, List.mem_cons_of_mem _ List.mem_cons_self,
        hSymbol second.toNat hSecond⟩

theorem IsState.not_isRecord (hState : IsState text) : ¬IsRecord text := by
  intro hRecord
  obtain ⟨c, rest, rfl, hc⟩ := hState.front
  obtain ⟨d, others, hSame, hd, -⟩ := hRecord.front
  obtain ⟨rfl, -⟩ := List.cons.inj hSame
  exact hd hc

theorem IsToken.not_isState (hToken : IsToken text) : ¬IsState text := by
  intro hState
  obtain ⟨bytes, rfl⟩ := hToken
  exact Signer.dash_not_mem_hex bytes hState.dash

theorem IsToken.not_isRecord (hToken : IsToken text) : ¬IsRecord text := by
  intro hRecord
  obtain ⟨bytes, rfl⟩ := hToken
  obtain ⟨-, -, -, -, d, hMem, hd⟩ := hRecord.front
  exact hd (Hex.mem_digits_of_mem_encode hMem)

/-! ## States -/

namespace StateHandlers

open StateFragment

variable {s : StateHandlers H}

theorem isState_of_first {g : StateHandler H} (hMade : g.Made) (data : List Char)
    (pieces : List (List Char)) :
    IsState (List.intercalate [separator] ((encodePart g.id ++ '-' :: data) :: pieces)) := by
  obtain ⟨rest, hRest⟩ := Text.exists_intercalate_cons separator (encodePart g.id ++ '-' :: data)
    pieces
  refine ⟨g.id, data ++ rest, ?_, hMade.id_cases⟩
  rw [hRest, List.append_assoc, List.cons_append]

theorem isState_of_unserialize (h : Host δ σ) {raw payload : String} {request : Request}
    {start : σ} {state : LoginState H} (hSome : s.handlers ≠ []) (hMade : ∀ g ∈ s.handlers, g.Made)
    (hExtract : s.signer.extract raw = .ok payload)
    (hTaken : (h.run (s.unserialize raw request) start).1 = .ok state) : IsState payload.toList := by
  rw [run_unserialize h hSome, hExtract] at hTaken
  cases hSplit : split payload with
  | nil => exact absurd hSplit (Text.splitAll_ne_nil _ _)
  | cons piece pieces =>
    obtain ⟨item, -, hVerdict⟩ := Except.exists_of_mapM_eq_ok hTaken
      (hSplit ▸ List.mem_cons_self : piece ∈ split payload)
    obtain ⟨g, fragment, hDecode, hFirst, -⟩ := (verdict_eq_ok_iff h start).mp hVerdict
    have hFind := (StateHandler.firstToClaim_iff h start).mp hFirst
    have hId := StateHandler.id_of_owns (List.find?_some hFind)
    obtain ⟨data, hPiece⟩ := exists_of_decode hDecode
    have hText : List.intercalate [separator] (piece :: pieces) = payload.toList := by
      rw [← hSplit]
      exact Text.intercalate_splitAll separator payload.toList
    rw [← hText, hPiece, hId]
    exact isState_of_first (hMade g (List.mem_of_find?_eq_some hFind)) data pieces

theorem exists_handler_of_fragment {item : StateItem H} {f : StateFragment}
    (hFragment : s.fragment item = .ok f) : ∃ g ∈ s.handlers, f.id = g.id := by
  unfold fragment at hFragment
  cases hFind : s.handlers.find? (·.takes item) with
  | none =>
    rw [hFind] at hFragment
    cases hFragment
  | some g =>
    rw [hFind] at hFragment
    simp only [StateHandler.serialize] at hFragment
    split at hFragment
    · split at hFragment
      · cases hFragment
        exact ⟨g, List.mem_of_find?_eq_some hFind, rfl⟩
      · cases hFragment
    · cases hFragment

theorem isState_of_serialize (h : Host δ σ) {raw : String} {start : σ} {state : LoginState H}
    (hSome : state ≠ []) (hMade : ∀ g ∈ s.handlers, g.Made)
    (hIssued : (h.run (s.serialize state) start).1 = .ok raw) :
    ∃ payload, s.signer.extract raw = .ok payload ∧ IsState payload.toList := by
  rw [run_serialize_eq h hSome start] at hIssued
  cases hFragments : state.mapM s.fragment with
  | error error =>
    rw [hFragments] at hIssued
    cases hIssued
  | ok fragments =>
    rw [hFragments] at hIssued
    obtain rfl := Except.ok.inj hIssued
    refine ⟨join fragments, s.signer.extract_sign _ _, ?_⟩
    cases Except.mapM_eq_ok_iff.mp hFragments with
    | nil => exact absurd rfl hSome
    | @cons _ f _ rest hFirst hRest =>
      obtain ⟨g, hg, hId⟩ := exists_handler_of_fragment hFirst
      rw [join, String.toList_ofList, List.map_cons, encode, hId]
      exact isState_of_first (hMade g hg) _ _

end StateHandlers

/-! ## Records -/

namespace SignedCodec

theorem isRecord_encrypt (crypter : Crypter) (sealing : Vector UInt8 Crypter.nonceSize)
    {json : String} (hFront : Json.RecordFront json.toList) :
    IsRecord (crypter.encrypt sealing json).toList := by
  cases crypter with
  | plain =>
    refine .inr ⟨json.toList, hFront, ?_⟩
    rw [Crypter.encrypt, Base64.text, String.toList_ofList]
    rfl
  | «sealed» key => exact .inl ⟨_, Crypter.toList_encrypt_sealed key sealing json⟩

variable {α : Type} {c : SignedCodec} {form : Json.Form α} {raw : String} {a : α}

theorem isRecord_of_decode (hForm : form.OfRecord) (hDecode : c.decode form raw = .ok a) :
    ∃ payload, c.signer.extract raw = .ok payload ∧ IsRecord payload.toList := by
  obtain ⟨nonce, sealing, json, hNonce, rfl, hParse⟩ := decode_eq_ok_iff.mp hDecode
  exact ⟨_, Signer.extract_eq_ok_iff.mpr ⟨nonce, hNonce, rfl⟩,
    isRecord_encrypt c.crypter sealing (hForm.recordFront hParse)⟩

theorem isRecord_of_encodeFresh (h : Host δ σ) (start : σ) (hForm : form.OfRecord) (a : α) :
    ∃ payload, c.signer.extract (h.run (c.encodeFresh form a) start).1 = .ok payload ∧
      IsRecord payload.toList := by
  obtain ⟨sealing, signing, hRun⟩ := Service.encodeFresh_run h c form a start
  rw [hRun]
  exact ⟨_, c.signer.extract_sign signing _, isRecord_encrypt c.crypter sealing (hForm.front a)⟩

end SignedCodec

/-! ## The three purposes -/

theorem CsrfHandler.isToken_of_publish (h : Host δ σ) (start : σ) (handler : CsrfHandler)
    (bytes : List UInt8) (response : Response) {raw : String}
    (hCookie : ((h.run (handler.publish (Hex.text bytes) response) start).1.cookie?
      handler.settings.cookie.name).map Cookie.value = some raw) :
    ∃ payload, handler.signer.extract raw = .ok payload ∧ IsToken payload.toList := by
  have hSet : (h.run (handler.publish (Hex.text bytes) response) start).1.cookie?
      handler.settings.cookie.name = some (handler.settings.cookie.cookie
        (some handler.settings.expiry)
        (handler.signer.sign (h.answer (.randomBytes 16) start).1 (Hex.text bytes))) :=
    response.cookie?_setCookie _
  rw [hSet] at hCookie
  obtain rfl := Option.some.inj hCookie
  exact ⟨Hex.text bytes, handler.signer.extract_sign _ _, bytes, String.toList_ofList⟩

namespace Signer

/-- The wire values of authenticators under a signer, whatever hides them. -/
inductive IssuesRecord (signer : Signer) : String → Prop where
  | cookie {δ σ : Type} (h : Host δ σ) (start : σ) (crypter : Crypter) (a : CookieAuthenticator) :
    IssuesRecord signer
      (h.run (SignedCodec.encodeFresh ⟨signer, crypter⟩ .cookieAuthenticator a) start).1
  | session {δ σ : Type} (h : Host δ σ) (start : σ) (crypter : Crypter) (a : SessionAuthenticator) :
    IssuesRecord signer
      (h.run (SignedCodec.encodeFresh ⟨signer, crypter⟩ .sessionAuthenticator a) start).1

/-- The states of some items under a signer, whatever handlers there are. -/
inductive IssuesState (signer : Signer) : String → Prop where
  | handlers {H : HostItems} {δ σ : Type} (h : Host δ σ) (start : σ) (s : StateHandlers H)
    {state : LoginState H} {raw : String} (hSigner : s.signer = signer)
    (hMade : ∀ g ∈ s.handlers, g.Made) (hSome : state ≠ [])
    (hIssued : (h.run (s.serialize state) start).1 = .ok raw) : IssuesState signer raw

/-- The values of cookies under a signer, with a token of random bytes. -/
inductive IssuesToken (signer : Signer) : String → Prop where
  | published {δ σ : Type} (h : Host δ σ) (start : σ) (handler : CsrfHandler) (bytes : List UInt8)
    (response : Response) {raw : String} (hSigner : handler.signer = signer)
    (hCookie : ((h.run (handler.publish (Hex.text bytes) response) start).1.cookie?
      handler.settings.cookie.name).map Cookie.value = some raw) : IssuesToken signer raw

variable {signer : Signer} {raw : String}

theorem IssuesRecord.isRecord (hIssued : signer.IssuesRecord raw) :
    ∃ payload, signer.extract raw = .ok payload ∧ IsRecord payload.toList := by
  cases hIssued with
  | cookie h start crypter a =>
    exact SignedCodec.isRecord_of_encodeFresh h start Json.Form.ofRecord_cookieAuthenticator a
  | session h start crypter a =>
    exact SignedCodec.isRecord_of_encodeFresh h start Json.Form.ofRecord_sessionAuthenticator a

theorem IssuesState.isState (hIssued : signer.IssuesState raw) :
    ∃ payload, signer.extract raw = .ok payload ∧ IsState payload.toList := by
  cases hIssued with
  | handlers h start s hSigner hMade hSome hRun =>
    subst hSigner
    exact StateHandlers.isState_of_serialize h hSome hMade hRun

theorem IssuesToken.isToken (hIssued : signer.IssuesToken raw) :
    ∃ payload, signer.extract raw = .ok payload ∧ IsToken payload.toList := by
  cases hIssued with
  | published h start handler bytes response hSigner hCookie =>
    subst hSigner
    exact handler.isToken_of_publish h start bytes response hCookie

theorem refused_as_state (h : Host δ σ) {s : StateHandlers H} {payload : String}
    (hExtract : s.signer.extract raw = .ok payload) (hNot : ¬IsState payload.toList)
    (hSome : s.handlers ≠ []) (hMade : ∀ g ∈ s.handlers, g.Made) (request : Request) (start : σ) :
    ∃ error, (h.run (s.unserialize raw request) start).1 = .error error := by
  apply Except.exists_error
  intro state hTaken
  exact hNot (StateHandlers.isState_of_unserialize h hSome hMade hExtract hTaken)

theorem refused_as_record {α : Type} {form : Json.Form α} {payload : String}
    (hForm : form.OfRecord) (hExtract : signer.extract raw = .ok payload)
    (hNot : ¬IsRecord payload.toList) (crypter : Crypter) :
    ∃ error, SignedCodec.decode ⟨signer, crypter⟩ form raw = .error error := by
  apply Except.exists_error
  intro a hDecode
  obtain ⟨found, hFound, hRecord⟩ := SignedCodec.isRecord_of_decode hForm hDecode
  obtain rfl : payload = found := Except.ok.inj (hExtract.symm.trans hFound)
  exact hNot hRecord

/-- A signer may serve all three purposes: no record and no token that it signs is accepted as a
state, by whatever handlers and with whatever request, and no state and no token is accepted as an
authenticator, whatever hides these. -/
theorem purposes_apart (signer : Signer) :
    (∀ raw, signer.IssuesRecord raw ∨ signer.IssuesToken raw →
      ∀ {H : HostItems} {δ σ : Type} (s : StateHandlers H) (h : Host δ σ) (request : Request)
        (start : σ), s.signer = signer → s.handlers ≠ [] → (∀ g ∈ s.handlers, g.Made) →
        ∃ error, (h.run (s.unserialize raw request) start).1 = .error error) ∧
    ∀ raw, signer.IssuesState raw ∨ signer.IssuesToken raw → ∀ crypter : Crypter,
      (∃ error, SignedCodec.decode ⟨signer, crypter⟩ .cookieAuthenticator raw = .error error) ∧
      ∃ error, SignedCodec.decode ⟨signer, crypter⟩ .sessionAuthenticator raw = .error error := by
  refine ⟨?_, ?_⟩
  · intro raw hIssued H δ σ s h request start hSigner hSome hMade
    subst hSigner
    have hText : ∃ payload, s.signer.extract raw = .ok payload ∧ ¬IsState payload.toList := by
      rcases hIssued with hIssued | hIssued
      · obtain ⟨payload, hExtract, hRecord⟩ := hIssued.isRecord
        exact ⟨payload, hExtract, fun hState => hState.not_isRecord hRecord⟩
      · obtain ⟨payload, hExtract, hToken⟩ := hIssued.isToken
        exact ⟨payload, hExtract, hToken.not_isState⟩
    obtain ⟨payload, hExtract, hNot⟩ := hText
    exact refused_as_state h hExtract hNot hSome hMade request start
  · intro raw hIssued crypter
    have hText : ∃ payload, signer.extract raw = .ok payload ∧ ¬IsRecord payload.toList := by
      rcases hIssued with hIssued | hIssued
      · obtain ⟨payload, hExtract, hState⟩ := hIssued.isState
        exact ⟨payload, hExtract, hState.not_isRecord⟩
      · obtain ⟨payload, hExtract, hToken⟩ := hIssued.isToken
        exact ⟨payload, hExtract, hToken.not_isRecord⟩
    obtain ⟨payload, hExtract, hNot⟩ := hText
    exact ⟨refused_as_record Json.Form.ofRecord_cookieAuthenticator hExtract hNot crypter,
      refused_as_record Json.Form.ofRecord_sessionAuthenticator hExtract hNot crypter⟩

end Signer

end WebLogin
