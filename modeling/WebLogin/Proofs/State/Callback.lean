import WebLogin.Proofs.State.Ownership
import WebLogin.Proofs.Web.Request

/-!
# What a callback is taken for

A state that comes back is taken as a whole or refused. Each fragment goes to the first handler that
claims it, and the first fragment that is refused refuses the state. A handler of tokens claims a
fragment only from a client whose cookie has the same token; but nothing asks for a fragment that it
could claim.

* `StateHandlers.Takes`, `Refuses`: what becomes of the text of a fragment.
* `unserialize_whole`: a state that is taken back has an item for every fragment, and every token in
  it is attested by a cookie; a state with a bad fragment is refused with the fault of the first.
* `csrf_enforced_iff`: the cookie is asked for by exactly the states with a fragment of tokens;
  `csrf_bypassed` is about a state without one.
-/

namespace WebLogin

variable {H : HostItems} {δ σ : Type}

/-! ## What a handler claims -/

namespace StateHandler

/-- A handler claims a fragment that a request brings, whatever has been reported before. -/
def Claims (h : Host δ σ) (request : Request) (fragment : StateFragment) (g : StateHandler H) :
    Prop :=
  ∀ s, (h.run (g.claims fragment request) s).1 = true

theorem claims_iff (h : Host δ σ) (s : σ) {g : StateHandler H} {fragment : StateFragment}
    {request : Request} : g.Claims h request fragment ↔ g.owns request fragment = true := by
  constructor
  · intro hClaims
    rw [← g.run_claims h fragment request s]
    exact hClaims s
  · intro hOwns s
    rw [g.run_claims h fragment request s, hOwns]

/-- A token that is read from a claimed fragment is attested, unless the handler is one of a host
that carries such a token itself. -/
theorem attests_of_owns {g : StateHandler H} {request : Request} {fragment : StateFragment}
    {token : String} (hHost : ∀ id item, g = .carrying id item → item.kind ≠ .csrf)
    (hOwns : g.owns request fragment = true)
    (hRead : g.unserialize fragment = .ok (.csrf token)) :
    ∃ handler, g = .csrf handler ∧ handler.Attests request token := by
  obtain ⟨value, hValue, hItem⟩ := kind_of_unserialize hRead
  cases g with
  | carrying id item =>
    have hKind : ItemKind.csrf = item.kind := congrArg StateItem.kind hItem
    exact absurd hKind.symm (hHost id item rfl)
  | csrf handler =>
    obtain rfl : token = value := by
      cases hItem
      rfl
    have hToken : (decide (fragment.id = CsrfHandler.id) &&
        decide (handler.token? request = some token)) = true := by
      rw [owns, show ItemType.csrf.read? fragment.data = some token from hValue] at hOwns
      exact hOwns
    exact ⟨handler, rfl, CsrfHandler.token?_eq_some_iff.mp
      (of_decide_eq_true (Bool.and_eq_true_iff.mp hToken).2)⟩

/-- A handler of tokens, or one of an item under a name. -/
def Made (g : StateHandler H) : Prop :=
  (∃ handler, g = .csrf handler) ∨ ∃ name item, g = .named name item

theorem Made.id_cases {g : StateHandler H} (hMade : g.Made) :
    g.id = CsrfHandler.id ∨ ∃ name, g.id = "user-state:" ++ name := by
  rcases hMade with ⟨handler, rfl⟩ | ⟨name, item, rfl⟩
  · exact .inl rfl
  · exact .inr ⟨name, rfl⟩

/-- A handler of tokens is the only one that claims a fragment of tokens. -/
theorem exists_csrf_of_owns {g : StateHandler H} {request : Request} {fragment : StateFragment}
    (hMade : g.Made) (hId : fragment.id = CsrfHandler.id) (hOwns : g.owns request fragment = true) :
    ∃ handler, g = .csrf handler := by
  rcases hMade with hCsrf | ⟨name, item, rfl⟩
  · exact hCsrf
  · have hName : fragment.id = "user-state:" ++ name := id_of_owns hOwns
    exact absurd (hId.symm.trans hName) (CsrfHandler.id_ne name)

/-- The first of some handlers that claims a fragment. -/
def FirstToClaim (h : Host δ σ) (request : Request) (fragment : StateFragment)
    (handlers : List (StateHandler H)) (g : StateHandler H) : Prop :=
  ∃ before after, handlers = before ++ g :: after ∧
    (∀ e ∈ before, ¬e.Claims h request fragment) ∧ g.Claims h request fragment

theorem firstToClaim_iff (h : Host δ σ) (s : σ) {handlers : List (StateHandler H)}
    {g : StateHandler H} {fragment : StateFragment} {request : Request} :
    FirstToClaim h request fragment handlers g ↔
      handlers.find? (·.owns request fragment) = some g := by
  rw [List.find?_eq_some_iff_append]
  unfold FirstToClaim
  constructor
  · rintro ⟨before, after, hSplit, hBefore, hClaims⟩
    refine ⟨(claims_iff h s).mp hClaims, before, after, hSplit, fun e he => ?_⟩
    have hNot := hBefore e he
    rw [claims_iff h s] at hNot
    simpa using hNot
  · rintro ⟨hOwns, before, after, hSplit, hBefore⟩
    refine ⟨before, after, hSplit, fun e he => ?_, (claims_iff h s).mpr hOwns⟩
    rw [claims_iff h s]
    simpa using hBefore e he

end StateHandler

/-! ## What becomes of a fragment -/

namespace StateHandlers

open StateHandler

variable {s : StateHandlers H} {request : Request} {text : List Char}

/-- The text of a fragment is taken for an item by the first handler that claims it. -/
def Takes (s : StateHandlers H) (h : Host δ σ) (request : Request) (text : List Char)
    (g : StateHandler H) (item : StateItem H) : Prop :=
  ∃ fragment, StateFragment.decode text = .ok fragment ∧
    FirstToClaim h request fragment s.handlers g ∧ g.unserialize fragment = .ok item

/-- Why the text of a fragment is refused. -/
inductive Refuses (s : StateHandlers H) (h : Host δ σ) (request : Request) (text : List Char) :
    StateError → Prop where
  | malformed {error : StateError} (hDecode : StateFragment.decode text = .error error) :
    Refuses s h request text error
  | unclaimed {fragment : StateFragment} (hDecode : StateFragment.decode text = .ok fragment)
    (hNone : ∀ g ∈ s.handlers, ¬g.Claims h request fragment) :
    Refuses s h request text (.missingHandler fragment.id)
  | unreadable {fragment : StateFragment} {g : StateHandler H} {error : StateError}
    (hDecode : StateFragment.decode text = .ok fragment)
    (hFirst : FirstToClaim h request fragment s.handlers g)
    (hRead : g.unserialize fragment = .error error) : Refuses s h request text error

theorem verdict_eq_ok_iff (h : Host δ σ) (start : σ) {item : StateItem H} :
    s.verdict request text = .ok item ↔ ∃ g, s.Takes h request text g item := by
  unfold verdict Takes
  cases hDecode : StateFragment.decode text with
  | error error => simp
  | ok fragment =>
    simp only [firstToClaim_iff h start]
    cases hFind : s.handlers.find? (·.owns request fragment) with
    | none => simp [hFind]
    | some g => simp [hFind]

theorem verdict_eq_error_iff (h : Host δ σ) (start : σ) {error : StateError} :
    s.verdict request text = .error error ↔ s.Refuses h request text error := by
  unfold verdict
  constructor
  · intro hError
    cases hDecode : StateFragment.decode text with
    | error fault =>
      rw [hDecode] at hError
      cases hError
      exact .malformed hDecode
    | ok fragment =>
      simp only [hDecode] at hError
      cases hFind : s.handlers.find? (·.owns request fragment) with
      | none =>
        rw [hFind] at hError
        cases hError
        refine .unclaimed hDecode fun g hg => ?_
        rw [claims_iff h start]
        exact List.find?_eq_none.mp hFind g hg
      | some g =>
        rw [hFind] at hError
        exact .unreadable hDecode ((firstToClaim_iff h start).mpr hFind) hError
  · intro hRefuses
    cases hRefuses with
    | malformed hDecode => simp only [hDecode]
    | unclaimed hDecode hNone =>
      have hFind := List.find?_eq_none.mpr fun g hg => mt (claims_iff h start).mpr (hNone g hg)
      simp only [hDecode, hFind]
    | unreadable hDecode hFirst hRead =>
      simp only [hDecode, (firstToClaim_iff h start).mp hFirst, hRead]

/-! ## What becomes of a state -/

/-- A state is taken back exactly if its signature is right and every fragment of it is taken, in
its place, by the first handler that claims it; every token in it then comes from the handler of
tokens that claimed its fragment, and the client has that handler's cookie with the token. The first
fragment that is malformed, unclaimed or unreadable makes the state fail as it does. -/
theorem unserialize_whole (s : StateHandlers H) (h : Host δ σ) (raw : String) (request : Request)
    (start : σ) (hSome : s.handlers ≠ [])
    (hHost : ∀ id item, .carrying id item ∈ s.handlers → item.kind ≠ .csrf) :
    (∀ state, (h.run (s.unserialize raw request) start).1 = .ok state ↔
      ∃ payload, s.signer.extract raw = .ok payload ∧
        List.Forall₂ (fun text item => ∃ g, s.Takes h request text g item ∧
            ∀ token, item = .csrf token → ∃ handler, g = .csrf handler ∧
              handler.Attests request token)
          (StateFragment.split payload) state) ∧
    ∀ payload before text after error, s.signer.extract raw = .ok payload →
      StateFragment.split payload = before ++ text :: after →
      (∀ t ∈ before, ∀ e, ¬s.Refuses h request t e) → s.Refuses h request text error →
      (h.run (s.unserialize raw request) start).1 = .error error := by
  have hTaken (text : List Char) (item : StateItem H) :
      s.verdict request text = .ok item ↔ ∃ g, s.Takes h request text g item ∧
        ∀ token, item = .csrf token → ∃ handler, g = .csrf handler ∧
          handler.Attests request token := by
    rw [verdict_eq_ok_iff h start]
    constructor
    · rintro ⟨g, fragment, hDecode, hFirst, hRead⟩
      refine ⟨g, ⟨fragment, hDecode, hFirst, hRead⟩, ?_⟩
      rintro token rfl
      have hFind := (firstToClaim_iff h start).mp hFirst
      apply attests_of_owns _ (List.find?_some hFind) hRead
      rintro id item rfl
      exact hHost id item (List.mem_of_find?_eq_some hFind)
    · rintro ⟨g, hTakes, -⟩
      exact ⟨g, hTakes⟩
  rw [run_unserialize h hSome raw request start]
  refine ⟨?_, ?_⟩
  · intro state
    cases s.signer.extract raw with
    | error error => simp
    | ok payload => simp only [Except.mapM_eq_ok_iff, hTaken, Except.ok.injEq, exists_eq_left']
  · intro payload before text after error hExtract hSplit hBefore hRefuses
    simp only [hExtract, hSplit]
    apply Except.mapM_eq_error _ ((verdict_eq_error_iff h start).mpr hRefuses)
    intro t ht
    cases hVerdict : s.verdict request t with
    | ok item => exact ⟨item, rfl⟩
    | error e => exact absurd ((verdict_eq_error_iff h start).mp hVerdict) (hBefore t ht e)

/-- A text and a token, brought back with the cookie of the token and without it. -/
theorem unserialize_whole_with_token :
    let H : HostItems := { Kind := Unit, type := fun _ => .text }
    let signer : Signer := ⟨List.replicate 32 0, "pepper", by decide⟩
    let s : StateHandlers H :=
      ⟨[.named "return-to" ⟨.host (), "/orders"⟩, .csrf ⟨{}, 0, signer⟩], signer⟩
    let h : Host Unit (Surroundings Unit) := Surroundings.steady
    let nonce : Vector UInt8 16 := .replicate 16 7
    let cookie := signer.sign nonce "token"
    let raw := signer.sign nonce (StateFragment.join
      [⟨"user-state:return-to", .string "/orders"⟩,
        ⟨"csrf-state", .object [("token", .string "token")]⟩])
    (h.run (s.unserialize raw (({} : Request).bringing "OAuth2State" (some cookie))) {}).1 =
        .ok [⟨.host (), "/orders"⟩, .csrf "token"] ∧
      (h.run (s.unserialize raw {}) {}).1 = .error (.missingHandler "csrf-state") := by
  intro H signer s h nonce cookie raw
  let returned : StateFragment := ⟨"user-state:return-to", .string "/orders"⟩
  let token : StateFragment := ⟨"csrf-state", .object [("token", .string "token")]⟩
  have hReturned : returned.data.Spelled := ⟨trivial, trivial, by decide⟩
  have hToken : token.data.Spelled :=
    ⟨⟨trivial, trivial⟩, ⟨List.pairwise_singleton _ _, trivial, trivial⟩, by decide⟩
  have hSplit : StateFragment.split (StateFragment.join [returned, token]) =
      [returned.encode, token.encode] := StateFragment.split_join (List.cons_ne_nil _ _)
  have hExtract : s.signer.extract raw = .ok (StateFragment.join [returned, token]) :=
    signer.extract_sign nonce _
  have hHost : ∀ id item, .carrying id item ∈ s.handlers → item.kind ≠ .csrf := by
    intro id item hMem
    rcases List.mem_cons.mp hMem with hFirst | hLater
    · cases hFirst
      decide
    · cases List.mem_singleton.mp hLater
  have hText (request : Request) : s.verdict request returned.encode =
      .ok ⟨.host (), "/orders"⟩ := verdict_encode hReturned
  refine ⟨?_, ?_⟩
  · let brought : Request := ({} : Request).bringing "OAuth2State" (some cookie)
    have hWith : (⟨{}, 0, signer⟩ : CsrfHandler).Attests brought "token" :=
      ⟨cookie, Request.cookie?_bringing _ _ _, signer.extract_sign nonce "token"⟩
    have hOwns : (.csrf ⟨{}, 0, signer⟩ : StateHandler H).owns brought token = true :=
      owns_of_attests rfl rfl hWith
    have hFind : s.handlers.find? (·.owns brought token) = some (.csrf ⟨{}, 0, signer⟩) := by
      rw [List.find?_cons_of_neg (by decide), List.find?_cons_of_pos hOwns]
    have hGuarded : s.verdict brought token.encode = .ok (.csrf "token") := by
      rw [verdict_encode hToken, hFind]
      rfl
    exact run_unserialize_join h (List.cons_ne_nil _ _) (List.cons_ne_nil _ _)
      (.cons (hText brought) (.cons hGuarded .nil)) nonce {}
  · apply (unserialize_whole s h raw {} {} (List.cons_ne_nil _ _) hHost).2 _ [returned.encode]
      token.encode [] _ hExtract hSplit
    · intro t ht e hRefuses
      have hError := (verdict_eq_error_iff h {}).mpr hRefuses
      rw [List.mem_singleton.mp ht, hText] at hError
      cases hError
    · apply (verdict_eq_error_iff h {}).mp
      exact verdict_encode hToken

/-! ## States without a token -/

/-- Some fragment of a signed text is one of tokens. -/
def HasToken (payload : String) : Prop :=
  ∃ text ∈ StateFragment.split payload, ∃ fragment,
    StateFragment.decode text = .ok fragment ∧ fragment.id = CsrfHandler.id

/-- Without a fragment of tokens nothing of the request is looked at. -/
theorem verdict_of_not_hasToken {payload : String} (hNone : ¬HasToken payload)
    (hText : text ∈ StateFragment.split payload) (other : Request) :
    s.verdict request text = s.verdict other text := by
  unfold verdict
  cases hDecode : StateFragment.decode text with
  | error error => rfl
  | ok fragment =>
    have hId : fragment.id ≠ CsrfHandler.id := fun h => hNone ⟨text, hText, fragment, hDecode, h⟩
    have hSame (g : StateHandler H) : g.owns request fragment = g.owns other fragment :=
      owns_of_ne hId request other
    simp only [hSame]

/-- The cookie is asked for by exactly the states that have a fragment of tokens: these are taken
back only from a client whose cookie has the token of the state, all others from any client. -/
theorem csrf_enforced_iff (s : StateHandlers H) (h : Host δ σ) {handler : CsrfHandler}
    {raw payload : String} {request : Request} {start : σ} {state : LoginState H}
    (hMade : ∀ g ∈ s.handlers, g.Made) (hHandler : .csrf handler ∈ s.handlers)
    (hExtract : s.signer.extract raw = .ok payload)
    (hTaken : (h.run (s.unserialize raw request) start).1 = .ok state) :
    (HasToken payload ↔ ∀ other later items, (h.run (s.unserialize raw other) later).1 = .ok items →
      ∃ claimant token, .csrf claimant ∈ s.handlers ∧ claimant.Attests other token ∧
        .csrf token ∈ items) ∧
    (¬HasToken payload → ∀ other later, (h.run (s.unserialize raw other) later).1 = .ok state) := by
  have hSome : s.handlers ≠ [] := List.ne_nil_of_mem hHandler
  have hRun (other : Request) (later : σ) : (h.run (s.unserialize raw other) later).1 =
      (StateFragment.split payload).mapM (s.verdict other) := by
    rw [run_unserialize h hSome, hExtract]
  have hAny : ¬HasToken payload →
      ∀ other later, (h.run (s.unserialize raw other) later).1 = .ok state := by
    intro hNone other later
    have hSame : (StateFragment.split payload).mapM (s.verdict other) =
        (StateFragment.split payload).mapM (s.verdict request) :=
      Except.mapM_congr fun text hText => verdict_of_not_hasToken hNone hText request
    rw [hRun, hSame, ← hRun request start]
    exact hTaken
  refine ⟨⟨?_, ?_⟩, hAny⟩
  · rintro ⟨text, hText, fragment, hDecode, hId⟩ other later items hItems
    rw [hRun] at hItems
    obtain ⟨item, hItem, hVerdict⟩ := Except.exists_of_mapM_eq_ok hItems hText
    obtain ⟨g, found, hFound, hFirst, hRead⟩ := (verdict_eq_ok_iff h start).mp hVerdict
    obtain rfl : fragment = found := Except.ok.inj (hDecode.symm.trans hFound)
    have hFind := (firstToClaim_iff h start).mp hFirst
    have hg := List.mem_of_find?_eq_some hFind
    have hOwns := List.find?_some hFind
    obtain ⟨claimant, rfl⟩ := exists_csrf_of_owns (hMade g hg) hId hOwns
    obtain ⟨token, -, rfl⟩ := kind_of_unserialize hRead
    have hToken := attests_of_owns (fun _ _ hHost => by cases hHost) hOwns hRead
    obtain ⟨made, hMade, hAttests⟩ := hToken
    obtain rfl : claimant = made := StateHandler.csrf.inj hMade
    exact ⟨claimant, token, hg, hAttests, hItem⟩
  · intro hEnforced
    by_contra hNone
    obtain ⟨claimant, token, -, ⟨cookie, hCookie, -⟩, -⟩ :=
      hEnforced {} start state (hAny hNone {} start)
    cases hCookie

/-- A state with a token is taken back from its own client, so only from clients like it. -/
theorem csrf_enforced_of_token :
    let H : HostItems := { Kind := Unit, type := fun _ => .text }
    let signer : Signer := ⟨List.replicate 32 0, "pepper", by decide⟩
    let s : StateHandlers H := ⟨[.csrf ⟨{}, 0, signer⟩], signer⟩
    let h : Host Unit (Surroundings Unit) := Surroundings.steady
    let raw := signer.sign (.replicate 16 7) (StateFragment.join
      [⟨"csrf-state", .object [("token", .string "token")]⟩])
    ∀ request later items, (h.run (s.unserialize raw request) later).1 = .ok items →
      ∃ claimant token, .csrf claimant ∈ s.handlers ∧ claimant.Attests request token ∧
        .csrf token ∈ items := by
  intro H signer s h raw
  let token : StateFragment := ⟨"csrf-state", .object [("token", .string "token")]⟩
  have hToken : token.data.Spelled :=
    ⟨⟨trivial, trivial⟩, ⟨List.pairwise_singleton _ _, trivial, trivial⟩, by decide⟩
  have hSplit : StateFragment.split (StateFragment.join [token]) = [token.encode] :=
    StateFragment.split_join (List.cons_ne_nil _ _)
  have hExtract : s.signer.extract raw = .ok (StateFragment.join [token]) :=
    signer.extract_sign _ _
  let cookie := signer.sign (.replicate 16 8) "token"
  let brought : Request := ({} : Request).bringing "OAuth2State" (some cookie)
  have hWith : (⟨{}, 0, signer⟩ : CsrfHandler).Attests brought "token" :=
    ⟨cookie, Request.cookie?_bringing _ _ _, signer.extract_sign _ "token"⟩
  have hOwns : (.csrf ⟨{}, 0, signer⟩ : StateHandler H).owns brought token = true :=
    owns_of_attests rfl rfl hWith
  have hFind : s.handlers.find? (·.owns brought token) = some (.csrf ⟨{}, 0, signer⟩) :=
    List.find?_cons_of_pos hOwns
  have hVerdict : s.verdict brought token.encode = .ok (.csrf "token") := by
    rw [verdict_encode hToken, hFind]
    rfl
  have hTaken : (h.run (s.unserialize raw brought) {}).1 = .ok [.csrf "token"] :=
    run_unserialize_join h (List.cons_ne_nil _ _) (List.cons_ne_nil _ _)
      (.cons hVerdict .nil) (.replicate 16 7) {}
  have hMade : ∀ g ∈ s.handlers, g.Made := by
    intro g hg
    exact .inl ⟨_, List.mem_singleton.mp hg⟩
  apply (csrf_enforced_iff s h hMade List.mem_cons_self hExtract hTaken).1.mp
  refine ⟨token.encode, ?_, token, StateFragment.decode_encode hToken, rfl⟩
  rw [hSplit]
  exact List.mem_cons_self

/-- A handler of tokens is bypassed by a state of other handlers that share the signer: without a
cookie the state is taken back, and no token is in it. -/
theorem csrf_bypassed :
    let H : HostItems := { Kind := Unit, type := fun _ => .textRecord "ReturnTo" "path" }
    let signer : Signer := ⟨List.replicate 32 0, "pepper", by decide⟩
    let item : StateItem H := ⟨.host (), "/dashboard"⟩
    let issuer : StateHandlers H := ⟨[.named "return-to" item], signer⟩
    let s := issuer.withHandler (.csrf ⟨{}, 0, signer⟩)
    let h : Host Unit (Surroundings Unit) := Surroundings.steady
    ({} : Request).cookie? "OAuth2State" = none ∧ (∀ token, .csrf token ∉ [item]) ∧
      ∃ raw, (h.run (issuer.serialize [item]) {}).1 = .ok raw ∧
        (h.run (s.unserialize raw {}) {}).1 = .ok [item] := by
  intro H signer item issuer s h
  let returned : StateFragment :=
    ⟨"user-state:return-to", .object [("path", .string "/dashboard")]⟩
  have hReturned : returned.data.Spelled :=
    ⟨⟨trivial, trivial⟩, ⟨List.pairwise_singleton _ _, trivial, trivial⟩, by decide⟩
  have hVerdict : s.verdict {} returned.encode = .ok item := verdict_encode hReturned
  refine ⟨rfl, ?_, signer.sign (Surroundings.takeBytes {} 16).1 (StateFragment.join [returned]),
    rfl, ?_⟩
  · intro token hMem
    cases congrArg StateItem.kind (List.mem_singleton.mp hMem)
  · exact run_unserialize_join h (List.cons_ne_nil _ _) (List.cons_ne_nil _ _)
      (.cons hVerdict .nil) _ {}

end StateHandlers

end WebLogin

