import WebLogin.Proofs.Except
import WebLogin.Proofs.Lifecycle.Host
import WebLogin.Proofs.Signed.Signer
import WebLogin.Proofs.State.Fragment
import WebLogin.State.Login

/-!
# Which handler a fragment belongs to

What a handler claims depends on a fragment and a request alone, although a host is told of it.

* `CsrfHandler.token?`, `StateHandler.owns`: the token that a request attests, and what a handler
  claims. `run_claims` says that a run comes to the same.
* `StateHandlers.verdict`: what becomes of the text of a fragment.
* `run_serialize_eq`, `run_unserialize`: a state is signed as one text, and it is taken back by one
  verdict for each fragment.
-/

namespace WebLogin

variable {H : HostItems} {δ σ : Type}

/-! ## What a handler claims -/

namespace CsrfHandler

/-- A request has the cookie of the handler, rightly signed, and the token is in it. -/
def Attests (handler : CsrfHandler) (request : Request) (token : String) : Prop :=
  ∃ raw, request.cookie? handler.settings.cookie.name = some raw ∧
    handler.signer.extract raw = .ok token

/-- The token that a request attests. -/
def token? (handler : CsrfHandler) (request : Request) : Option String :=
  match request.cookie? handler.settings.cookie.name with
  | none => none
  | some raw =>
    match handler.signer.extract raw with
    | .ok token => some token
    | .error _ => none

variable {handler : CsrfHandler} {request : Request} {token : String}

theorem id_ne (name : String) : id ≠ "user-state:" ++ name := by
  intro hEq
  have hList := congrArg String.toList hEq
  rw [String.toList_append] at hList
  cases hList

theorem token?_eq_some_iff :
    handler.token? request = some token ↔ handler.Attests request token := by
  unfold token? Attests
  cases hCookie : request.cookie? handler.settings.cookie.name with
  | none => simp
  | some raw => cases hExtract : handler.signer.extract raw <;> simp [hExtract]

theorem run_cookieToken (h : Host δ σ) (handler : CsrfHandler) (request : Request) (s : σ) :
    (h.run (handler.cookieToken request) s).1 = handler.token? request := by
  unfold cookieToken token?
  cases request.cookie? handler.settings.cookie.name with
  | none => rfl
  | some raw => cases hExtract : handler.signer.extract raw <;> simp only [hExtract] <;> rfl

theorem run_matchesCookie (h : Host δ σ) (handler : CsrfHandler) (token : String)
    (request : Request) (s : σ) :
    (h.run (handler.matchesCookie token request) s).1 =
      decide (handler.token? request = some token) := by
  simp only [matchesCookie, Program.bind_eq, h.run_bind, run_cookieToken]
  cases handler.token? request with
  | none => rfl
  | some found =>
    by_cases hSame : found = token
    · simp [hSame]
    · have hOther : ¬(some found = some token) := fun h => hSame (Option.some.inj h)
      simp only [if_neg hSame, decide_eq_false hOther]
      rfl

end CsrfHandler

namespace StateHandler

/-- Whether a handler claims a fragment that a request brings. -/
def owns (request : Request) (fragment : StateFragment) : StateHandler H → Bool
  | csrf handler =>
    match ItemType.csrf.read? fragment.data with
    | some (token : String) =>
      fragment.id = CsrfHandler.id && handler.token? request = some token
    | none => false
  | carrying id item => fragment.id = id && (item.kind.type.read? fragment.data).isSome

theorem run_claims (h : Host δ σ) (g : StateHandler H) (fragment : StateFragment)
    (request : Request) (s : σ) :
    (h.run (g.claims fragment request) s).1 = g.owns request fragment := by
  cases g with
  | carrying id item => rfl
  | csrf handler =>
    by_cases hId : fragment.id = CsrfHandler.id
    · simp only [claims, CsrfHandler.claims, owns, if_pos hId]
      cases ItemType.csrf.read? fragment.data with
      | none => rfl
      | some token =>
        change (h.run (handler.matchesCookie token request) s).1 =
          (decide (fragment.id = CsrfHandler.id) &&
            decide (handler.token? request = (some token : Option String)))
        rw [decide_eq_true hId, Bool.true_and]
        exact handler.run_matchesCookie h token request s
    · simp only [claims, CsrfHandler.claims, owns, if_neg hId, decide_eq_false hId, Bool.false_and]
      cases ItemType.csrf.read? fragment.data <;> rfl

theorem kind_of_unserialize {g : StateHandler H} {fragment : StateFragment} {item : StateItem H}
    (hRead : g.unserialize fragment = .ok item) :
    ∃ value, g.kind.type.read? fragment.data = some value ∧ item = ⟨g.kind, value⟩ := by
  unfold unserialize at hRead
  cases hJson : StateItem.ofJson? g.kind fragment.data with
  | none =>
    rw [hJson] at hRead
    cases hRead
  | some found =>
    rw [hJson] at hRead
    cases hRead
    obtain ⟨value, hValue, hItem⟩ := Option.map_eq_some_iff.mp hJson
    exact ⟨value, hValue, hItem.symm⟩

theorem owns_of_attests {handler : CsrfHandler} {request : Request} {fragment : StateFragment}
    {token : String} (hId : fragment.id = CsrfHandler.id)
    (hRead : ItemType.csrf.read? fragment.data = some token)
    (hAttests : handler.Attests request token) :
    (csrf handler : StateHandler H).owns request fragment = true := by
  rw [owns, hRead]
  exact Bool.and_eq_true_iff.mpr
    ⟨decide_eq_true hId, decide_eq_true (CsrfHandler.token?_eq_some_iff.mpr hAttests)⟩

theorem owns_of_ne {g : StateHandler H} {fragment : StateFragment}
    (hId : fragment.id ≠ CsrfHandler.id) (request other : Request) :
    g.owns request fragment = g.owns other fragment := by
  cases g with
  | carrying id item => rfl
  | csrf handler =>
    simp only [owns, decide_eq_false hId, Bool.false_and]

theorem id_of_owns {g : StateHandler H} {request : Request} {fragment : StateFragment}
    (hOwns : g.owns request fragment = true) : fragment.id = g.id := by
  cases g with
  | carrying id item => exact of_decide_eq_true (Bool.and_eq_true_iff.mp hOwns).1
  | csrf handler =>
    simp only [owns] at hOwns
    split at hOwns
    · exact of_decide_eq_true (Bool.and_eq_true_iff.mp hOwns).1
    · cases hOwns

end StateHandler

/-! ## What becomes of a fragment -/

namespace StateHandlers

open StateHandler

/-- What becomes of the text of a fragment, apart from what is reported. -/
def verdict (s : StateHandlers H) (request : Request) (text : List Char) :
    Except StateError (StateItem H) :=
  match StateFragment.decode text with
  | .error error => .error error
  | .ok fragment =>
    match s.handlers.find? (·.owns request fragment) with
    | none => .error (.missingHandler fragment.id)
    | some g => g.unserialize fragment

variable {s : StateHandlers H} {request : Request} {text : List Char}

theorem run_takeBack (h : Host δ σ) (s : StateHandlers H) (request : Request) (text : List Char)
    (start : σ) : (h.run (s.takeBack request text) start).1 = s.verdict request text := by
  unfold takeBack verdict
  cases StateFragment.decode text with
  | error error => rfl
  | ok fragment =>
    have hFirst : (h.run (Program.first? (·.claims fragment request) s.handlers) start).1 =
        s.handlers.find? (·.owns request fragment) :=
      h.run_first? (fun g _ later => g.run_claims h fragment request later) start
    simp only [Program.bind_eq, h.run_bind, hFirst]
    cases s.handlers.find? (·.owns request fragment) <;> rfl

theorem verdict_encode {fragment : StateFragment} (hData : fragment.data.Spelled) :
    s.verdict request (StateFragment.encode fragment) =
      match s.handlers.find? (·.owns request fragment) with
      | none => .error (.missingHandler fragment.id)
      | some g => g.unserialize fragment := by
  rw [verdict, StateFragment.decode_encode hData]

/-! ## What becomes of a state -/

theorem run_serialize_eq (h : Host δ σ) {state : LoginState H} (hSome : state ≠ []) (start : σ) :
    (h.run (s.serialize state) start).1 = (state.mapM s.fragment).map fun fragments =>
      s.signer.sign (h.answer (.randomBytes 16) start).1 (StateFragment.join fragments) := by
  unfold serialize
  rw [if_neg (by rw [List.isEmpty_eq_false_iff.mpr hSome]; decide)]
  cases state.mapM s.fragment <;> rfl

theorem run_unserialize (h : Host δ σ) {s : StateHandlers H} (hSome : s.handlers ≠ [])
    (raw : String) (request : Request) (start : σ) :
    (h.run (s.unserialize raw request) start).1 =
      match s.signer.extract raw with
      | .error error => .error (.ofCodec error)
      | .ok payload => (StateFragment.split payload).mapM (s.verdict request) := by
  unfold unserialize
  rw [if_neg (by rw [List.isEmpty_eq_false_iff.mpr hSome]; decide)]
  cases s.signer.extract raw with
  | error error => rfl
  | ok payload =>
    exact h.run_collect (fun text _ later => s.run_takeBack h request text later) start

theorem run_unserialize_join (h : Host δ σ) {fragments : List StateFragment}
    {items : LoginState H} (hHandlers : s.handlers ≠ []) (hSome : fragments ≠ [])
    (hAll : List.Forall₂ (fun f item => s.verdict request (StateFragment.encode f) = .ok item)
      fragments items) (nonce : Vector UInt8 16) (start : σ) :
    (h.run (s.unserialize (s.signer.sign nonce (StateFragment.join fragments)) request) start).1 =
      .ok items := by
  rw [run_unserialize h hHandlers, s.signer.extract_sign]
  simp only [StateFragment.split_join hSome]
  rw [Except.mapM_eq_ok_iff, List.forall₂_map_left_iff]
  exact hAll

end StateHandlers

end WebLogin
