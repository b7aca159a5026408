import WebLogin.Proofs.Lifecycle.Client
import WebLogin.Proofs.Web.Browser

/-!
# Discarding

To discard an authenticator takes its record out of the store, where there is one, and has its value
leave the client. The response changes in the one place in which the carrier's value goes along, and
whatever it brought there before counts no more.

* `Sends`: the responses that give a client a value.
* `same_clear`, `clear_clear`: what clearing a response leaves as it is, and that once is enough.
* `forgotten_take`: after a cleared response the client's browser, or its session at the host, holds no
  value of the carrier.
* `discard_clears`: every service, store and response.
-/

namespace WebLogin.Service

variable {δ ν σ : Type}

/-! ## What discarding is about -/

/-- The responses that `embed` makes with a new value, and those that `update` makes. -/
inductive Sends (S : Service δ ν) (h : Host δ σ) (before sent : Response) : Prop where
  | embed (a : Authenticator δ) (s : σ) (value : ν)
      (hStart : (h.run (S.carrier.start a) s).1 = .ok value)
      (hEmbed : S.carrier.embed value before = .ok sent)
  | update (a : Authenticator δ) (s : σ)
      (hUpdate : (h.run (S.carrier.update a before) s).1 = .ok sent)

/-- The place of a response in which the carrier's value goes along. -/
def ownSlot : Service δ ν → Response.Slot
  | cookie settings _ _ => .cookie settings.cookie.name
  | session settings _ _ => .session settings.key
  | bearer settings => .header settings.header.text
  | jwt settings _ _ => .header settings.header.text

/-- The value is taken out of a response: there is an empty cookie that is over, which has the name, path
and domain of the cookies that are sent; or the key is removed and not set; or the header is not there. -/
def Withdrawn : Service δ ν → Host δ σ → Response → Prop
  | cookie settings keeping fingerprint, h, r =>
    ∃ c, r.cookie? settings.cookie.name = some c ∧ c.name = settings.cookie.name ∧ c.value = "" ∧
      c.maxAge = some .zero ∧
        ∀ before sent, (cookie settings keeping fingerprint).Sends h before sent → sent = before ∨
          ∃ fresh, sent = before.setCookie fresh ∧ fresh.name = c.name ∧ fresh.path = c.path ∧
            fresh.domain = c.domain
  | session settings _ _, _, r =>
    r.session.set.find? settings.key = none ∧ r.session.removed.contains settings.key = true
  | bearer settings, _, r => r.headers.find? settings.header.text = none
  | jwt settings _ _, _, r => r.headers.find? settings.header.text = none

/-- Neither the client's browser has a cookie like those of the service, nor the host a value under its
key. Tokens in headers are kept by neither. -/
def Forgotten : Service δ ν → Held → Prop
  | cookie settings _ _, held =>
    ∀ maxAge value, held.browser.Lacks (settings.cookie.cookie maxAge value).identity
  | session settings _ _, held => held.session.find? settings.key = none
  | _, _ => True

/-! ## What a client is sent -/

variable {S : Service δ ν} {h : Host δ σ} {before sent : Response}

/-- What is sent is a value of an authenticator, or the response stays as it is. -/
theorem Sends.eq_or_place (hSends : S.Sends h before sent) :
    sent = before ∨ ∃ a raw, S.carrier.place (S.carrier.wrap a raw) before = .ok sent := by
  cases hSends with
  | embed a s value hStart hEmbed =>
    rw [Carrier.run_start] at hStart
    cases hIssue : (h.run (S.carrier.issue a) s).1 with
    | error cause =>
      rw [hIssue] at hStart
      cases hStart
    | ok raw =>
      rw [hIssue] at hStart
      obtain rfl := Except.ok.inj hStart
      exact .inr ⟨a, raw, Except.mapError_eq_ok_iff.mp hEmbed⟩
  | update a s hUpdate =>
    rw [(S.carrier.run_update h a before s).1] at hUpdate
    cases hReissue : (h.run (S.carrier.reissue a) s).1 with
    | error cause =>
      rw [hReissue] at hUpdate
      cases hUpdate
    | ok given =>
      rw [hReissue] at hUpdate
      cases given with
      | none => exact .inl (Except.ok.inj hUpdate).symm
      | some raw => exact .inr ⟨a, raw, Except.mapError_eq_ok_iff.mp hUpdate⟩

theorem change_of_placeToken {header : HeaderName} {token : String}
    (hPlaced : TokenHeader.place header token before = .ok sent) :
    ∃ value, sent = before.setHeader header value := by
  unfold TokenHeader.place Response.setHeaderText? at hPlaced
  cases hValue : HeaderValue.ofString? token with
  | none =>
    rw [hValue] at hPlaced
    cases hPlaced
  | some value =>
    rw [hValue] at hPlaced
    exact ⟨value, (Except.ok.inj hPlaced).symm⟩

/-- To put a value into a response is one change of it. -/
theorem change_of_place {value : ν} (hPlaced : S.carrier.place value before = .ok sent) :
    ∃ change, sent = before.change change := by
  cases S with
  | cookie settings keeping fingerprint =>
    exact ⟨.setCookie value, (Except.ok.inj hPlaced).symm⟩
  | session settings codec fingerprint =>
    exact ⟨.setSessionValue settings.key value, (Except.ok.inj hPlaced).symm⟩
  | bearer settings =>
    obtain ⟨header, rfl⟩ := change_of_placeToken hPlaced
    exact ⟨.setHeader settings.header header, rfl⟩
  | jwt settings codec stored =>
    obtain ⟨header, rfl⟩ := change_of_placeToken hPlaced
    exact ⟨.setHeader settings.header header, rfl⟩

theorem Sends.exists_made {changes : List Response.Change} (hSends : S.Sends h (.made changes) sent) :
    ∃ changes', sent = .made changes' := by
  rcases hSends.eq_or_place with rfl | ⟨a, raw, hPlaced⟩
  · exact ⟨changes, rfl⟩
  · obtain ⟨change, rfl⟩ := change_of_place hPlaced
    exact ⟨changes ++ [change], (Response.made_concat changes change).symm⟩

/-! ## What clearing leaves -/

theorem same_clear {slot : Response.Slot} (hSlot : slot ≠ S.ownSlot) (r : Response) :
    (S.carrier.clear r).Same r slot := by
  cases S with
  | cookie settings keeping fingerprint => exact Response.same_setCookie hSlot r
  | session settings codec fingerprint => exact Response.same_removeSessionValue hSlot r
  | bearer settings => exact Response.same_removeHeader hSlot r
  | jwt settings codec stored => exact Response.same_removeHeader hSlot r

theorem clear_clear (S : Service δ ν) (r : Response) :
    S.carrier.clear (S.carrier.clear r) = S.carrier.clear r := by
  cases S with
  | cookie settings keeping fingerprint => exact r.removeCookie_removeCookie settings.cookie.removal
  | session settings codec fingerprint => exact r.removeSessionValue_removeSessionValue settings.key
  | bearer settings => exact r.removeHeader_removeHeader settings.header
  | jwt settings codec stored => exact r.removeHeader_removeHeader settings.header

theorem withdrawn_clear (S : Service δ ν) (h : Host δ σ) (r : Response) :
    S.Withdrawn h (S.carrier.clear r) := by
  cases S with
  | cookie settings keeping fingerprint =>
    refine ⟨settings.cookie.removal.removal, r.cookie?_setCookie settings.cookie.removal.removal, rfl, rfl,
      rfl, fun before sent hSends => ?_⟩
    rcases hSends.eq_or_place with hSame | ⟨a, raw, hPlaced⟩
    · exact .inl hSame
    · exact .inr ⟨settings.cookie.cookie a.details.maxAge raw, (Except.ok.inj hPlaced).symm, rfl, rfl,
        rfl⟩
  | session settings codec fingerprint => exact r.session.find?_erase settings.key
  | bearer settings => exact r.headers.find?_erase_self settings.header.text
  | jwt settings codec stored => exact r.headers.find?_erase_self settings.header.text

/-! ## What the client is left with -/

theorem forgotten_take {r : Response} (hNamed : r.Named) (held : Held) (now : Instant) :
    S.Forgotten (held.take now (S.carrier.clear r)) := by
  cases S with
  | cookie settings keeping fingerprint =>
    intro maxAge value
    -- name, path and domain are the template's, in a removal as in any other of its cookies
    exact Browser.lacks_take (c := settings.cookie.removal) (hNamed.setCookie _)
      (r.cookie?_setCookie settings.cookie.removal.removal) held.browser now
  | session settings codec fingerprint =>
    obtain ⟨hSet, hRemoved⟩ := r.session.find?_erase settings.key
    change ((r.session.erase settings.key).applyTo held.session).find? settings.key = none
    rw [SessionChanges.find?_applyTo, hSet, if_pos hRemoved]
    rfl
  | bearer settings => trivial
  | jwt settings codec stored => trivial

/-! ## Discarding -/

theorem without_without (S : Service δ ν) (store : Store δ) (id : String) :
    S.without (S.without store id) id = S.without store id := by
  unfold without
  split
  · rw [Store.remove, Store.remove, Dictionary.erase_erase]
  · rfl

theorem discard_reliable (hReliable : S.isStored = true → h.Reliable) (a : Authenticator δ)
    (response : Response) (s : σ) :
    (h.run (S.carrier.discard a response) s).1 = .ok (S.carrier.clear response) ∧
      h.store (h.run (S.carrier.discard a response) s).2 = S.without (h.store s) a.id := by
  obtain ⟨hResult, hStore⟩ := S.carrier.run_discard h a response s
  have hRevoked := revoke_reliable hReliable a.id s
  rw [hResult, hStore, hRevoked]
  refine ⟨rfl, ?_⟩
  rcases S.revoke_outcome h a.id s with ⟨-, hAfter, -⟩ | ⟨fault, hFailed, -, -⟩
  · exact hAfter
  · rw [hRevoked] at hFailed
    cases hFailed

/-- To discard an authenticator succeeds, takes its record out of the store, and takes the carrier's
value, and nothing else, out of the response; to do so again changes nothing. After that response the
client's browser and its session hold no value of the carrier, whatever they held, and so it is where a
value was sent before, in a response of its own or in the same one. -/
theorem discard_clears (S : Service δ ν) (h : Host δ σ) (hReliable : S.isStored = true → h.Reliable)
    (a : Authenticator δ) (changes : List Response.Change) (s : σ) :
    let response := Response.made changes
    ∃ cleared, (h.run (S.carrier.discard a response) s).1 = .ok cleared ∧
      h.store (h.run (S.carrier.discard a response) s).2 = S.without (h.store s) a.id ∧
      (∀ slot, slot ≠ S.ownSlot → cleared.Same response slot) ∧ S.Withdrawn h cleared ∧
      (∀ s', h.store s' = S.without (h.store s) a.id →
        (h.run (S.carrier.discard a cleared) s').1 = .ok cleared ∧
          h.store (h.run (S.carrier.discard a cleared) s').2 = h.store s') ∧
      (∀ (held : Held) now, S.Forgotten (held.take now cleared)) ∧
      ∀ earlier sent, S.Sends h (.made earlier) sent → ∀ (held : Held) now now',
        S.Forgotten ((held.take now sent).take now' cleared) ∧
          ∃ both, (h.run (S.carrier.discard a sent) s).1 = .ok both ∧
            S.Forgotten (held.take now both) := by
  intro response
  have hNamed : response.Named := Response.named_made changes
  obtain ⟨hResult, hStore⟩ := discard_reliable hReliable a response s
  refine ⟨S.carrier.clear response, hResult, hStore, fun slot hSlot => same_clear hSlot response,
    S.withdrawn_clear h response, fun s' hAfter => ?_, forgotten_take hNamed,
    fun earlier sent hSends held now now' => ⟨forgotten_take hNamed _ now', ?_⟩⟩
  · obtain ⟨hAgain, hStoreAgain⟩ := discard_reliable hReliable a (S.carrier.clear response) s'
    rw [hAgain, hStoreAgain, S.clear_clear, hAfter, S.without_without]
    exact ⟨rfl, rfl⟩
  · obtain ⟨changes', rfl⟩ := hSends.exists_made
    exact ⟨_, (discard_reliable hReliable a _ s).1,
      forgotten_take (Response.named_made changes') held now⟩

/-- The browser has the cookie of a stored login, and the response that is to end it sets the cookie anew:
both are gone. -/
theorem discard_clears_stored_cookie :
    let S : Service CookieDetails Cookie := .cookie {} .storeBacked fun _ => ""
    let a : CookieAuthenticator :=
      ⟨"id-1", ⟨"credentials", "alice@example.com"⟩, .epoch, .epoch, none, ⟨none, none⟩⟩
    let held : Held := ⟨⟨[S.carrier.wrap a "id-1"], by decide⟩, .empty⟩
    let before : Surroundings CookieDetails := { store := ({} : Store CookieDetails).add a }
    let run := Surroundings.steady.run
      (S.carrier.discard a (.made [.setCookie (S.carrier.wrap a "id-1")])) before
    ∃ cleared, run.1 = .ok cleared ∧ run.2.store.find? "id-1" = none ∧
      ∀ now, (held.take now cleared).browser.Lacks (S.carrier.wrap a "id-1").identity := by
  intro S a held before run
  obtain ⟨cleared, hResult, hStore, -, -, -, hForgotten, -⟩ := S.discard_clears Surroundings.steady
    (fun _ => Surroundings.reliable_steady) a [.setCookie (S.carrier.wrap a "id-1")] before
  refine ⟨cleared, hResult, ?_, fun now => hForgotten held now none "id-1"⟩
  have hRemoved : run.2.store = before.store.remove "id-1" := hStore
  rw [hRemoved, Store.find?_remove]
  exact if_pos rfl

end WebLogin.Service
