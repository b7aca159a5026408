import WebLogin.Proofs.Lifecycle.Discard
import WebLogin.Proofs.Lifecycle.Twins

/-!
# What goes along for twins

Values, responses and requests that differ in the wire value at most, and what carriers do with them. Wire
values of twins that are not the same are texts of which the place makes nothing special; so the one is
taken or refused where the other is.

* `unreserved_of_counterpart`: the texts of such values.
* `ValuesMatch`, `ResponsesMatch`, `RequestsMatch`: what differs in the wire value at most.
* `rel_place`, `match_clear`, `rel_holding`: values that are put into responses, or taken out, and what a
  client then holds.
-/

namespace WebLogin

open Text (Unreserved)

namespace Service

variable {δ ν : Type}

/-! ## Values, responses and requests -/

/-- Two values around wire values that are counterparts. -/
def ValuesMatch (S : Service δ ν) (v v' : ν) : Prop :=
  ∃ a raw raw', v = S.carrier.wrap a raw ∧ v' = S.carrier.wrap a raw' ∧ S.Counterpart raw raw'

/-- The same header value, or two that are made of counterparts. -/
def HeadersMatch (S : Service δ ν) (value value' : HeaderValue) : Prop :=
  value = value' ∨ ∃ raw raw', S.Counterpart raw raw' ∧ HeaderValue.ofString? raw = some value ∧
    HeaderValue.ofString? raw' = some value'

/-- In the place of a response in which the carrier's value goes along, there are values that match, or
there is the same. -/
def OwnMatch : Service δ ν → Response → Response → Prop
  | cookie settings keeping fingerprint, r, r' =>
    Option.Rel (fun c c' => c = c' ∨ (cookie settings keeping fingerprint).ValuesMatch c c')
      (r.cookie? settings.cookie.name) (r'.cookie? settings.cookie.name)
  | session settings codec fingerprint, r, r' =>
    Option.Rel (session settings codec fingerprint).Counterpart (r.session.set.find? settings.key)
        (r'.session.set.find? settings.key) ∧
      r.session.removed.find? settings.key = r'.session.removed.find? settings.key
  | bearer settings, r, r' =>
    Option.Rel (bearer settings).HeadersMatch (r.headers.find? settings.header.text)
      (r'.headers.find? settings.header.text)
  | jwt settings codec stored, r, r' =>
    Option.Rel (jwt settings codec stored).HeadersMatch (r.headers.find? settings.header.text)
      (r'.headers.find? settings.header.text)

/-- Two responses that differ in the carrier's value at most. -/
structure ResponsesMatch (S : Service δ ν) (r r' : Response) : Prop where
  elsewhere : ∀ slot, slot ≠ S.ownSlot → r.Same r' slot
  own : S.OwnMatch r r'

/-- Two requests of the same client, which bring counterparts or nothing. -/
structure RequestsMatch (S : Service δ ν) (request request' : Request) : Prop where
  imprint : S.carrier.imprint request = S.carrier.imprint request'
  belongs : ∀ a, S.carrier.belongs request a = S.carrier.belongs request' a
  located : Option.Rel S.Counterpart (S.carrier.locate request) (S.carrier.locate request')

variable {S : Service δ ν} {a b : Authenticator δ} {raw raw' : String} {v v' : ν}
  {r r' : Response} {request request' : Request}

/-- Wire values that are not the same are texts that any place can bring. -/
theorem unreserved_of_counterpart (hRaws : S.Counterpart raw raw') :
    raw = raw' ∨ Unreserved raw ∧ Unreserved raw' := by
  obtain rfl | ⟨a, login, -, hIssues, hIssues'⟩ := hRaws
  · exact .inl rfl
  cases S with
  | cookie settings keeping fingerprint =>
    cases keeping with
    | storeBacked =>
      obtain rfl : raw = a.id := hIssues
      exact .inl hIssues'.symm
    | selfContained codec =>
      obtain ⟨⟨_, _, rfl⟩, _, _, rfl⟩ := And.intro hIssues hIssues'
      exact .inr ⟨codec.unreserved_wire _ _ _, codec.unreserved_wire _ _ _⟩
  | session settings codec fingerprint =>
    obtain ⟨⟨_, _, rfl⟩, _, _, rfl⟩ := And.intro hIssues hIssues'
    exact .inr ⟨codec.unreserved_wire _ _ _, codec.unreserved_wire _ _ _⟩
  | bearer settings =>
    obtain rfl : raw = a.id := hIssues
    exact .inl hIssues'.symm
  | jwt settings codec stored =>
    obtain ⟨⟨-, _, rfl⟩, -, _, rfl⟩ := And.intro hIssues hIssues'
    exact .inr ⟨codec.unreserved_token _, codec.unreserved_token _⟩

theorem Twin.wrap (hTwin : S.Twin a b) (raw : String) : S.carrier.wrap a raw = S.carrier.wrap b raw := by
  cases S with
  | cookie settings keeping fingerprint =>
    exact congrArg (fun details => settings.cookie.cookie (CookieDetails.maxAge details) raw) hTwin.details
  | session settings codec fingerprint => rfl
  | bearer settings => rfl
  | jwt settings codec stored => rfl

theorem Twin.belongs (hTwin : S.Twin a b) (request : Request) :
    S.carrier.belongs request a = S.carrier.belongs request b := by
  cases S with
  | cookie settings keeping fingerprint =>
    exact congrArg (fun details => !settings.fingerprinting ||
      CookieDetails.fingerprint details == some (fingerprint request)) hTwin.details
  | session settings codec fingerprint =>
    exact congrArg (fun details => !settings.fingerprinting ||
      SessionDetails.fingerprint details == some (fingerprint request)) hTwin.details
  | bearer settings => rfl
  | jwt settings codec stored => rfl

theorem Twin.valuesMatch (hTwin : S.Twin a b) (hRaws : S.Counterpart raw raw') :
    S.ValuesMatch (S.carrier.wrap a raw) (S.carrier.wrap b raw') :=
  ⟨a, raw, raw', rfl, (hTwin.wrap raw').symm, hRaws⟩

theorem ResponsesMatch.refl (S : Service δ ν) (r : Response) : S.ResponsesMatch r r := by
  refine ⟨fun slot _ => Response.Same.refl r slot, ?_⟩
  cases S with
  | cookie settings keeping fingerprint => exact Option.rel_of_eq (fun _ => .inl rfl) rfl
  | session settings codec fingerprint => exact ⟨Option.rel_of_eq (Counterpart.refl _) rfl, rfl⟩
  | bearer settings => exact Option.rel_of_eq (fun _ => .inl rfl) rfl
  | jwt settings codec stored => exact Option.rel_of_eq (fun _ => .inl rfl) rfl

/-! ## Values in responses -/

theorem rel_ofString? (hRaws : S.Counterpart raw raw') :
    Option.Rel S.HeadersMatch (HeaderValue.ofString? raw) (HeaderValue.ofString? raw') := by
  rcases unreserved_of_counterpart hRaws with rfl | ⟨hText, hText'⟩
  · cases HeaderValue.ofString? raw with
    | none => exact .none
    | some value => exact .some (.inl rfl)
  · obtain ⟨value, hValue⟩ := HeaderValue.exists_ofString? hText.readable
    obtain ⟨value', hValue'⟩ := HeaderValue.exists_ofString? hText'.readable
    rw [hValue, hValue']
    exact .some (.inr ⟨raw, raw', hRaws, hValue, hValue'⟩)

/-- Tokens that are counterparts, in the header of a service. -/
theorem rel_placeToken {header : HeaderName} (hSlot : S.ownSlot = .header header.text)
    (hOwn : ∀ r r', Option.Rel S.HeadersMatch (r.headers.find? header.text)
      (r'.headers.find? header.text) → S.OwnMatch r r')
    (hRaws : S.Counterpart raw raw') (hResponses : S.ResponsesMatch r r') :
    Except.Rel S.ResponsesMatch (TokenHeader.place header raw r) (TokenHeader.place header raw' r') := by
  have hHeaders := rel_ofString? hRaws
  unfold TokenHeader.place Response.setHeaderText?
  generalize HeaderValue.ofString? raw = made at hHeaders
  generalize HeaderValue.ofString? raw' = made' at hHeaders
  cases hHeaders with
  | none => exact .error Cause.headerValue
  | @some value value' hValues =>
    refine .ok ⟨fun slot hOther => ?_, hOwn _ _ ?_⟩
    · rw [hSlot] at hOther
      exact (Response.same_setHeader hOther r value).trans
        ((hResponses.elsewhere slot (hSlot ▸ hOther)).trans (Response.same_setHeader hOther r' value').symm)
    · exact Option.rel_of_eq_some (r.headers.find?_insert_self header.text value)
        (r'.headers.find?_insert_self header.text value') hValues

/-- Matching values are put into matching responses, or neither is. -/
theorem rel_place (hValues : S.ValuesMatch v v') (hResponses : S.ResponsesMatch r r') :
    Except.Rel S.ResponsesMatch (S.carrier.place v r) (S.carrier.place v' r') := by
  have hMatch := hValues
  obtain ⟨a, raw, raw', rfl, rfl, hRaws⟩ := hValues
  obtain ⟨hElsewhere, hOwn⟩ := hResponses
  cases S with
  | cookie settings keeping fingerprint =>
    refine .ok ⟨fun slot hOther => ?_, ?_⟩
    · exact (Response.same_setCookie hOther r).trans
        ((hElsewhere slot hOther).trans (Response.same_setCookie hOther r').symm)
    · exact Option.rel_of_eq_some (r.cookie?_setCookie _) (r'.cookie?_setCookie _) (.inr hMatch)
  | session settings codec fingerprint =>
    refine .ok ⟨fun slot hOther => ?_, ?_, ?_⟩
    · exact (Response.same_setSessionValue hOther r raw).trans
        ((hElsewhere slot hOther).trans (Response.same_setSessionValue hOther r' raw').symm)
    · exact Option.rel_of_eq_some (r.session.set.find?_insert_self settings.key raw)
        (r'.session.set.find?_insert_self settings.key raw') hRaws
    · exact (r.session.removed.find?_erase_self settings.key).trans
        (r'.session.removed.find?_erase_self settings.key).symm
  | bearer settings => exact rel_placeToken rfl (fun _ _ hOwn => hOwn) hRaws ⟨hElsewhere, hOwn⟩
  | jwt settings codec stored => exact rel_placeToken rfl (fun _ _ hOwn => hOwn) hRaws ⟨hElsewhere, hOwn⟩

/-- Matching responses from which the value is taken. -/
theorem match_clear (hResponses : S.ResponsesMatch r r') :
    S.ResponsesMatch (S.carrier.clear r) (S.carrier.clear r') := by
  refine ⟨fun slot hOther => (same_clear hOther r).trans
    ((hResponses.elsewhere slot hOther).trans (same_clear hOther r').symm), ?_⟩
  cases S with
  | cookie settings keeping fingerprint =>
    exact Option.rel_of_eq_some (r.cookie?_setCookie settings.cookie.removal.removal)
      (r'.cookie?_setCookie settings.cookie.removal.removal) (.inl rfl)
  | session settings codec fingerprint =>
    refine ⟨Option.rel_of_eq (Counterpart.refl _) ?_, ?_⟩
    · exact (r.session.set.find?_erase_self settings.key).trans
        (r'.session.set.find?_erase_self settings.key).symm
    · exact (r.session.removed.find?_insert_self settings.key ()).trans
        (r'.session.removed.find?_insert_self settings.key ()).symm
  | bearer settings =>
    exact Option.rel_of_eq (fun _ => .inl rfl) ((r.headers.find?_erase_self settings.header.text).trans
      (r'.headers.find?_erase_self settings.header.text).symm)
  | jwt settings codec stored =>
    exact Option.rel_of_eq (fun _ => .inl rfl) ((r.headers.find?_erase_self settings.header.text).trans
      (r'.headers.find?_erase_self settings.header.text).symm)

/-- What is read of header values that match. -/
theorem rel_text? {value value' : HeaderValue} (hValues : S.HeadersMatch value value') :
    Option.Rel S.Counterpart value.text? value'.text? := by
  obtain rfl | ⟨raw, raw', hRaws, hValue, hValue'⟩ := hValues
  · exact Option.rel_of_eq (Counterpart.refl S) rfl
  rcases unreserved_of_counterpart hRaws with rfl | ⟨hText, hText'⟩
  · obtain rfl := Option.some.inj (hValue.symm.trans hValue')
    exact Option.rel_of_eq (Counterpart.refl S) rfl
  · exact Option.rel_of_eq_some (HeaderValue.text?_ofString? hText.readable hValue)
      (HeaderValue.text?_ofString? hText'.readable hValue') hRaws

/-- What a client holds that takes a header for its value. -/
theorem rel_heldToken {name : String} (hHeaders : Option.Rel S.HeadersMatch (r.headers.find? name)
      (r'.headers.find? name)) {held held' : Option String}
    (hHeld : Option.Rel S.Counterpart held held') :
    Option.Rel S.Counterpart ((r.headers.find? name).bind HeaderValue.text? <|> held)
      ((r'.headers.find? name).bind HeaderValue.text? <|> held') := by
  generalize r.headers.find? name = found at hHeaders
  generalize r'.headers.find? name = found' at hHeaders
  cases hHeaders with
  | none => exact hHeld
  | @some value value' hValues =>
    have hTexts := rel_text? hValues
    simp only [Option.bind_some]
    generalize value.text? = text at hTexts
    generalize value'.text? = text' at hTexts
    cases hTexts with
    | none => exact hHeld
    | some hRaws => exact .some hRaws

/-- What a client holds after matching responses are counterparts, if what it held before were. -/
theorem rel_holding (hResponses : S.ResponsesMatch r r') {held held' : Option String}
    (hHeld : Option.Rel S.Counterpart held held') :
    Option.Rel S.Counterpart (S.holding r held) (S.holding r' held') := by
  have hOwn := hResponses.own
  cases S with
  | cookie settings keeping fingerprint =>
    simp only [holding, OwnMatch] at hOwn ⊢
    generalize r.cookie? settings.cookie.name = found at hOwn
    generalize r'.cookie? settings.cookie.name = found' at hOwn
    cases hOwn with
    | none => exact hHeld
    | some hCookies =>
      obtain rfl | ⟨a, raw, raw', rfl, rfl, hRaws⟩ := hCookies
      · simp only
        split
        · exact .none
        · exact .some (.refl _ _)
      · have hLasting (value : String) : (settings.cookie.cookie a.details.maxAge value).removal ≠
            settings.cookie.cookie a.details.maxAge value := by
          intro hRemoval
          cases congrArg Cookie.expires hRemoval
        exact Option.rel_of_eq_some (if_neg (hLasting raw)) (if_neg (hLasting raw')) hRaws
  | session settings codec fingerprint =>
    obtain ⟨hSet, hRemoved⟩ := hOwn
    have hContains : r.session.removed.contains settings.key =
        r'.session.removed.contains settings.key := congrArg Option.isSome hRemoved
    simp only [holding, hContains]
    generalize r.session.set.find? settings.key = found at hSet
    generalize r'.session.set.find? settings.key = found' at hSet
    cases hSet with
    | some hRaws => exact .some hRaws
    | none =>
      simp only
      split
      · exact .none
      · exact hHeld
  | bearer settings => exact rel_heldToken hOwn hHeld
  | jwt settings codec stored => exact rel_heldToken hOwn hHeld

end Service

end WebLogin
