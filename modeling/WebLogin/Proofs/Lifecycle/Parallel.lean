import WebLogin.Proofs.Lifecycle.Likeness

/-!
# Steps of twins

The steps of the lifecycle for twins, with requests and responses that differ in the wire value at most. A
step asks for the one what it asks for the other, reports the same, and fails for both or for neither.

* `alike_create`, `Twin.successor`: new authenticators, in which only the login is another.
* `alike_accept`, `alike_judge`, `alike_retrieve`: what is found.
* `alike_start`, `rel_embed`, `alike_touch`, `alike_update`, `alike_renewValue`, `alike_renew`,
  `alike_discard`: the other steps.
-/

namespace WebLogin.Service

variable {δ ν : Type} {S : Service δ ν} {a b : Authenticator δ} {v v' : ν} {r r' : Response}
  {request request' : Request}

theorem rel_blame {α : Type} {R : α → α → Prop} {x y : Except Cause α} (h : Except.Rel R x y)
    (phase : Phase) : Except.Rel R (S.carrier.blame phase x) (S.carrier.blame phase y) :=
  h.mapError _

/-- New authenticators for two logins: all but the login is the same. -/
theorem alike_create (hRequests : S.RequestsMatch request request') (login login' : Login) :
    (S.carrier.create login request).Alike S.Twin
      (Except.Rel fun a b => S.Plain a ∧ a.login = login ∧ b = { a with login := login' })
      (S.carrier.create login' request') := by
  refine Program.alike_query rfl fun drawn => ?_
  cases drawn with
  | error fault => exact .done (.error _)
  | ok id =>
    refine Program.alike_query rfl fun now => ?_
    cases hExpires : now.add? S.carrier.expiry with
    | none => exact .done (.error _)
    | some expires =>
      refine Program.alike_emit rfl (.done (.ok ⟨?_, rfl, ?_⟩))
      · exact plain_of_isNew (show S.IsNew request _ from ⟨hExpires, rfl, rfl⟩)
      · rw [hRequests.imprint]

theorem alike_accept (hRequests : S.RequestsMatch request request') (hTwin : S.Twin a b) :
    (S.carrier.accept request a).Alike S.Twin (Option.Rel S.Twin) (S.carrier.accept request' b) := by
  unfold Carrier.accept
  rw [hRequests.belongs a, hTwin.belongs]
  split
  · refine Program.alike_query rfl fun now => ?_
    rw [hTwin.isValid]
    split
    · exact .done (.some hTwin)
    · refine Program.alike_emit (congrArg (.expired S.carrier.name) hTwin.id) ?_
      exact .done .none
  · refine Program.alike_emit (congrArg (.fingerprintMismatch S.carrier.name) hTwin.id) ?_
    exact .done .none

/-- What is decoded alike is judged alike. -/
theorem alike_judge (hRequests : S.RequestsMatch request request')
    {decoded decoded' : Except DecodeFault (Option (Authenticator δ))}
    (hDecoded : Except.Rel (Option.Rel S.Twin) decoded decoded') :
    (S.carrier.judge request decoded).Alike S.Twin (Except.Rel (Option.Rel S.Twin))
      (S.carrier.judge request' decoded') := by
  cases hDecoded with
  | error fault =>
    cases fault with
    | store fault => exact .done (.error _)
    | codec error => exact Program.alike_emit rfl (.done (.ok .none))
  | ok hFound =>
    cases hFound with
    | none => exact .done (.ok .none)
    | some hTwin => exact (alike_accept hRequests hTwin).bind fun _ _ hAccepted => .done (.ok hAccepted)

theorem alike_retrieve (hRequests : S.RequestsMatch request request') :
    (S.carrier.retrieve request).Alike S.Twin (Except.Rel (Option.Rel S.Twin))
      (S.carrier.retrieve request') := by
  have hSteps (r : Request) : S.carrier.retrieve r = (S.carrier.locate r).elim (.done (.ok none))
      fun raw => (S.carrier.decode raw).bind (S.carrier.judge r) := by
    cases hRaw : S.carrier.locate r with
    | none => exact S.carrier.retrieve_of_none hRaw
    | some raw => exact S.carrier.retrieve_eq hRaw
  have hLocated := hRequests.located
  rw [hSteps, hSteps]
  generalize S.carrier.locate request = located at hLocated
  generalize S.carrier.locate request' = located' at hLocated
  cases hLocated with
  | none => exact .done (.ok .none)
  | some hRaws => exact (alike_decode hRaws).bind fun _ _ => alike_judge hRequests

theorem alike_start (hTwin : S.Twin a b) :
    (S.carrier.start a).Alike S.Twin (Except.Rel S.ValuesMatch) (S.carrier.start b) := by
  refine (alike_issue hTwin).bind fun issued issued' hIssued => ?_
  cases hIssued with
  | error cause => exact .done (.error _)
  | ok hRaws => exact .done (.ok (hTwin.valuesMatch hRaws))

theorem rel_embed (hValues : S.ValuesMatch v v') (hResponses : S.ResponsesMatch r r') :
    Except.Rel S.ResponsesMatch (S.carrier.embed v r) (S.carrier.embed v' r') :=
  rel_blame (rel_place hValues hResponses) .initialization

/-- Two touched authenticators that are twins, both changed or both as they were. -/
def TouchedMatch (S : Service δ ν) (t t' : Touched (Authenticator δ)) : Prop :=
  t.isChanged = t'.isChanged ∧ S.Twin t.value t'.value

theorem alike_touch (hTwin : S.Twin a b) :
    (S.carrier.touch a).Alike S.Twin S.TouchedMatch (S.carrier.touch b) := by
  refine Program.alike_query rfl fun now => .done ?_
  cases hIdle : a.idle with
  | none =>
    simp only [Authenticator.touch, ← hTwin.idle, hIdle]
    exact ⟨rfl, hTwin⟩
  | some timeout =>
    rw [Authenticator.touch_of_idle hIdle, Authenticator.touch_of_idle (hTwin.idle.symm.trans hIdle)]
    exact ⟨rfl, hTwin.usedAt now⟩

theorem alike_update (hTwin : S.Twin a b) (hResponses : S.ResponsesMatch r r') :
    (S.carrier.update a r).Alike S.Twin (Except.Rel S.ResponsesMatch) (S.carrier.update b r') := by
  refine (alike_reissue hTwin).bind fun written written' hWritten => ?_
  cases hWritten with
  | error cause => exact .done (.error _)
  | ok hGiven =>
    cases hGiven with
    | none => exact .done (.ok hResponses)
    | some hRaws => exact .done (rel_blame (rel_place (hTwin.valuesMatch hRaws) hResponses) .update)

theorem alike_updateTouched {t t' : Touched (Authenticator δ)} (hTouched : S.TouchedMatch t t')
    (hResponses : S.ResponsesMatch r r') :
    (S.carrier.updateTouched t r).Alike S.Twin (Except.Rel S.ResponsesMatch)
      (S.carrier.updateTouched t' r') := by
  obtain ⟨hChanged, hTwin⟩ := hTouched
  cases t with
  | changed a =>
    cases t' with
    | changed b => exact alike_update hTwin hResponses
    | unchanged b => cases hChanged
  | unchanged a =>
    cases t' with
    | changed b => cases hChanged
    | unchanged b => exact .done (.ok hResponses)

/-- The successors of twins are twins: nothing of the login is taken over into the details. -/
theorem Twin.successor (hTwin : S.Twin a b) {fresh : Authenticator δ} (hPlain : S.Plain fresh)
    (hLogin : fresh.login = a.login) :
    S.Twin (S.carrier.successor a fresh) (S.carrier.successor b { fresh with login := b.login }) := by
  obtain rfl | ⟨hOld, login, rfl⟩ := hTwin
  · rw [← hLogin]
    exact .refl S _
  · have hOther : S.Plain { a with login } := by
      cases S with
      | jwt settings codec stored => exact hOld
      | _ => trivial
    rw [successor_of_plain hOld, successor_of_plain hOther]
    exact .inr ⟨hPlain, login, rfl⟩

theorem alike_renewValue (hTwin : S.Twin a b) (hRequests : S.RequestsMatch request request') :
    (S.carrier.renewValue a request).Alike S.Twin (Except.Rel S.ValuesMatch)
      (S.carrier.renewValue b request') := by
  rw [S.carrier.renewValue_eq, S.carrier.renewValue_eq, ← hTwin.id]
  refine (alike_revoke S a.id).bind fun revoked revoked' hRevoked => ?_
  cases hRevoked with
  | error cause => exact .done (.error _)
  | ok _ =>
    simp only [S.carrier.replace_eq]
    refine (alike_create hRequests a.login b.login).bind fun created created' hCreated => ?_
    cases hCreated with
    | error error => exact .done (.error _)
    | @ok fresh fresh' hFresh =>
      obtain ⟨hPlain, hLogin, rfl⟩ := hFresh
      refine (alike_start (hTwin.successor hPlain hLogin)).bind fun started started' hStarted => ?_
      cases hStarted with
      | error error => exact .done (.error _)
      | ok hValues =>
        refine Program.alike_emit ?_ (.done (.ok hValues))
        rw [hTwin.id]

theorem alike_renew (hTwin : S.Twin a b) (hRequests : S.RequestsMatch request request')
    (hResponses : S.ResponsesMatch r r') :
    (S.carrier.renew a request r).Alike S.Twin (Except.Rel S.ResponsesMatch)
      (S.carrier.renew b request' r') := by
  refine (alike_renewValue hTwin hRequests).bind fun renewed renewed' hRenewed => ?_
  cases hRenewed with
  | error error => exact .done (.error _)
  | ok hValues => exact .done ((rel_embed hValues hResponses).mapError _)

theorem alike_discard (hTwin : S.Twin a b) (hResponses : S.ResponsesMatch r r') :
    (S.carrier.discard a r).Alike S.Twin (Except.Rel S.ResponsesMatch) (S.carrier.discard b r') := by
  unfold Carrier.discard
  rw [← hTwin.id]
  refine (alike_revoke S a.id).bind fun revoked revoked' hRevoked => ?_
  cases hRevoked with
  | error cause => exact .done (.error _)
  | ok _ => exact Program.alike_emit rfl (.done (.ok (match_clear hResponses)))

end WebLogin.Service
