import WebLogin.Proofs.Lifecycle.Asking
import WebLogin.Proofs.Lifecycle.Parallel
import WebLogin.Proofs.Lifecycle.Tape

/-!
# What the log does not tell

A host calls a service to make, start, embed, find, touch, update, renew and end authenticators, each time
with what earlier calls gave it. Run twice for other logins, in the same surroundings, the calls report the
same events, and what they give differs in the logins and the wire values at most.

* `Call`, `serve`, `serveAll`: calls as programs, and many of them in a row.
* `OutcomesMatch`: outcomes of two runs.
* `alike_serve`, `alike_serveAll`: one call, and by induction all of them.
* `log_never_tells_who`: every service, surroundings, calls and logins.
-/

namespace WebLogin

/-! ## Calls of a host -/

/-- What a call gives. -/
inductive Outcome (δ ν : Type) where
  | authenticator (a : Authenticator δ)
  /-- A request that brought no valid authenticator. -/
  | nothing
  | touched (t : Touched (Authenticator δ))
  | value (v : ν)
  | request (r : Request)
  | response (r : Response)
  | error (e : LifecycleError)
  | message (m : Message)
  /-- A call that was not made, as an earlier one did not give what it takes. -/
  | skipped

namespace Outcome

variable {δ ν α : Type}

def ofResult (make : α → Outcome δ ν) : Except LifecycleError α → Outcome δ ν
  | .ok a => make a
  | .error e => error e

def ofFound : Option (Authenticator δ) → Outcome δ ν
  | some a => authenticator a
  | none => nothing

/-! What later calls may take of it. -/

def authenticator? : Outcome δ ν → Option (Authenticator δ)
  | authenticator a => some a
  | touched t => some t.value
  | _ => none

def touched? : Outcome δ ν → Option (Touched (Authenticator δ))
  | touched t => some t
  | _ => none

def value? : Outcome δ ν → Option ν
  | value v => some v
  | _ => none

def response? : Outcome δ ν → Option Response
  | response r => some r
  | _ => none

def error? : Outcome δ ν → Option LifecycleError
  | error e => some e
  | _ => none

/-- The wire value that a client gets by it. -/
def held? (S : Service δ ν) : Outcome δ ν → Option String
  | value v => some (S.wire v)
  | response r => S.holding r none
  | _ => none

end Outcome

namespace Service

/-- What a host may call a service to do. A number stands for the outcome of an earlier call, and `held`
for what the client got by one. -/
inductive Call {δ ν : Type} (S : Service δ ν) where
  /-- A response of the host's own. -/
  | respond (response : Response)
  | create (user : Nat) (asking : S.Asking) (held : Option Nat)
  | start (made : Nat)
  | embed (value response : Nat)
  | embedInRequest (value : Nat) (request : Request)
  | retrieve (asking : S.Asking) (held : Option Nat)
  | touch (found : Nat)
  | update (found response : Nat)
  | updateTouched (touched response : Nat)
  | renewValue (found : Nat) (asking : S.Asking) (held : Option Nat)
  | renew (found : Nat) (asking : S.Asking) (held : Option Nat) (response : Nat)
  | discard (found response : Nat)
  | report (failed : Nat)

variable {δ ν : Type}

/-- The part of an earlier outcome that a call takes. -/
def taken {α : Type} (past : List (Outcome δ ν)) (part : Outcome δ ν → Option α) (i : Nat) : Option α :=
  past[i]?.bind part

/-- The request of a client that got its value by an earlier call. -/
def Asking.after {S : Service δ ν} (asking : S.Asking) (past : List (Outcome δ ν)) (held : Option Nat) :
    Request :=
  asking.bring (held.bind (taken past (Outcome.held? S)))

/-- A call that takes parts of earlier outcomes, if they are there. -/
def taking {α : Type} (part : Option α) (call : α → Program δ (Outcome δ ν)) : Program δ (Outcome δ ν) :=
  match part with
  | some a => call a
  | none => return .skipped

/-- What becomes of a result. -/
def giving {α : Type} (make : α → Outcome δ ν) (p : Program δ (Except LifecycleError α)) :
    Program δ (Outcome δ ν) := do
  return .ofResult make (← p)

/-- One call, with the login of each user. -/
def serve (S : Service δ ν) (who : Nat → Login) (past : List (Outcome δ ν)) :
    S.Call → Program δ (Outcome δ ν)
  | .respond response => return .response response
  | .create user asking held =>
    giving .authenticator (S.carrier.create (who user) (asking.after past held))
  | .start made => taking (taken past Outcome.authenticator? made) fun a =>
    giving .value (S.carrier.start a)
  | .embed value response => taking (taken past Outcome.value? value) fun v =>
    taking (taken past Outcome.response? response) fun r =>
      return .ofResult .response (S.carrier.embed v r)
  | .embedInRequest value request => taking (taken past Outcome.value? value) fun v =>
    return .ofResult .request (S.carrier.embedInRequest v request)
  | .retrieve asking held => giving .ofFound (S.carrier.retrieve (asking.after past held))
  | .touch found => taking (taken past Outcome.authenticator? found) fun a => do
    return .touched (← S.carrier.touch a)
  | .update found response => taking (taken past Outcome.authenticator? found) fun a =>
    taking (taken past Outcome.response? response) fun r => giving .response (S.carrier.update a r)
  | .updateTouched touched response => taking (taken past Outcome.touched? touched) fun t =>
    taking (taken past Outcome.response? response) fun r =>
      giving .response (S.carrier.updateTouched t r)
  | .renewValue found asking held => taking (taken past Outcome.authenticator? found) fun a =>
    giving .value (S.carrier.renewValue a (asking.after past held))
  | .renew found asking held response => taking (taken past Outcome.authenticator? found) fun a =>
    taking (taken past Outcome.response? response) fun r =>
      giving .response (S.carrier.renew a (asking.after past held) r)
  | .discard found response => taking (taken past Outcome.authenticator? found) fun a =>
    taking (taken past Outcome.response? response) fun r => giving .response (S.carrier.discard a r)
  | .report failed => taking (taken past Outcome.error? failed) fun e => do
    return .message (← e.report)

/-- Calls in a row, with the outcomes of those before them. -/
def serveAll (S : Service δ ν) (who : Nat → Login) :
    List S.Call → List (Outcome δ ν) → Program δ (List (Outcome δ ν))
  | [], past => return past
  | call :: rest, past => do S.serveAll who rest (past ++ [← S.serve who past call])

/-! ## Two runs -/

/-- Two requests made of one by putting in matching values. -/
def PlacedMatch (S : Service δ ν) (r r' : Request) : Prop :=
  ∃ v v' request, S.ValuesMatch v v' ∧ S.carrier.placeInRequest v request = .ok r ∧
    S.carrier.placeInRequest v' request = .ok r'

/-- Two outcomes that differ in logins and wire values at most. -/
inductive OutcomesMatch (S : Service δ ν) : Outcome δ ν → Outcome δ ν → Prop where
  | authenticator {a b : Authenticator δ} (h : S.Twin a b) :
      S.OutcomesMatch (.authenticator a) (.authenticator b)
  | nothing : S.OutcomesMatch .nothing .nothing
  | touched {t t' : Touched (Authenticator δ)} (h : S.TouchedMatch t t') :
      S.OutcomesMatch (.touched t) (.touched t')
  | value {v v' : ν} (h : S.ValuesMatch v v') : S.OutcomesMatch (.value v) (.value v')
  | request {r r' : Request} (h : S.PlacedMatch r r') : S.OutcomesMatch (.request r) (.request r')
  | response {r r' : Response} (h : S.ResponsesMatch r r') : S.OutcomesMatch (.response r) (.response r')
  | error (e : LifecycleError) : S.OutcomesMatch (.error e) (.error e)
  | message (m : Message) : S.OutcomesMatch (.message m) (.message m)
  | skipped : S.OutcomesMatch .skipped .skipped

variable {S : Service δ ν} {past past' : List (Outcome δ ν)} {who who' : Nat → Login}

/-- Tokens that are counterparts are both put into the header of a request, or neither is. -/
theorem rel_placeTokenInRequest {v v' : String} {header : HeaderName}
    (hRaws : S.Counterpart v v') (request : Request) :
    Except.Rel (fun _ _ => True) (TokenHeader.placeInRequest header v request)
      (TokenHeader.placeInRequest header v' request) := by
  have hHeaders := rel_ofString? hRaws
  unfold TokenHeader.placeInRequest Request.withHeaderText?
  generalize HeaderValue.ofString? v = made at hHeaders
  generalize HeaderValue.ofString? v' = made' at hHeaders
  cases hHeaders with
  | none => exact .error Cause.headerValue
  | some _ => exact .ok trivial

theorem rel_embedInRequest {v v' : ν} (hValues : S.ValuesMatch v v') (request : Request) :
    Except.Rel S.PlacedMatch (S.carrier.embedInRequest v request) (S.carrier.embedInRequest v' request) := by
  have hPlaced : Except.Rel (fun _ _ => True) (S.carrier.placeInRequest v request)
      (S.carrier.placeInRequest v' request) := by
    obtain ⟨a, raw, raw', rfl, rfl, hRaws⟩ := hValues
    cases S with
    | cookie settings keeping fingerprint => exact .ok trivial
    | session settings codec fingerprint => exact .ok trivial
    | bearer settings => exact rel_placeTokenInRequest hRaws request
    | jwt settings codec stored => exact rel_placeTokenInRequest hRaws request
  exact (hPlaced.of_ok fun r r' hLeft hRight => ⟨v, v', request, hValues, hLeft, hRight⟩).mapError _

/-! ### Parts of outcomes -/

variable {α : Type} {R : α → α → Prop} {part : Outcome δ ν → Option α}

/-- What calls take of matching outcomes is related, if every part of that kind is. -/
theorem rel_taken (hPast : List.Forall₂ S.OutcomesMatch past past')
    (hPart : ∀ o o', S.OutcomesMatch o o' → Option.Rel R (part o) (part o')) (i : Nat) :
    Option.Rel R (taken past part i) (taken past' part i) := by
  induction hPast generalizing i with
  | nil => exact .none
  | cons hFirst _ ih =>
    cases i with
    | zero => exact hPart _ _ hFirst
    | succ i => exact ih i

theorem rel_authenticator? (o o' : Outcome δ ν) (h : S.OutcomesMatch o o') :
    Option.Rel S.Twin o.authenticator? o'.authenticator? := by
  cases h with
  | authenticator hTwin => exact .some hTwin
  | touched hTouched => exact .some hTouched.2
  | _ => exact .none

theorem rel_touched? (o o' : Outcome δ ν) (h : S.OutcomesMatch o o') :
    Option.Rel S.TouchedMatch o.touched? o'.touched? := by
  cases h with
  | touched hTouched => exact .some hTouched
  | _ => exact .none

theorem rel_value? (o o' : Outcome δ ν) (h : S.OutcomesMatch o o') :
    Option.Rel S.ValuesMatch o.value? o'.value? := by
  cases h with
  | value hValues => exact .some hValues
  | _ => exact .none

theorem rel_response? (o o' : Outcome δ ν) (h : S.OutcomesMatch o o') :
    Option.Rel S.ResponsesMatch o.response? o'.response? := by
  cases h with
  | response hResponses => exact .some hResponses
  | _ => exact .none

theorem rel_error? (o o' : Outcome δ ν) (h : S.OutcomesMatch o o') :
    Option.Rel Eq o.error? o'.error? := by
  cases h with
  | error e => exact .some rfl
  | _ => exact .none

theorem counterpart_wire {v v' : ν} (hValues : S.ValuesMatch v v') :
    S.Counterpart (S.wire v) (S.wire v') := by
  obtain ⟨a, raw, raw', rfl, rfl, hRaws⟩ := hValues
  rwa [wire_wrap, wire_wrap]

/-- What a client gets by matching outcomes are counterparts. -/
theorem rel_held? (o o' : Outcome δ ν) (h : S.OutcomesMatch o o') :
    Option.Rel S.Counterpart (o.held? S) (o'.held? S) := by
  cases h with
  | value hValues => exact .some (counterpart_wire hValues)
  | response hResponses => exact rel_holding hResponses .none
  | _ => exact .none

theorem requestsMatch_after (hPast : List.Forall₂ S.OutcomesMatch past past') (asking : S.Asking)
    (held : Option Nat) : S.RequestsMatch (asking.after past held) (asking.after past' held) := by
  refine asking.requestsMatch ?_
  cases held with
  | none => exact .none
  | some i => exact rel_taken hPast rel_held? i

/-! ### Calls -/

theorem alike_taking {o o' : Option α} {call call' : α → Program δ (Outcome δ ν)}
    (hParts : Option.Rel R o o')
    (hCalls : ∀ x y, R x y → (call x).Alike S.Twin S.OutcomesMatch (call' y)) :
    (taking o call).Alike S.Twin S.OutcomesMatch (taking o' call') := by
  cases hParts with
  | none => exact .done .skipped
  | some hPart => exact hCalls _ _ hPart

theorem match_ofResult {make : α → Outcome δ ν} (hMake : ∀ x y, R x y → S.OutcomesMatch (make x) (make y))
    {x y : Except LifecycleError α} (hResults : Except.Rel R x y) :
    S.OutcomesMatch (.ofResult make x) (.ofResult make y) := by
  cases hResults with
  | error e => exact .error e
  | ok h => exact hMake _ _ h

theorem alike_giving {make : α → Outcome δ ν} (hMake : ∀ x y, R x y → S.OutcomesMatch (make x) (make y))
    {p p' : Program δ (Except LifecycleError α)} (hp : p.Alike S.Twin (Except.Rel R) p') :
    (giving make p).Alike S.Twin S.OutcomesMatch (giving make p') :=
  hp.bind fun _ _ hResults => .done (match_ofResult hMake hResults)

/-- One call, after matching outcomes. -/
theorem alike_serve (hPast : List.Forall₂ S.OutcomesMatch past past') (call : S.Call) :
    (S.serve who past call).Alike S.Twin S.OutcomesMatch (S.serve who' past' call) := by
  have hAuthenticator := rel_taken hPast rel_authenticator?
  have hResponse := rel_taken hPast rel_response?
  have hRequests := requestsMatch_after hPast
  cases call with
  | respond response => exact .done (.response (.refl S response))
  | create user asking held =>
    refine alike_giving (fun a b => ?_) (alike_create (hRequests asking held) (who user) (who' user))
    rintro ⟨hPlain, -, rfl⟩
    exact .authenticator (.inr ⟨hPlain, who' user, rfl⟩)
  | start made =>
    refine alike_taking (hAuthenticator made) fun a b hTwin => ?_
    exact alike_giving (fun _ _ h => .value h) (alike_start hTwin)
  | embed value response =>
    refine alike_taking (rel_taken hPast rel_value? value) fun v v' hValues => ?_
    refine alike_taking (hResponse response) fun r r' hResponses => ?_
    exact .done (match_ofResult (fun _ _ h => .response h) (rel_embed hValues hResponses))
  | embedInRequest value request =>
    refine alike_taking (rel_taken hPast rel_value? value) fun v v' hValues => ?_
    exact .done (match_ofResult (fun _ _ h => .request h) (rel_embedInRequest hValues request))
  | retrieve asking held =>
    refine alike_giving (fun o o' hFound => ?_) (alike_retrieve (hRequests asking held))
    cases hFound with
    | none => exact .nothing
    | some hTwin => exact .authenticator hTwin
  | touch found =>
    refine alike_taking (hAuthenticator found) fun a b hTwin => ?_
    exact (alike_touch hTwin).bind fun _ _ hTouched => .done (.touched hTouched)
  | update found response =>
    refine alike_taking (hAuthenticator found) fun a b hTwin => ?_
    refine alike_taking (hResponse response) fun r r' hResponses => ?_
    exact alike_giving (fun _ _ h => .response h) (alike_update hTwin hResponses)
  | updateTouched touched response =>
    refine alike_taking (rel_taken hPast rel_touched? touched) fun t t' hTouched => ?_
    refine alike_taking (hResponse response) fun r r' hResponses => ?_
    exact alike_giving (fun _ _ h => .response h) (alike_updateTouched hTouched hResponses)
  | renewValue found asking held =>
    refine alike_taking (hAuthenticator found) fun a b hTwin => ?_
    exact alike_giving (fun _ _ h => .value h) (alike_renewValue hTwin (hRequests asking held))
  | renew found asking held response =>
    refine alike_taking (hAuthenticator found) fun a b hTwin => ?_
    refine alike_taking (hResponse response) fun r r' hResponses => ?_
    exact alike_giving (fun _ _ h => .response h) (alike_renew hTwin (hRequests asking held) hResponses)
  | discard found response =>
    refine alike_taking (hAuthenticator found) fun a b hTwin => ?_
    refine alike_taking (hResponse response) fun r r' hResponses => ?_
    exact alike_giving (fun _ _ h => .response h) (alike_discard hTwin hResponses)
  | report failed =>
    refine alike_taking (rel_taken hPast rel_error? failed) fun e e' hErrors => ?_
    subst hErrors
    exact Program.alike_emit rfl (.done (.message _))

/-- Calls in a row, after matching outcomes. -/
theorem alike_serveAll (calls : List S.Call) (hPast : List.Forall₂ S.OutcomesMatch past past') :
    (S.serveAll who calls past).Alike S.Twin (List.Forall₂ S.OutcomesMatch)
      (S.serveAll who' calls past') := by
  induction calls generalizing past past' with
  | nil => exact .done hPast
  | cons call rest ih =>
    refine (alike_serve hPast call).bind fun o o' hOutcomes => ih ?_
    exact List.rel_append hPast (.cons hOutcomes .nil)

/-- Whoever the users are, the same calls of a service, in the same surroundings and with the same records
in the store at first, report the same events in the same order, whatever fails on the way. What each call
gives is the same but for the login in an authenticator and the wire values that are issued for it.

Where a wire value holds bad JSON, the report has one fixed text (`jsonMessage`) in place of the words of the
reader of JSON, so how those depend on the value is not covered. Nor are claims of a host's own, which no
`Call` attaches to an authenticator. -/
theorem log_never_tells_who (S : Service δ ν) (t : Tape) (s : Scene δ) (calls : List S.Call)
    (who who' : Nat → Login) :
    (t.run (S.serveAll who calls []) s).2.log = (t.run (S.serveAll who' calls []) s).2.log ∧
      List.Forall₂ S.OutcomesMatch (t.run (S.serveAll who calls []) s).1
        (t.run (S.serveAll who' calls []) s).1 := by
  have hScenes : s.Mirrors S.Twin s := ⟨rfl, rfl, .refl (.refl S) s.store⟩
  have hCalls : (S.serveAll who calls []).Alike S.Twin (List.Forall₂ S.OutcomesMatch)
      (S.serveAll who' calls []) := alike_serveAll calls .nil
  obtain ⟨hOutcomes, hMirrors⟩ := t.run_alike (fun _ _ hTwin => hTwin.id) hCalls hScenes
  exact ⟨hMirrors.log, hOutcomes⟩

/-- A user logs in, comes back with the token and logs out. -/
example :
    let S : Service Unit String := .bearer {}
    let t : Tape :=
      ⟨fun _ => .epoch, fun _ _ => .ok "id-1", fun _ n => Vector.replicate n 0, fun _ => none⟩
    let home : S.Asking := .embedding trivial {}
    (t.run (S.serveAll (fun _ => ⟨"mail", "ada"⟩)
      [.create 0 (.still S {}) none, .start 0, .retrieve home (some 1), .respond {}, .discard 2 3]
      []) {}).2.log =
        [.created .bearer "id-1", .initialized .bearer "id-1", .discarded .bearer "id-1"] := rfl

end Service

end WebLogin
