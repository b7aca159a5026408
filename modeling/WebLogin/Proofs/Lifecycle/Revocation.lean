import WebLogin.Proofs.Lifecycle.Interleaving

/-!
# Revocation is permanent

Once the record of an identifier is removed from a store that clients share, it stays away until a
record of that identifier is added again, in whatever order the clients take their steps: nothing is
found under it, and an update of a copy that a client still holds is refused and changes nothing.

* `find?_eq_none_step`, `find?_eq_none_run`: no step but an addition brings a record back.
* `fails_step`, `fails_run`: an update that begins meanwhile fails.
* `revocation_permanent`: the statement for every run.
-/

namespace WebLogin.System

variable {ι δ ν : Type} [DecidableEq ι] {S : ι → Service δ ν} {s s' : System ι δ ν}
  {a : Action ι δ ν} {actions : List (Action ι δ ν)} {id : String}

/-! ## A record that is away stays away -/

/-- An action that adds a record of an identifier. -/
def Adds (id : String) (a : Action ι δ ν) : Prop :=
  ∃ c record answer, a = .asks c ⟨.add record, answer⟩ ∧ record.id = id

/-- A store refuses to update what it does not hold. -/
theorem refused_of_acts {record : Authenticator δ} {before after : Store δ}
    {answer : Except StoreFault (Authenticator δ)} (hNone : before.find? record.id = none)
    (hActs : Store.Acts (.update record) before answer after) :
    answer = .error (.notStored record.id) ∧ after = before := by
  simpa only [Store.Acts, Store.update_of_find?_none hNone] using hActs

theorem find?_eq_none_acts {q : Query δ} {before after : Store δ} {answer : q.Answer}
    (hActs : Store.Acts q before answer after) (hNone : before.find? id = none)
    (hNoAdd : ∀ record, q = .add record → record.id ≠ id) : after.find? id = none := by
  cases q with
  | find other =>
    rw [hActs.2]
    exact hNone
  | add record =>
    rw [hActs.2, Store.find?_add, if_neg (hNoAdd record rfl).symm]
    exact hNone
  | update record =>
    by_cases hId : record.id = id
    · subst hId
      rw [(refused_of_acts hNone hActs).2]
      exact hNone
    · simp only [Store.Acts, Store.update] at hActs
      split at hActs
      · next changed hChanged =>
        split at hChanged
        · obtain rfl := Except.ok.inj hChanged
          rw [hActs.2, Store.find?_add, if_neg (Ne.symm hId)]
          exact hNone
        · cases hChanged
      · rw [hActs.2]
        exact hNone
  | remove other =>
    rw [hActs.2, Store.find?_remove]
    split
    · rfl
    · exact hNone
  | now => exact hActs.eq_of_not_call rfl ▸ hNone
  | freshId generator => exact hActs.eq_of_not_call rfl ▸ hNone
  | randomBytes count => exact hActs.eq_of_not_call rfl ▸ hNone
  | emit event => exact hActs.eq_of_not_call rfl ▸ hNone

theorem find?_eq_none_step (hStep : Step S s a s') (hNone : s.store.find? id = none)
    (hNoAdd : ¬Adds id a) : s'.store.find? id = none := by
  rcases store_step hStep with hSame | ⟨c, e, rfl, hActs⟩
  · rw [hSame]
    exact hNone
  · refine find?_eq_none_acts hActs hNone fun record hAdd hId => hNoAdd ?_
    obtain ⟨q, answer⟩ := e
    subst hAdd
    exact ⟨c, record, answer, rfl, hId⟩

theorem find?_eq_none_run (hRun : Run S s actions s') (hNone : s.store.find? id = none)
    (hNoAdd : ∀ a ∈ actions, ¬Adds id a) : s'.store.find? id = none := by
  induction hRun with
  | nil s => exact hNone
  | cons hStep _ ih =>
    exact ih (find?_eq_none_step hStep hNone (hNoAdd _ List.mem_cons_self)) fun a hMem =>
      hNoAdd a (List.mem_cons_of_mem _ hMem)

/-! ## An update that begins meanwhile fails -/

/-- If a client waits for an update of a record of an identifier, it fails unless the store accepts
it from now on. -/
def Fails (S : ι → Service δ ν) (id : String) (c : ι) (s : System ι δ ν) : Prop :=
  ∀ record response rest, s.task c = some ⟨.update record response, rest⟩ → record.id = id →
    rest.EndsIn (fun e => ∀ stored, e ≠ ⟨.update record, .ok stored⟩)
      fun result => ∃ cause, result = .error (.failed (S c).carrier.name .update cause)

theorem fails_step (hStored : ∀ c, (S c).isStored = true) (hStep : Step S s a s')
    (hNone : s.store.find? id = none) {c : ι}
    (hFails : Fails S id c s ∨ ∃ op, a = .begins c op) : Fails S id c s' := by
  intro record response rest hTask hId
  rcases task_step hStep c with ⟨hOther, hSame⟩ | ⟨op, -, hBegun⟩ |
    ⟨op, e, resume, rfl, hBefore, hActs, hAfter⟩ | ⟨op, result, -, hEnded⟩
  · rcases hFails with hFails | ⟨op, rfl⟩
    · exact hFails record response rest (hSame.symm.trans hTask) hId
    · exact absurd rfl hOther
  · cases hBegun.symm.trans hTask
    exact Service.endsIn_update (hStored c) record response
  · cases hAfter.symm.trans hTask
    rcases hFails with hFails | ⟨op, hBegins⟩
    · refine hFails record response _ hBefore hId e.2 fun stored hAccepted => ?_
      have hAccepts : e = ⟨.update record, .ok stored⟩ := hAccepted
      subst hAccepts
      subst hId
      cases (refused_of_acts hNone hActs).1
    · cases hBegins
  · cases hEnded.symm.trans hTask

/-- An update that begins while the record is away, and is still on its way, fails. -/
theorem fails_run (hStored : ∀ c, (S c).isStored = true) (hRun : Run S s actions s')
    (hNone : s.store.find? id = none) (hNoAdd : ∀ a ∈ actions, ¬Adds id a) {c : ι}
    (hFails : Fails S id c s ∨ ∃ op, .begins c op ∈ actions) : Fails S id c s' := by
  induction hRun with
  | nil s =>
    rcases hFails with hFails | ⟨op, hMem⟩
    · exact hFails
    · cases hMem
  | @cons s middle _ a rest hStep _ ih =>
    refine ih (find?_eq_none_step hStep hNone (hNoAdd a List.mem_cons_self))
      (fun a hMem => hNoAdd a (List.mem_cons_of_mem _ hMem)) ?_
    rcases hFails with hFails | ⟨op, hMem⟩
    · exact .inl (fails_step hStored hStep hNone (.inl hFails))
    · rcases List.mem_cons.mp hMem with rfl | hLater
      · exact .inl (fails_step hStored hStep hNone (.inr ⟨op, rfl⟩))
      · exact .inr ⟨op, hLater⟩

/-! ## Every run -/

/-- While nothing is stored under an identifier, a retrieval that looks it up gives no
authenticator. -/
theorem Lawful.find_none (hLawful : Lawful S s) (hNone : s.store.find? id = none) {c : ι}
    {answer : Except StoreFault (Option (Authenticator δ))}
    (hStep : Step S s (.asks c ⟨.find id, answer⟩) s') :
    ∃ request, s'.task c = some ⟨.retrieve request, .done (.ok none)⟩ := by
  obtain ⟨op, resume, -, hAfter, hActs, hCalls, hConcludes⟩ := hLawful.asks hStep
  obtain rfl : answer = .ok none := hActs.1.trans (congrArg Except.ok hNone)
  have hCall : op.Calls (.find id) := hCalls rfl
  cases op with
  | retrieve request =>
    rw [hConcludes id rfl] at hAfter
    exact ⟨request, hAfter⟩
  | start a => cases hCall
  | touch a => exact hCall.elim
  | update a response => cases hCall
  | renewValue a request =>
    rcases hCall with hCall | ⟨fresh, hCall⟩
    · cases hCall
    · cases hCall
  | discard a response => cases hCall

/-- While nothing is stored under an identifier, no step of an update of a record of that identifier
changes the store, and if it is the call of the store, the update is over and has failed. -/
theorem Lawful.update_none (hLawful : Lawful S s) {c : ι} {record : Authenticator δ}
    {response : Response} {rest : Program δ (Except LifecycleError Response)} {e : Exchange δ}
    (hNone : s.store.find? record.id = none)
    (hTask : s.task c = some ⟨.update record response, rest⟩) (hStep : Step S s (.asks c e) s') :
    s'.store = s.store ∧ (e.1.isCall = true → e = ⟨.update record, .error (.notStored record.id)⟩ ∧
      s'.task c = some ⟨.update record response, .done (.error
        (.failed (S c).carrier.name .update (.store (.notStored record.id))))⟩) := by
  obtain ⟨op, resume, hBefore, hAfter, hActs, hCalls, hConcludes⟩ := hLawful.asks hStep
  cases hTask.symm.trans hBefore
  cases hCall : e.1.isCall with
  | false =>
    refine ⟨hActs.eq_of_not_call hCall, fun hTrue => ?_⟩
    cases hTrue
  | true =>
    obtain ⟨q, answer⟩ := e
    obtain rfl : q = .update record := hCalls hCall
    obtain ⟨rfl, hStore⟩ := refused_of_acts hNone hActs
    refine ⟨hStore, fun _ => ⟨rfl, ?_⟩⟩
    rw [← hConcludes (.notStored record.id) rfl]
    exact hAfter

/-- From the step that removes an identifier until one that adds it again, whatever the clients do
and in whatever order: the store holds nothing under it; a retrieval that looks it up has no
authenticator to give; a step of an update of a record of that identifier leaves the store as it is,
and once it has called the store the update is over and has failed; an update that begins and ends
meanwhile ends with the error of an update; and no operation is held up on its way to its end. -/
theorem revocation_permanent (hStored : ∀ c, (S c).isStored = true)
    {idle removing removed now : System ι δ ν} {earlier meanwhile : List (Action ι δ ν)}
    {remover : ι} {answer : Except StoreFault Unit}
    (hIdle : idle.Idle) (hEarlier : Run S idle earlier removing)
    (hRemoval : Step S removing (.asks remover ⟨.remove id, answer⟩) removed)
    (hMeanwhile : Run S removed meanwhile now) (hNoAdd : ∀ a ∈ meanwhile, ¬Adds id a) :
    now.store.find? id = none ∧
    (∀ c found next, Step S now (.asks c ⟨.find id, found⟩) next →
      ∃ request, next.task c = some ⟨.retrieve request, .done (.ok none)⟩) ∧
    (∀ c record response rest e next, record.id = id →
      now.task c = some ⟨.update record response, rest⟩ → Step S now (.asks c e) next →
      next.store = now.store ∧ (e.1.isCall = true → e = ⟨.update record, .error (.notStored id)⟩ ∧
        next.task c = some ⟨.update record response, .done (.error
          (.failed (S c).carrier.name .update (.store (.notStored id))))⟩)) ∧
    (∀ c record response result next, record.id = id →
      .begins c (.update record response) ∈ meanwhile →
      Step S now (.ends c (.update record response) result) next →
      ∃ cause, result = .error (.failed (S c).carrier.name .update cause)) ∧
    ∀ c op rest, now.task c = some ⟨op, rest⟩ →
      ∃ actions result next, Run S now (actions ++ [.ends c op result]) next ∧
        ∀ a ∈ actions, a.client = c := by
  have hLawfulBefore := lawful_run hStored hEarlier (lawful_idle hIdle)
  have hLawful := lawful_run hStored hMeanwhile (lawful_step hStored hRemoval hLawfulBefore)
  have hRemoved : removed.store.find? id = none := by
    obtain ⟨_, _, -, -, hActs, -⟩ := hLawfulBefore.asks hRemoval
    rw [hActs.2, Store.find?_remove, if_pos rfl]
  have hNone := find?_eq_none_run hMeanwhile hRemoved hNoAdd
  refine ⟨hNone, fun c found next hStep => hLawful.find_none hNone hStep, ?_, ?_,
    fun c op rest hTask => exists_run_ends hTask⟩
  · intro c record response rest e next hId hTask hStep
    subst hId
    exact hLawful.update_none hNone hTask hStep
  · intro c record response result next hId hBegun hStep
    have hFails := fails_run hStored hMeanwhile hRemoved hNoAdd (.inr ⟨_, hBegun⟩)
    cases hStep with
    | ends _ _ _ hTask => exact hFails record response _ hTask hId

/-- A session of a bearer token that ends a second into 1970. -/
def sampleToken : BearerAuthenticator where
  id := "token"
  login := ⟨"provider", "key"⟩
  lastUsed := .epoch
  expires := ⟨1000000000, by decide, by decide⟩
  idle := none
  details := ()

/-- One client logs out, and another that still holds the session writes it back. -/
theorem revocation_permanent_after_discard :
    let S : Bool → Service Unit String := fun _ => .bearer {}
    let idle : System Bool Unit String := ⟨({} : Store Unit).add sampleToken, fun _ => none⟩
    ∃ removed writing refused : System Bool Unit String,
      Run S idle [.begins false (.discard sampleToken {}), .asks false ⟨.remove "token", .ok ()⟩]
        removed ∧
      Run S removed [.begins true (.update sampleToken {})] writing ∧
      Step S writing (.asks true ⟨.update sampleToken, .error (.notStored "token")⟩) refused ∧
      writing.store.find? "token" = none ∧ refused.store = writing.store ∧
      refused.task true = some ⟨.update sampleToken {}, .done (.error
        (.failed .bearer .update (.store (.notStored "token"))))⟩ := by
  intro S idle
  let leaving : System Bool Unit String :=
    idle.put false idle.store (some ⟨.discard sampleToken {}, (S false).program _⟩)
  obtain ⟨rest, hLeaving⟩ : ∃ rest,
      leaving.task false = some ⟨.discard sampleToken {}, .ask (.remove "token") rest⟩ := ⟨_, rfl⟩
  let removed : System Bool Unit String :=
    leaving.put false (leaving.store.remove "token") (some ⟨_, rest (.ok ())⟩)
  let writing : System Bool Unit String :=
    removed.put true removed.store (some ⟨.update sampleToken {}, (S true).program _⟩)
  obtain ⟨rest', hWriting⟩ : ∃ rest',
      writing.task true = some ⟨.update sampleToken {}, .ask (.update sampleToken) rest'⟩ :=
    ⟨_, rfl⟩
  have hBegins : Step S idle (.begins false (.discard sampleToken {})) leaving :=
    .begins false _ rfl
  have hRemoval : Step S leaving (.asks false ⟨.remove "token", .ok ()⟩) removed :=
    .asks false _ ⟨.remove "token", .ok ()⟩ rest _ hLeaving ⟨rfl, rfl⟩
  have hWrites : Step S removed (.begins true (.update sampleToken {})) writing :=
    .begins true _ rfl
  have hRefused := Step.asks (S := S) true _
    ⟨.update sampleToken, .error (.notStored "token")⟩ rest' _ hWriting ⟨rfl, rfl⟩
  have hNoAdd : ∀ a ∈ [(.begins true (.update sampleToken {}) : Action Bool Unit String)],
      ¬Adds "token" a := by
    intro a hMem
    rintro ⟨c, record, answer, rfl, -⟩
    cases List.mem_singleton.mp hMem
  obtain ⟨hNone, -, hUpdate, -, -⟩ := revocation_permanent (fun _ => rfl) (fun _ => rfl)
    (.cons hBegins (.nil leaving)) hRemoval (.cons hWrites (.nil writing)) hNoAdd
  obtain ⟨hStore, hCall⟩ := hUpdate true sampleToken {} _ _ _ rfl hWriting hRefused
  exact ⟨removed, writing, _, .cons hBegins (.cons hRemoval (.nil removed)),
    .cons hWrites (.nil writing), hRefused, hNone, hStore, (hCall rfl).2⟩

end WebLogin.System
