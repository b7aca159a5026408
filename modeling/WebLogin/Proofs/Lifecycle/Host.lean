import WebLogin.Proofs.Program
import WebLogin.Surroundings

/-!
# Hosts

What a program may count on when it runs: a host reads its clock, serves the calls of a store as the
store in memory does, or lets a call fail and leaves the store as it is. Identifiers, random bytes
and the faults of the store are the host's own affair.

* `Host.store_run_quiet`: a program that makes no call of the store leaves it alone.
* `Host.find_answer`, `add_answer`, `remove_answer`, `update_answer`: the calls, one by one.
* `Surroundings.host`: scripted surroundings are a host, whichever of their calls fail;
  `Surroundings.steady` is the one in which no call fails.
-/

namespace WebLogin

variable {δ α β σ : Type}

/-! ## Calls of a store -/

/-- What the store in memory answers, and what becomes of it. -/
def Store.Acts : (q : Query δ) → (before : Store δ) → q.Answer → (after : Store δ) → Prop
  | .find id, before, answer, after => answer = .ok (before.find? id) ∧ after = before
  | .add record, before, answer, after => answer = .ok record ∧ after = before.add record
  | .update record, before, answer, after =>
    match before.update record with
    | .ok changed => answer = .ok record ∧ after = changed
    | .error fault => answer = .error fault ∧ after = before
  | .remove id, before, answer, after => answer = .ok () ∧ after = before.remove id
  | _, before, _, after => after = before

theorem Store.Acts.eq_of_not_call {q : Query δ} {before after : Store δ} {answer : q.Answer}
    (hActs : Store.Acts q before answer after) (hq : q.isCall = false) : after = before := by
  cases q with
  | find id => cases hq
  | add record => cases hq
  | update record => cases hq
  | remove id => cases hq
  | now => exact hActs
  | freshId generator => exact hActs
  | randomBytes count => exact hActs
  | emit event => exact hActs

/-- The store in memory has an answer to every question. -/
theorem Store.exists_acts (q : Query δ) (before : Store δ) :
    ∃ answer after, Store.Acts q before answer after := by
  cases q with
  | find id => exact ⟨.ok (before.find? id), before, rfl, rfl⟩
  | add record => exact ⟨.ok record, before.add record, rfl, rfl⟩
  | update record =>
    simp only [Store.Acts]
    cases before.update record with
    | ok changed => exact ⟨.ok record, changed, rfl, rfl⟩
    | error fault => exact ⟨.error fault, before, rfl, rfl⟩
  | remove id => exact ⟨.ok (), before.remove id, rfl, rfl⟩
  | now => exact ⟨.epoch, before, rfl⟩
  | freshId generator => exact ⟨.ok "", before, rfl⟩
  | randomBytes count => exact ⟨Vector.replicate count 0, before, rfl⟩
  | emit event => exact ⟨(), before, rfl⟩

/-- An answer that says that a call failed. -/
def Query.Failure : (q : Query δ) → q.Answer → Prop
  | .find _, answer => ∃ fault, answer = .error fault
  | .add _, answer => ∃ fault, answer = .error fault
  | .update _, answer => ∃ fault, answer = .error fault
  | .remove _, answer => ∃ fault, answer = .error fault
  | _, _ => False

/-! ## Hosts and runs -/

/-- Surroundings with states `σ`. A failing call of the store leaves the store as it is, and while a
program runs the clock stands. -/
structure Host (δ σ : Type) where
  answer : (q : Query δ) → σ → q.Answer × σ
  clock : σ → Instant
  store : σ → Store δ
  now_answer : ∀ s, (answer .now s).1 = clock s
  clock_answer : ∀ q s, clock (answer q s).2 = clock s
  serves : ∀ q s, Store.Acts q (store s) (answer q s).1 (store (answer q s).2) ∨
    q.Failure (answer q s).1 ∧ store (answer q s).2 = store s

namespace Host

variable (h : Host δ σ)

/-- No call of the store fails, except to update what is not stored. -/
def Reliable : Prop := ∀ q s, Store.Acts q (h.store s) (h.answer q s).1 (h.store (h.answer q s).2)

/-- Runs a program. -/
def run (p : Program δ α) (s : σ) : α × σ := p.run h.answer s

/-- The questions of a run with their answers, in order. -/
def trace : Program δ α → σ → List (Exchange δ)
  | .done _, _ => []
  | .ask q resume, s => ⟨q, (h.answer q s).1⟩ :: trace (resume (h.answer q s).1) (h.answer q s).2

@[simp] theorem run_done (a : α) (s : σ) : h.run (.done a : Program δ α) s = (a, s) := rfl

@[simp] theorem run_query (q : Query δ) (s : σ) : h.run (Program.query q) s = h.answer q s := rfl

theorem run_ask (q : Query δ) (resume : q.Answer → Program δ α) (s : σ) :
    h.run (.ask q resume) s = h.run (resume (h.answer q s).1) (h.answer q s).2 := rfl

@[simp] theorem run_bind (p : Program δ α) (f : α → Program δ β) (s : σ) :
    h.run (p.bind f) s = h.run (f (h.run p s).1) (h.run p s).2 :=
  Program.run_bind h.answer p f s

@[simp] theorem trace_done (a : α) (s : σ) : h.trace (.done a : Program δ α) s = [] := rfl

@[simp] theorem trace_bind (p : Program δ α) (f : α → Program δ β) (s : σ) :
    h.trace (p.bind f) s = h.trace p s ++ h.trace (f (h.run p s).1) (h.run p s).2 := by
  induction p generalizing s with
  | done a => rfl
  | ask q resume ih => simp [Program.bind, trace, run_ask, ih]

theorem clock_run (p : Program δ α) (s : σ) : h.clock (h.run p s).2 = h.clock s := by
  induction p generalizing s with
  | done a => rfl
  | ask q resume ih => rw [run_ask, ih, h.clock_answer]

/-! ## What happens to the store -/

theorem store_quiet {q : Query δ} (hq : q.isCall = false) (s : σ) :
    h.store (h.answer q s).2 = h.store s :=
  (h.serves q s).elim (fun hActs => hActs.eq_of_not_call hq) And.right

/-- What holds on every path holds in every run. -/
theorem always_run {R : Query δ → Prop} {P : α → Prop} {p : Program δ α} (hp : p.Always R P)
    (s : σ) : (∀ e ∈ h.trace p s, R e.1) ∧ P (h.run p s).1 := by
  induction p generalizing s with
  | done a => exact ⟨fun e he => absurd he List.not_mem_nil, hp⟩
  | ask q resume ih =>
    obtain ⟨hTrace, hResult⟩ := ih _ (hp.2 (h.answer q s).1) (h.answer q s).2
    refine ⟨fun e he => ?_, hResult⟩
    rcases List.mem_cons.mp he with rfl | he
    · exact hp.1
    · exact hTrace e he

/-- A program that makes no call of the store leaves it alone. -/
theorem store_run_quiet {p : Program δ α} (hp : p.Quiet) (s : σ) :
    h.store (h.run p s).2 = h.store s := by
  induction p generalizing s with
  | done a => rfl
  | ask q resume ih =>
    rw [run_ask, ih _ (hp.2 _)]
    exact h.store_quiet hp.1 s

theorem find_answer (id : String) (s : σ) :
    h.store (h.answer (.find id) s).2 = h.store s ∧
      ((h.answer (.find id) s).1 = .ok ((h.store s).find? id) ∨
        ∃ fault, (h.answer (.find id) s).1 = .error fault) := by
  rcases h.serves (.find id) s with ⟨hAnswer, hStore⟩ | ⟨hFault, hStore⟩
  · exact ⟨hStore, .inl hAnswer⟩
  · exact ⟨hStore, .inr hFault⟩

/-- Of a reliable host every exchange is one with the store in memory. -/
theorem acts_of_mem_trace {h : Host δ σ} (hReliable : h.Reliable) {p : Program δ α} {s : σ}
    {e : Exchange δ} (hMem : e ∈ h.trace p s) : ∃ before after, Store.Acts e.1 before e.2 after := by
  induction p generalizing s with
  | done a => cases hMem
  | ask q resume ih =>
    rcases List.mem_cons.mp hMem with rfl | hLater
    · exact ⟨_, _, hReliable q s⟩
    · exact ih _ hLater

/-- A program that only looks records up leaves the store alone. -/
theorem store_run_finds {p : Program δ α} (hp : p.CallsOnly fun q => ∃ id, q = .find id) (s : σ) :
    h.store (h.run p s).2 = h.store s := by
  induction p generalizing s with
  | done a => rfl
  | ask q resume ih =>
    have hFirst : h.store (h.answer q s).2 = h.store s := by
      cases hCall : q.isCall with
      | false => exact h.store_quiet hCall s
      | true =>
        obtain ⟨id, rfl⟩ := hp.1 hCall
        exact (h.find_answer id s).1
    rw [run_ask, ih _ (hp.2 _), hFirst]

theorem add_answer (record : Authenticator δ) (s : σ) :
    (h.answer (.add record) s).1 = .ok record ∧
        h.store (h.answer (.add record) s).2 = (h.store s).add record ∨
      (∃ fault, (h.answer (.add record) s).1 = .error fault) ∧
        h.store (h.answer (.add record) s).2 = h.store s :=
  h.serves (.add record) s

theorem remove_answer (id : String) (s : σ) :
    (h.answer (.remove id) s).1 = .ok () ∧
        h.store (h.answer (.remove id) s).2 = (h.store s).remove id ∨
      (∃ fault, (h.answer (.remove id) s).1 = .error fault) ∧
        h.store (h.answer (.remove id) s).2 = h.store s :=
  h.serves (.remove id) s

/-! ## Lists -/

/-- The first element that passes, where the result of the test is the same in every state. -/
theorem run_first? {test : α → Program δ Bool} {p : α → Bool} {l : List α}
    (hTest : ∀ a ∈ l, ∀ s, (h.run (test a) s).1 = p a) (s : σ) :
    (h.run (Program.first? test l) s).1 = l.find? p := by
  induction l generalizing s with
  | nil => rfl
  | cons a rest ih =>
    have hFirst := hTest a List.mem_cons_self s
    have hRest := ih fun b hb => hTest b (List.mem_cons_of_mem _ hb)
    simp only [Program.first?, Program.bind_eq, run_bind, hFirst]
    cases hp : p a with
    | true => rw [List.find?_cons_of_pos hp]; rfl
    | false =>
      rw [List.find?_cons_of_neg (by rw [hp]; decide)]
      exact hRest _

/-- The results for all elements, where the result for one is the same in every state. -/
theorem run_collect {ε : Type} {f : α → Program δ (Except ε β)} {g : α → Except ε β}
    {l : List α} (hf : ∀ a ∈ l, ∀ s, (h.run (f a) s).1 = g a) (s : σ) :
    (h.run (Program.collect f l) s).1 = l.mapM g := by
  induction l generalizing s with
  | nil => rfl
  | cons a rest ih =>
    have hFirst := hf a List.mem_cons_self s
    have hRest := ih (fun b hb => hf b (List.mem_cons_of_mem _ hb)) (h.run (f a) s).2
    simp only [Program.collect, Program.bind_eq, run_bind, hFirst, List.mapM_cons]
    cases hg : g a with
    | error error => rfl
    | ok b =>
      simp only [run_bind, hRest]
      cases rest.mapM g <;> rfl

end Host

/-! ## The store in memory -/

namespace Store

theorem find?_add (s : Store δ) (a : Authenticator δ) (id : String) :
    (s.add a).find? id = if id = a.id then some a else s.find? id :=
  Dictionary.find?_insert s.records a.id a id

theorem find?_remove (s : Store δ) (id other : String) :
    (s.remove id).find? other = if other = id then none else s.find? other :=
  Dictionary.find?_erase s.records id other

theorem update_of_find?_some {s : Store δ} {a stored : Authenticator δ}
    (hStored : s.find? a.id = some stored) : s.update a = .ok (s.add a) := by
  have hContains : s.records.contains a.id = true := by
    rw [Dictionary.contains, Option.isSome_iff_exists]
    exact ⟨stored, hStored⟩
  rw [update, hContains]
  rfl

/-- A record that is not stored cannot be updated. -/
theorem update_of_find?_none {s : Store δ} {a : Authenticator δ} (hNone : s.find? a.id = none) :
    s.update a = .error (.notStored a.id) := by
  have hContains : s.records.contains a.id = false := by
    rw [Dictionary.contains, Option.isSome_eq_false_iff, Option.isNone_iff_eq_none]
    exact hNone
  rw [update, hContains]
  rfl

end Store

/-- An update puts the record in the place of a former one, or is refused; a reliable host refuses
it only if there is no former one. -/
theorem Host.update_answer (h : Host δ σ) (record : Authenticator δ) (s : σ) :
    (h.answer (.update record) s).1 = .ok record ∧
        h.store (h.answer (.update record) s).2 = (h.store s).add record ∨
      (∃ fault, (h.answer (.update record) s).1 = .error fault) ∧
        h.store (h.answer (.update record) s).2 = h.store s ∧
        (h.Reliable → (h.store s).find? record.id = none) := by
  have hActs : Store.Acts (.update record) (h.store s) (h.answer (.update record) s).1
        (h.store (h.answer (.update record) s).2) →
      match (h.store s).find? record.id with
      | some _ => (h.answer (.update record) s).1 = .ok record ∧
          h.store (h.answer (.update record) s).2 = (h.store s).add record
      | none => (h.answer (.update record) s).1 = .error (.notStored record.id) ∧
          h.store (h.answer (.update record) s).2 = h.store s := by
    intro hActs
    cases hFind : (h.store s).find? record.id with
    | some stored => simpa only [Store.Acts, Store.update_of_find?_some hFind] using hActs
    | none => simpa only [Store.Acts, Store.update_of_find?_none hFind] using hActs
  cases hFind : (h.store s).find? record.id with
  | none =>
    rw [hFind] at hActs
    right
    rcases h.serves (.update record) s with hServed | ⟨hFault, hSame⟩
    · obtain ⟨hAnswer, hSame⟩ := hActs hServed
      exact ⟨⟨_, hAnswer⟩, hSame, fun _ => rfl⟩
    · exact ⟨hFault, hSame, fun _ => rfl⟩
  | some stored =>
    rw [hFind] at hActs
    rcases h.serves (.update record) s with hServed | ⟨hFault, hSame⟩
    · exact .inl (hActs hServed)
    · refine .inr ⟨hFault, hSame, fun hReliable => ?_⟩
      obtain ⟨fault, hFault⟩ := hFault
      have hAnswer := (hActs (hReliable (.update record) s)).1
      cases hFault.symm.trans hAnswer

/-! ## Scripted surroundings -/

namespace Surroundings

theorem clock_takeId (s : Surroundings δ) (index : Nat) : (s.takeId index).2.clock = s.clock := by
  unfold takeId
  split <;> rfl

theorem store_takeId (s : Surroundings δ) (index : Nat) : (s.takeId index).2.store = s.store := by
  unfold takeId
  split <;> rfl

theorem clock_call (s : Surroundings δ) (verb : StoreCall) (id : String)
    (act : Store δ → Except StoreFault (α × Store δ)) : (s.call verb id act).2.clock = s.clock := by
  simp only [call]
  split
  · rfl
  · split <;> rfl

/-- A call fails if its verb is one of those that have to fail, and else does what it is for. -/
theorem call_cases (s : Surroundings δ) (verb : StoreCall) (id : String)
    (act : Store δ → Except StoreFault (α × Store δ)) :
    (verb ∈ s.failing ∧ (s.call verb id act).1 = .error .unreachable ∧
        (s.call verb id act).2.store = s.store) ∨
      match act s.store with
      | .ok (a, changed) => (s.call verb id act).1 = .ok a ∧ (s.call verb id act).2.store = changed
      | .error fault =>
        (s.call verb id act).1 = .error fault ∧ (s.call verb id act).2.store = s.store := by
  simp only [call]
  split
  · next hFails => exact .inl ⟨by simpa using hFails, rfl, rfl⟩
  · right
    cases act s.store with
    | error fault => exact ⟨rfl, rfl⟩
    | ok result => exact ⟨rfl, rfl⟩

theorem clock_answer (q : Query δ) (s : Surroundings δ) : (answer q s).2.clock = s.clock := by
  cases q with
  | now => rfl
  | freshId generator => exact s.clock_takeId generator
  | randomBytes count => rfl
  | emit event => rfl
  | find id => exact s.clock_call .find id _
  | add record => exact s.clock_call .add record.id _
  | update record => exact s.clock_call .update record.id _
  | remove id => exact s.clock_call .remove id _

/-- A call acts as it does in memory, unless some calls have to fail. -/
theorem acts_or_fails (q : Query δ) (s : Surroundings δ) :
    (s.failing ≠ [] ∧ q.Failure (answer q s).1 ∧ (answer q s).2.store = s.store) ∨
      Store.Acts q s.store (answer q s).1 (answer q s).2.store := by
  cases q with
  | now => exact .inr rfl
  | freshId generator => exact .inr (s.store_takeId generator)
  | randomBytes count => exact .inr rfl
  | emit event => exact .inr rfl
  | find id =>
    rcases s.call_cases .find id (fun store => .ok (store.find? id, store)) with h | h
    · exact .inl ⟨List.ne_nil_of_mem h.1, ⟨_, h.2.1⟩, h.2.2⟩
    · exact .inr h
  | add record =>
    rcases s.call_cases .add record.id (fun store => .ok (record, store.add record)) with h | h
    · exact .inl ⟨List.ne_nil_of_mem h.1, ⟨_, h.2.1⟩, h.2.2⟩
    · exact .inr h
  | remove id =>
    rcases s.call_cases .remove id (fun store => .ok ((), store.remove id)) with h | h
    · exact .inl ⟨List.ne_nil_of_mem h.1, ⟨_, h.2.1⟩, h.2.2⟩
    · exact .inr h
  | update record =>
    rcases s.call_cases .update record.id
      (fun store => do return (record, ← store.update record)) with h | h
    · exact .inl ⟨List.ne_nil_of_mem h.1, ⟨_, h.2.1⟩, h.2.2⟩
    · right
      cases hUpdate : s.store.update record with
      | error fault =>
        simp only [hUpdate] at h
        simp only [Store.Acts, hUpdate]
        exact h
      | ok changed =>
        simp only [hUpdate] at h
        simp only [Store.Acts, hUpdate]
        exact h

/-- Scripted surroundings as a host. -/
def host : Host δ (Surroundings δ) where
  answer := answer
  clock := clock
  store := store
  now_answer _ := rfl
  clock_answer := clock_answer
  serves q s := (acts_or_fails q s).symm.imp_right And.right

/-- Scripted surroundings as a host in which no call has to fail. -/
def steady : Host δ (Surroundings δ) where
  answer q s := answer q { s with failing := [] }
  clock := clock
  store := store
  now_answer _ := rfl
  clock_answer q s := clock_answer q { s with failing := [] }
  serves q s := (acts_or_fails q { s with failing := [] }).symm.imp_right And.right

theorem reliable_steady : (steady : Host δ (Surroundings δ)).Reliable := by
  intro q s
  rcases acts_or_fails q { s with failing := [] } with ⟨hFailing, -⟩ | hActs
  · exact absurd rfl hFailing
  · exact hActs

end Surroundings

end WebLogin
