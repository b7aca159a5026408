import Mathlib.Logic.Function.Basic
import WebLogin.Proofs.Lifecycle.Operation

/-!
# Clients that share a store

Any number of clients, each with a service of its own, have operations run over one store in
memory. A step is one client's: it begins an operation, has one question answered, or ends. The
store takes one call at a time, and what else a client asks is answered in any way. So each order of
the steps is a run, and whatever holds after each run holds under every interleaving.

* `task_step`: what a step makes of the task of a client.
* `exists_run_ends`: each operation can be brought to its end.
* `Lawful`, `lawful_step`, `lawful_run`: in every run each task keeps to the calls and the
  conclusions of its operation.
-/

namespace WebLogin

/-- An operation on its way, with what is left of it. -/
structure Task (δ ν : Type) where
  operation : Operation δ
  rest : Program δ (operation.Result ν)

/-- A store, and for each client the operation that it waits for. -/
structure System (ι δ ν : Type) where
  store : Store δ
  task : ι → Option (Task δ ν)

/-- What happens in one step. -/
inductive Action (ι δ ν : Type) where
  | begins (client : ι) (op : Operation δ)
  | asks (client : ι) (e : Exchange δ)
  | ends (client : ι) (op : Operation δ) (result : op.Result ν)

/-- The client whose step it is. -/
def Action.client {ι δ ν : Type} : Action ι δ ν → ι
  | begins c _ => c
  | asks c _ => c
  | ends c _ _ => c

namespace System

variable {ι δ ν : Type} [DecidableEq ι] {S : ι → Service δ ν} {s s' : System ι δ ν}
  {a : Action ι δ ν} {actions : List (Action ι δ ν)}

/-- Another store, and another task for one client. -/
def put (s : System ι δ ν) (c : ι) (store : Store δ) (task : Option (Task δ ν)) : System ι δ ν :=
  ⟨store, Function.update s.task c task⟩

@[simp] theorem task_put_self (s : System ι δ ν) (c : ι) (store : Store δ)
    (task : Option (Task δ ν)) : (s.put c store task).task c = task :=
  Function.update_self ..

theorem task_put_of_ne {c other : ι} (hOther : other ≠ c) (s : System ι δ ν) (store : Store δ)
    (task : Option (Task δ ν)) : (s.put c store task).task other = s.task other :=
  Function.update_of_ne hOther ..

/-! ## Steps and runs -/

/-- One step of one client, each client with its service. -/
inductive Step (S : ι → Service δ ν) (s : System ι δ ν) : Action ι δ ν → System ι δ ν → Prop where
  | begins (c : ι) (op : Operation δ) (hIdle : s.task c = none) :
      Step S s (.begins c op) (s.put c s.store (some ⟨op, (S c).program op⟩))
  | asks (c : ι) (op : Operation δ) (e : Exchange δ)
      (resume : e.1.Answer → Program δ (op.Result ν)) (after : Store δ)
      (hTask : s.task c = some ⟨op, .ask e.1 resume⟩)
      (hActs : Store.Acts e.1 s.store e.2 after) :
      Step S s (.asks c e) (s.put c after (some ⟨op, resume e.2⟩))
  | ends (c : ι) (op : Operation δ) (result : op.Result ν)
      (hTask : s.task c = some ⟨op, .done result⟩) :
      Step S s (.ends c op result) (s.put c s.store none)

/-- A run of steps with what happens in them, in order. -/
inductive Run (S : ι → Service δ ν) : System ι δ ν → List (Action ι δ ν) → System ι δ ν → Prop where
  | nil (s : System ι δ ν) : Run S s [] s
  | cons {s s' s'' : System ι δ ν} {a : Action ι δ ν} {actions : List (Action ι δ ν)}
      (hStep : Step S s a s') (hRun : Run S s' actions s'') : Run S s (a :: actions) s''

/-- No client waits for anything. -/
def Idle (s : System ι δ ν) : Prop := ∀ c, s.task c = none

/-- What a step makes of the task of a client: nothing, unless it is a step of this client, which
then begins an operation, goes on with an answer or ends. -/
theorem task_step (hStep : Step S s a s') (c : ι) :
    a.client ≠ c ∧ s'.task c = s.task c ∨
      (∃ op, a = .begins c op ∧ s'.task c = some ⟨op, (S c).program op⟩) ∨
      (∃ op e resume, a = .asks c e ∧ s.task c = some ⟨op, .ask e.1 resume⟩ ∧
        Store.Acts e.1 s.store e.2 s'.store ∧ s'.task c = some ⟨op, resume e.2⟩) ∨
      ∃ op result, a = .ends c op result ∧ s'.task c = none := by
  cases hStep with
  | begins other op hIdle =>
    by_cases hOther : other = c
    · subst hOther
      exact .inr (.inl ⟨op, rfl, task_put_self ..⟩)
    · exact .inl ⟨hOther, task_put_of_ne (Ne.symm hOther) ..⟩
  | asks other op e resume after hTask hActs =>
    by_cases hOther : other = c
    · subst hOther
      exact .inr (.inr (.inl ⟨op, e, resume, rfl, hTask, hActs, task_put_self ..⟩))
    · exact .inl ⟨hOther, task_put_of_ne (Ne.symm hOther) ..⟩
  | ends other op result hTask =>
    by_cases hOther : other = c
    · subst hOther
      exact .inr (.inr (.inr ⟨op, result, rfl, task_put_self ..⟩))
    · exact .inl ⟨hOther, task_put_of_ne (Ne.symm hOther) ..⟩

/-- What a step makes of the store: nothing, unless a client has a question answered. -/
theorem store_step (hStep : Step S s a s') :
    s'.store = s.store ∨ ∃ c e, a = .asks c e ∧ Store.Acts e.1 s.store e.2 s'.store := by
  cases hStep with
  | begins c op hIdle => exact .inl rfl
  | asks c op e resume after hTask hActs => exact .inr ⟨c, e, rfl, hActs⟩
  | ends c op result hTask => exact .inl rfl

/-- No client is held up by the others: on its own it can have its operation end. -/
theorem exists_run_ends {c : ι} {op : Operation δ} {rest : Program δ (op.Result ν)}
    (hTask : s.task c = some ⟨op, rest⟩) :
    ∃ actions result s', Run S s (actions ++ [.ends c op result]) s' ∧
      ∀ a ∈ actions, a.client = c := by
  induction rest generalizing s with
  | done result =>
    exact ⟨[], result, _, .cons (.ends c op result hTask) (.nil _), fun a hMem => by cases hMem⟩
  | ask q resume ih =>
    obtain ⟨answer, after, hActs⟩ := Store.exists_acts q s.store
    have hStep := Step.asks (S := S) c op ⟨q, answer⟩ resume after hTask hActs
    obtain ⟨actions, result, s', hRun, hClient⟩ := ih answer (task_put_self s c after _)
    refine ⟨.asks c ⟨q, answer⟩ :: actions, result, s', .cons hStep hRun, fun a hMem => ?_⟩
    rcases List.mem_cons.mp hMem with rfl | hLater
    · rfl
    · exact hClient a hLater

/-! ## What tasks keep to -/

/-- A task makes only the calls of its operation, and is over where that is. -/
structure LawfulTask (S : Service δ ν) (t : Task δ ν) : Prop where
  callsOnly : t.rest.CallsOnly t.operation.Calls
  obeys : t.rest.Obeys (t.operation.Concludes S.carrier.name)

/-- Every client's task is lawful. -/
def Lawful (S : ι → Service δ ν) (s : System ι δ ν) : Prop :=
  ∀ c t, s.task c = some t → LawfulTask (S c) t

omit [DecidableEq ι] in
theorem lawful_idle (hIdle : s.Idle) : Lawful S s := fun c t hTask => by
  rw [hIdle c] at hTask
  cases hTask

theorem lawful_step (hStored : ∀ c, (S c).isStored = true) (hStep : Step S s a s')
    (hLawful : Lawful S s) : Lawful S s' := by
  intro c t hTask
  rcases task_step hStep c with
    ⟨-, hSame⟩ | ⟨op, -, hBegun⟩ | ⟨op, e, resume, -, hBefore, -, hAfter⟩ | ⟨op, result, -, hEnded⟩
  · exact hLawful c t (hSame.symm.trans hTask)
  · obtain rfl := Option.some.inj (hBegun.symm.trans hTask)
    exact ⟨Service.callsOnly_program (hStored c) op, Service.obeys_program (hStored c) op⟩
  · obtain rfl := Option.some.inj (hAfter.symm.trans hTask)
    obtain ⟨hCalls, hObeys⟩ := hLawful c _ hBefore
    exact ⟨hCalls.2 e.2, (hObeys e.2).2⟩
  · cases hEnded.symm.trans hTask

theorem lawful_run (hStored : ∀ c, (S c).isStored = true) (hRun : Run S s actions s')
    (hLawful : Lawful S s) : Lawful S s' := by
  induction hRun with
  | nil s => exact hLawful
  | cons hStep _ ih => exact ih (lawful_step hStored hStep hLawful)

/-- A question is one of the operation that the client waits for, and what is left of it is as the
operation concludes. -/
theorem Lawful.asks (hLawful : Lawful S s) {c : ι} {e : Exchange δ}
    (hStep : Step S s (.asks c e) s') :
    ∃ op resume, s.task c = some ⟨op, .ask e.1 resume⟩ ∧ s'.task c = some ⟨op, resume e.2⟩ ∧
      Store.Acts e.1 s.store e.2 s'.store ∧ (e.1.isCall = true → op.Calls e.1) ∧
      op.Concludes (S c).carrier.name e (resume e.2) := by
  cases hStep with
  | asks _ op _ resume after hTask hActs =>
    obtain ⟨hCalls, hObeys⟩ := hLawful c _ hTask
    exact ⟨op, resume, hTask, task_put_self .., hActs, hCalls.1, (hObeys e.2).1⟩

end System

end WebLogin
