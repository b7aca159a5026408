import Mathlib.Data.Option.Basic
import WebLogin.Proofs.Except
import WebLogin.Proofs.Program
import WebLogin.Carrier.Stored

/-!
# Programs that run alike

Two programs run alike if they ask the same questions in the same order, except that the records which
they give to a store, and those which a store gives to them, need only correspond. This is proved along
the programs, as `Always` is for one program, and says what two runs of them have in common.

* `Alike E R`: records correspond by `E` and results are related by `R`.
* `Alike.bind`: the rule for what follows.
* `alike_query`, `alike_add`, `alike_update`, `alike_remove`: single questions.
-/

section Options

variable {α β : Type} {R : α → β → Prop} {o : Option α} {o' : Option β}

theorem Option.Rel.isSome_eq (h : Option.Rel R o o') : o.isSome = o'.isSome := by
  cases h with
  | none => rfl
  | some _ => rfl

theorem Option.rel_of_eq_some {a : α} {b : β} (hLeft : o = some a) (hRight : o' = some b) (h : R a b) :
    Option.Rel R o o' := by
  rw [hLeft, hRight]
  exact .some h

theorem Option.rel_of_eq {R : α → α → Prop} (hRefl : ∀ a, R a a) {o o' : Option α} (h : o = o') :
    Option.Rel R o o' := by
  subst h
  cases o with
  | none => exact .none
  | some a => exact .some (hRefl a)

end Options

namespace WebLogin

variable {δ α β γ ζ : Type}

/-- Whether a question or its answer has a record in it. -/
def Query.hasRecord : Query δ → Bool
  | .find _ | .add _ | .update _ => true
  | _ => false

namespace Program

/-- Whatever two programs are answered alike, they go on alike. What is added or updated corresponds, and
is answered with itself or with the same fault; what is found corresponds, or neither finds anything. -/
inductive Alike (E : Authenticator δ → Authenticator δ → Prop) (R : α → β → Prop) :
    Program δ α → Program δ β → Prop
  | done {a : α} {b : β} (hResult : R a b) : Alike E R (.done a) (.done b)
  | ask {q : Query δ} {resume : q.Answer → Program δ α} {resume' : q.Answer → Program δ β}
      (hRecord : q.hasRecord = false) (hRest : ∀ answer, Alike E R (resume answer) (resume' answer)) :
      Alike E R (.ask q resume) (.ask q resume')
  | find {id : String} {resume : (Query.find (δ := δ) id).Answer → Program δ α}
      {resume' : (Query.find (δ := δ) id).Answer → Program δ β}
      (hRest : ∀ answer answer', Except.Rel (Option.Rel E) answer answer' →
        Alike E R (resume answer) (resume' answer')) :
      Alike E R (.ask (.find id) resume) (.ask (.find id) resume')
  | add {a b : Authenticator δ} {resume : (Query.add a).Answer → Program δ α}
      {resume' : (Query.add b).Answer → Program δ β} (hRecord : E a b)
      (hRest : ∀ answer answer', Except.Rel (fun x y => x = a ∧ y = b) answer answer' →
        Alike E R (resume answer) (resume' answer')) :
      Alike E R (.ask (.add a) resume) (.ask (.add b) resume')
  | update {a b : Authenticator δ} {resume : (Query.update a).Answer → Program δ α}
      {resume' : (Query.update b).Answer → Program δ β} (hRecord : E a b)
      (hRest : ∀ answer answer', Except.Rel (fun x y => x = a ∧ y = b) answer answer' →
        Alike E R (resume answer) (resume' answer')) :
      Alike E R (.ask (.update a) resume) (.ask (.update b) resume')

variable {E : Authenticator δ → Authenticator δ → Prop} {R R' : α → β → Prop} {Q : γ → ζ → Prop}

theorem Alike.mono {p : Program δ α} {p' : Program δ β} (hR : ∀ a b, R a b → R' a b)
    (hp : p.Alike E R p') : p.Alike E R' p' := by
  induction hp with
  | done hResult => exact .done (hR _ _ hResult)
  | ask hRecord _ ih => exact .ask hRecord ih
  | find _ ih => exact .find ih
  | add hRecord _ ih => exact .add hRecord ih
  | update hRecord _ ih => exact .update hRecord ih

theorem Alike.bind {p : Program δ α} {p' : Program δ β} {f : α → Program δ γ} {f' : β → Program δ ζ}
    (hp : p.Alike E R p') (hf : ∀ a b, R a b → (f a).Alike E Q (f' b)) :
    (p.bind f).Alike E Q (p'.bind f') := by
  induction hp with
  | done hResult => exact hf _ _ hResult
  | ask hRecord _ ih => exact .ask hRecord ih
  | find _ ih => exact .find ih
  | add hRecord _ ih => exact .add hRecord ih
  | update hRecord _ ih => exact .update hRecord ih

/-- A question without a record, and what follows on its answer. -/
theorem alike_query {q : Query δ} (hRecord : q.hasRecord = false) {f : q.Answer → Program δ γ}
    {f' : q.Answer → Program δ ζ} (hf : ∀ answer, (f answer).Alike E Q (f' answer)) :
    ((query q).bind f).Alike E Q ((query q).bind f') :=
  .ask hRecord hf

/-- The same event and what follows it. -/
theorem alike_emit {event event' : Event} (hEvent : event = event') {f : Unit → Program δ γ}
    {f' : Unit → Program δ ζ} (hf : (f ()).Alike E Q (f' ())) :
    ((emit event).bind f).Alike E Q ((emit event').bind f') := by
  subst hEvent
  exact alike_query rfl fun _ => hf

end Program

/-! ## Calls of a store -/

namespace Stored

open Program (Alike)

variable {E : Authenticator δ → Authenticator δ → Prop} {a b : Authenticator δ}

theorem alike_add (hRecord : E a b) : (add a).Alike E (Except.Rel E) (add b) := by
  refine .add hRecord fun answer answer' hAnswer => .done ?_
  cases hAnswer with
  | error fault => exact .error (Cause.store fault)
  | ok hStored =>
    obtain ⟨rfl, rfl⟩ := hStored
    exact .ok hRecord

theorem alike_update (hRecord : E a b) : (update a).Alike E (Except.Rel Eq) (update b) := by
  refine .update hRecord fun answer answer' hAnswer => .done ?_
  cases hAnswer with
  | error fault => exact .error (Cause.store fault)
  | ok hStored => exact .ok rfl

theorem alike_remove (id : String) :
    (remove id : Program δ (Except Cause Unit)).Alike E (Except.Rel Eq) (remove id) :=
  .ask rfl fun _ => .done (.refl (fun _ => rfl) _)

theorem alike_when {call call' : Program δ (Except Cause Unit)} (stored : Bool)
    (hCall : call.Alike E (Except.Rel Eq) call') :
    (Stored.when stored call).Alike E (Except.Rel Eq) (Stored.when stored call') := by
  cases stored with
  | false => exact .done (.ok rfl)
  | true => exact hCall

theorem alike_keep (hRecord : E a b) : (keep a).Alike E (Except.Rel Eq) (keep b) :=
  (alike_add hRecord).bind fun _ _ hAdded => .done (hAdded.map fun _ _ _ => rfl)

end Stored

end WebLogin
