import WebLogin.Proofs.Alike
import WebLogin.Proofs.Lifecycle.Host

/-!
# Two runs on one tape

Surroundings that settle beforehand what time it is at each question, which identifier and which random
bytes it is answered with, and whether a call of the store fails; only the store answers out of what it was
given. Two programs that run alike in such surroundings report the same events.

* `Tape.answer`: the surroundings, with the store in memory and the log of what is reported.
* `Tape.run_alike`: two programs that run alike, from scenes that mirror one another.
-/

namespace WebLogin

variable {δ α β : Type}

/-- What is settled beforehand, by the number of the question. -/
structure Tape where
  clock : Nat → Instant
  id : Nat → (generator : Nat) → Except GeneratorFault String
  bytes : Nat → (count : Nat) → Vector UInt8 count
  fault? : Nat → Option StoreFault

/-- The state of the surroundings: the number of questions so far, the store, and the log. -/
structure Scene (δ : Type) where
  asked : Nat := 0
  store : Store δ := {}
  log : List Event := []

namespace Tape

/-- A call of the store, which fails as the tape has it. -/
def call (t : Tape) (s : Scene δ) (done : Except StoreFault (α × Store δ)) :
    Except StoreFault α × Scene δ :=
  match t.fault? s.asked with
  | some fault => (.error fault, { s with asked := s.asked + 1 })
  | none =>
    match done with
    | .error fault => (.error fault, { s with asked := s.asked + 1 })
    | .ok (a, store) => (.ok a, { s with asked := s.asked + 1, store })

def answer (t : Tape) : (q : Query δ) → Scene δ → q.Answer × Scene δ
  | .now, s => (t.clock s.asked, { s with asked := s.asked + 1 })
  | .freshId generator, s => (t.id s.asked generator, { s with asked := s.asked + 1 })
  | .randomBytes count, s => (t.bytes s.asked count, { s with asked := s.asked + 1 })
  | .emit event, s => ((), { s with asked := s.asked + 1, log := s.log ++ [event] })
  | .find id, s => t.call s (.ok (s.store.find? id, s.store))
  | .add record, s => t.call s (.ok (record, s.store.add record))
  | .update record, s => t.call s ((s.store.update record).map fun store => (record, store))
  | .remove id, s => t.call s (.ok ((), s.store.remove id))

/-- Runs a program. -/
def run (t : Tape) (p : Program δ α) (s : Scene δ) : α × Scene δ := p.run t.answer s

theorem run_ask (t : Tape) (q : Query δ) (resume : q.Answer → Program δ α) (s : Scene δ) :
    t.run (.ask q resume) s = t.run (resume (t.answer q s).1) (t.answer q s).2 := rfl

end Tape

/-! ## Mirrors -/

/-- Two stores have corresponding records under the same identifiers. -/
def Store.Mirrors (E : Authenticator δ → Authenticator δ → Prop) (s s' : Store δ) : Prop :=
  ∀ id, Option.Rel E (s.find? id) (s'.find? id)

/-- Two scenes with the same log, in which as many questions were asked, and with corresponding records. -/
structure Scene.Mirrors (E : Authenticator δ → Authenticator δ → Prop) (s s' : Scene δ) : Prop where
  asked : s.asked = s'.asked
  log : s.log = s'.log
  store : s.store.Mirrors E s'.store

variable {E : Authenticator δ → Authenticator δ → Prop}

namespace Store.Mirrors

variable {s s' : Store δ} {a b : Authenticator δ}

theorem refl (hRefl : ∀ a, E a a) (s : Store δ) : s.Mirrors E s := fun _ => Option.rel_of_eq hRefl rfl

theorem add (hStores : s.Mirrors E s') (hRecord : E a b) (hId : a.id = b.id) :
    (s.add a).Mirrors E (s'.add b) := by
  intro id
  rw [Store.find?_add, Store.find?_add, ← hId]
  split
  · exact .some hRecord
  · exact hStores id

theorem remove (hStores : s.Mirrors E s') (id : String) : (s.remove id).Mirrors E (s'.remove id) := by
  intro other
  rw [Store.find?_remove, Store.find?_remove]
  split
  · exact .none
  · exact hStores other

/-- An update is refused by both stores, or made in both. -/
theorem update (hStores : s.Mirrors E s') (hRecord : E a b) (hId : a.id = b.id) :
    Except.Rel (Store.Mirrors E) (s.update a) (s'.update b) := by
  have hContains : s.records.contains a.id = s'.records.contains b.id := by
    rw [← hId]
    exact (hStores a.id).isSome_eq
  unfold Store.update
  rw [hContains, hId]
  split
  · exact .ok (hStores.add hRecord hId)
  · exact .error _

end Store.Mirrors

/-! ## Runs -/

namespace Tape

variable {s s' : Scene δ}

/-- A call that fails in both scenes, or comes to the same in both stores. -/
theorem call_alike (t : Tape) (hScenes : s.Mirrors E s') {R : α → β → Prop}
    {done : Except StoreFault (α × Store δ)} {done' : Except StoreFault (β × Store δ)}
    (hDone : Except.Rel (fun x y => R x.1 y.1 ∧ x.2.Mirrors E y.2) done done') :
    Except.Rel R (t.call s done).1 (t.call s' done').1 ∧
      (t.call s done).2.Mirrors E (t.call s' done').2 := by
  obtain ⟨hAsked, hLog, hStore⟩ := hScenes
  unfold call
  rw [← hAsked]
  cases t.fault? s.asked with
  | some fault => exact ⟨.error fault, rfl, hLog, hStore⟩
  | none =>
    cases hDone with
    | error fault => exact ⟨.error fault, rfl, hLog, hStore⟩
    | ok hBoth => exact ⟨.ok hBoth.1, rfl, hLog, hBoth.2⟩

/-- A question without a record is answered alike. -/
theorem answer_alike (t : Tape) (hScenes : s.Mirrors E s') {q : Query δ} (hRecord : q.hasRecord = false) :
    (t.answer q s).1 = (t.answer q s').1 ∧ (t.answer q s).2.Mirrors E (t.answer q s').2 := by
  have hNext : s.asked + 1 = s'.asked + 1 := congrArg (· + 1) hScenes.asked
  have hLater : Scene.Mirrors E { s with asked := s.asked + 1 } { s' with asked := s'.asked + 1 } :=
    ⟨hNext, hScenes.log, hScenes.store⟩
  cases q with
  | now => exact ⟨congrArg t.clock hScenes.asked, hLater⟩
  | freshId generator => exact ⟨congrArg (t.id · generator) hScenes.asked, hLater⟩
  | randomBytes count => exact ⟨congrArg (t.bytes · count) hScenes.asked, hLater⟩
  | emit event => exact ⟨rfl, hNext, congrArg (· ++ [event]) hScenes.log, hScenes.store⟩
  | remove id =>
    obtain ⟨hAnswer, hAfter⟩ := t.call_alike (R := Eq) hScenes (.ok (a := ((), s.store.remove id))
      (b := ((), s'.store.remove id)) ⟨rfl, hScenes.store.remove id⟩)
    exact ⟨hAnswer.eq, hAfter⟩
  | find id => cases hRecord
  | add record => cases hRecord
  | update record => cases hRecord

/-- Programs that run alike give related results, and leave mirrored scenes, if they start in such. -/
theorem run_alike (t : Tape) (hId : ∀ a b, E a b → a.id = b.id) {R : α → β → Prop} {p : Program δ α}
    {p' : Program δ β} (hAlike : p.Alike E R p') (hScenes : s.Mirrors E s') :
    R (t.run p s).1 (t.run p' s').1 ∧ (t.run p s).2.Mirrors E (t.run p' s').2 := by
  induction hAlike generalizing s s' with
  | done hResult => exact ⟨hResult, hScenes⟩
  | ask hRecord _ ih =>
    obtain ⟨hAnswer, hAfter⟩ := t.answer_alike hScenes hRecord
    rw [run_ask, run_ask, ← hAnswer]
    exact ih _ hAfter
  | @find id _ _ _ ih =>
    obtain ⟨hAnswer, hAfter⟩ := t.call_alike (R := Option.Rel E) hScenes
      (.ok (a := (s.store.find? id, s.store)) (b := (s'.store.find? id, s'.store))
        ⟨hScenes.store id, hScenes.store⟩)
    exact ih _ _ hAnswer hAfter
  | @add a b _ _ hRecord _ ih =>
    obtain ⟨hAnswer, hAfter⟩ := t.call_alike (R := fun x y => x = a ∧ y = b) hScenes
      (.ok (a := (a, s.store.add a)) (b := (b, s'.store.add b))
        ⟨⟨rfl, rfl⟩, hScenes.store.add hRecord (hId a b hRecord)⟩)
    exact ih _ _ hAnswer hAfter
  | @update a b _ _ hRecord _ ih =>
    have hUpdated := hScenes.store.update hRecord (hId a b hRecord)
    obtain ⟨hAnswer, hAfter⟩ := t.call_alike (R := fun x y => x = a ∧ y = b) hScenes
      (hUpdated.map (f := (a, ·)) (g := (b, ·)) fun _ _ hStores => ⟨⟨rfl, rfl⟩, hStores⟩)
    exact ih _ _ hAnswer hAfter

end Tape

end WebLogin
