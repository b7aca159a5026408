import WebLogin.Proofs.Lifecycle.Host

/-!
# Surroundings that answer out of sequences

A host with a clock, a store in memory, a sequence of identifiers and one of random bytes. It counts
what it has given out of each, and a program that asks for no identifier leaves that count alone.

* `World.host`, `World.reliable_host`: the host, none of whose calls of the store fails.
* `World.drawn_run`: the count of identifiers after a program that asks for none.
-/

namespace WebLogin

variable {δ α β : Type}

/-- A clock, a store, and how many identifiers and how many random values were asked for. -/
structure World (δ : Type) where
  clock : Instant := .epoch
  store : Store δ := {}
  drawn : Nat := 0
  tossed : Nat := 0

namespace World

/-- Answers out of a sequence of identifiers and one of random bytes. -/
def answer (id : Nat → Except GeneratorFault String)
    (bytes : Nat → (count : Nat) → Vector UInt8 count) :
    (q : Query δ) → World δ → q.Answer × World δ
  | .now, w => (w.clock, w)
  | .freshId _, w => (id w.drawn, { w with drawn := w.drawn + 1 })
  | .randomBytes count, w => (bytes w.tossed count, { w with tossed := w.tossed + 1 })
  | .emit _, w => ((), w)
  | .find id, w => (.ok (w.store.find? id), w)
  | .add record, w => (.ok record, { w with store := w.store.add record })
  | .update record, w =>
    match w.store.update record with
    | .ok store => (.ok record, { w with store })
    | .error fault => (.error fault, w)
  | .remove id, w => (.ok (), { w with store := w.store.remove id })

variable (id : Nat → Except GeneratorFault String)
  (bytes : Nat → (count : Nat) → Vector UInt8 count)

theorem clock_answer (q : Query δ) (w : World δ) : (answer id bytes q w).2.clock = w.clock := by
  cases q with
  | update record =>
    simp only [answer]
    split <;> rfl
  | _ => rfl

theorem acts (q : Query δ) (w : World δ) :
    Store.Acts q w.store (answer id bytes q w).1 (answer id bytes q w).2.store := by
  cases q with
  | update record =>
    simp only [answer, Store.Acts]
    cases w.store.update record with
    | ok store => exact ⟨rfl, rfl⟩
    | error fault => exact ⟨rfl, rfl⟩
  | now => rfl
  | freshId generator => rfl
  | randomBytes count => rfl
  | emit event => rfl
  | find id => exact ⟨rfl, rfl⟩
  | add record => exact ⟨rfl, rfl⟩
  | remove id => exact ⟨rfl, rfl⟩

def host : Host δ (World δ) where
  answer := answer id bytes
  clock := clock
  store := store
  now_answer _ := rfl
  clock_answer := clock_answer id bytes
  serves q w := .inl (acts id bytes q w)

theorem reliable_host : (host id bytes : Host δ (World δ)).Reliable := acts id bytes

end World

/-! ## Programs that ask for no identifier -/

/-- Whether a question is one for an identifier. -/
def Query.draws : Query δ → Bool
  | .freshId _ => true
  | _ => false

namespace Program

/-- A program that asks for no identifier. -/
def Drawless : Program δ α → Prop := Always (fun q => q.draws = false) fun _ => True

theorem Drawless.bind {p : Program δ α} {f : α → Program δ β} (hp : p.Drawless)
    (hf : ∀ a, (f a).Drawless) : (p.bind f).Drawless :=
  Always.bind hp fun a _ => hf a

theorem drawless_done (a : α) : (done a : Program δ α).Drawless := trivial

theorem drawless_query {q : Query δ} (hq : q.draws = false) : (query q).Drawless :=
  ⟨hq, fun _ => trivial⟩

end Program

theorem World.drawn_run (id : Nat → Except GeneratorFault String)
    (bytes : Nat → (count : Nat) → Vector UInt8 count) {p : Program δ α} (hp : p.Drawless)
    (w : World δ) : ((World.host id bytes).run p w).2.drawn = w.drawn := by
  induction p generalizing w with
  | done a => rfl
  | ask q resume ih =>
    have hAnswer : (World.answer id bytes q w).2.drawn = w.drawn := by
      cases q with
      | freshId generator => cases hp.1
      | update record =>
        simp only [World.answer]
        split <;> rfl
      | _ => rfl
    rw [Host.run_ask, ih _ (hp.2 _)]
    exact hAnswer

end WebLogin
