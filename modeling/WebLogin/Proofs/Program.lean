import WebLogin.Program

/-!
# What holds on every path of a program

What is proved along a program, once for each step of the lifecycle, holds in every run and for
every interleaving with other programs.

* `Always R P`: whatever it is answered, it asks only what `R` admits and ends only with what `P`
  admits. `CallsOnly` and `Quiet` say this of its calls of the store.
* `Obeys G`: `G` holds of each exchange and what is left of the program after it.
* `EndsIn A P`: as long as it is answered as `A` admits, it ends only with what `P` admits.
-/

namespace WebLogin

variable {δ α β : Type}

/-- Whether a question goes to the store. -/
def Query.isCall : Query δ → Bool
  | .find _ | .add _ | .update _ | .remove _ => true
  | _ => false

/-- A question and its answer. -/
abbrev Exchange (δ : Type) := (q : Query δ) × q.Answer

namespace Program

/-! ## Questions and results -/

/-- On every path only questions that `R` admits are asked, and the result is one that `P` admits. -/
def Always (R : Query δ → Prop) (P : α → Prop) : Program δ α → Prop
  | .done a => P a
  | .ask q resume => R q ∧ ∀ answer, (resume answer).Always R P

/-- A program that makes no calls of the store but those that `R` admits. -/
def CallsOnly (R : Query δ → Prop) : Program δ α → Prop :=
  Always (fun q => q.isCall = true → R q) fun _ => True

/-- A program that makes no call of the store. -/
def Quiet : Program δ α → Prop := Always (fun q => q.isCall = false) fun _ => True

variable {R R' : Query δ → Prop} {P P' : α → Prop} {Q : β → Prop}

theorem Always.mono {p : Program δ α} (hR : ∀ q, R q → R' q) (hP : ∀ a, P a → P' a)
    (hp : p.Always R P) : p.Always R' P' := by
  induction p with
  | done a => exact hP a hp
  | ask q resume ih => exact ⟨hR q hp.1, fun answer => ih answer (hp.2 answer)⟩

theorem always_true (p : Program δ α) : p.Always (fun _ => True) fun _ => True := by
  induction p with
  | done a => trivial
  | ask q resume ih => exact ⟨trivial, ih⟩

/-- What holds of the result on every path holds of that of every run. -/
theorem Always.result {σ : Type} {p : Program δ α} (hp : p.Always R P)
    (answer : (q : Query δ) → σ → q.Answer × σ) (s : σ) : P (p.run answer s).1 := by
  induction p generalizing s with
  | done a => exact hp
  | ask q resume ih => exact ih _ (hp.2 _) _

theorem Always.bind {p : Program δ α} {f : α → Program δ β} (hp : p.Always R P)
    (hf : ∀ a, P a → (f a).Always R Q) : (p.bind f).Always R Q := by
  induction p with
  | done a => exact hf a hp
  | ask q resume ih => exact ⟨hp.1, fun answer => ih answer (hp.2 answer)⟩

theorem Quiet.bind {p : Program δ α} {f : α → Program δ β} (hp : p.Quiet) (hf : ∀ a, (f a).Quiet) :
    (p.bind f).Quiet :=
  Always.bind hp fun a _ => hf a

theorem CallsOnly.bind {p : Program δ α} {f : α → Program δ β} (hp : p.CallsOnly R)
    (hf : ∀ a, (f a).CallsOnly R) : (p.bind f).CallsOnly R :=
  Always.bind hp fun a _ => hf a

theorem CallsOnly.mono {p : Program δ α} (hp : p.CallsOnly R) (hR : ∀ q, R q → R' q) :
    p.CallsOnly R' :=
  Always.mono (fun q hq hCall => hR q (hq hCall)) (fun _ _ => trivial) hp

theorem callsOnly_done (a : α) : (done a : Program δ α).CallsOnly R := trivial

theorem callsOnly_query {q : Query δ} (hq : q.isCall = true → R q) : (query q).CallsOnly R :=
  ⟨hq, fun _ => trivial⟩

theorem Quiet.callsOnly {p : Program δ α} (hp : p.Quiet) : p.CallsOnly R :=
  hp.mono (fun q hq hCall => absurd (hq.symm.trans hCall) (by decide)) fun _ _ => trivial

theorem CallsOnly.quiet {p : Program δ α} (hp : p.CallsOnly R) (hR : ∀ q, ¬R q) : p.Quiet :=
  Always.mono (fun q hq => Bool.eq_false_iff.mpr fun hCall => hR q (hq hCall))
    (fun _ _ => trivial) hp

theorem quiet_done (a : α) : (done a : Program δ α).Quiet := trivial

theorem quiet_query {q : Query δ} (hq : q.isCall = false) : (query q).Quiet :=
  ⟨hq, fun _ => trivial⟩

/-! ## What is left after an answer -/

/-- On every path each exchange and the rest of the program after it are as `G` has it. -/
def Obeys (G : Exchange δ → Program δ α → Prop) : Program δ α → Prop
  | .done _ => True
  | .ask q resume => ∀ answer, G ⟨q, answer⟩ (resume answer) ∧ (resume answer).Obeys G

/-- On every path on which only `A` is answered, the result is one that `P` admits. -/
def EndsIn (A : Exchange δ → Prop) (P : α → Prop) : Program δ α → Prop
  | .done a => P a
  | .ask q resume => ∀ answer, A ⟨q, answer⟩ → (resume answer).EndsIn A P

variable {G : Exchange δ → Program δ α → Prop} {G' : Exchange δ → Program δ β → Prop}
  {A : Exchange δ → Prop}

theorem obeys_of_forall {p : Program δ α} (hG : ∀ e rest, G e rest) : p.Obeys G := by
  induction p with
  | done a => trivial
  | ask q resume ih => exact fun answer => ⟨hG _ _, ih answer⟩

theorem Obeys.bind {p : Program δ α} {f : α → Program δ β} (hp : p.Obeys G)
    (hG : ∀ e rest, G e rest → G' e (rest.bind f)) (hf : ∀ a, (f a).Obeys G') :
    (p.bind f).Obeys G' := by
  induction p with
  | done a => exact hf a
  | ask q resume ih => exact fun answer => ⟨hG _ _ (hp answer).1, ih answer (hp answer).2⟩

/-- What is demanded of exchanges alone, whatever is left after them. -/
theorem Always.obeys {p : Program δ α} (hp : p.Always R P)
    (hR : ∀ (e : Exchange δ) rest, R e.1 → G e rest) : p.Obeys G := by
  induction p with
  | done a => trivial
  | ask q resume ih => exact fun answer => ⟨hR _ _ hp.1, ih answer (hp.2 answer)⟩

theorem EndsIn.bind {p : Program δ α} {f : α → Program δ β} (hp : p.EndsIn A P)
    (hf : ∀ a, P a → (f a).EndsIn A Q) : (p.bind f).EndsIn A Q := by
  induction p with
  | done a => exact hf a hp
  | ask q resume ih => exact fun answer hA => ih answer (hp answer hA)

theorem Obeys.mono {H : Exchange δ → Program δ α → Prop} {p : Program δ α} (hp : p.Obeys G)
    (hG : ∀ e rest, G e rest → H e rest) : p.Obeys H := by
  induction p with
  | done a => trivial
  | ask q resume ih => exact fun answer => ⟨hG _ _ (hp answer).1, ih answer (hp answer).2⟩

/-- What holds on every path holds on those that are answered in some way. -/
theorem Always.endsIn {p : Program δ α} (hp : p.Always R P) : p.EndsIn A P := by
  induction p with
  | done a => exact hp
  | ask q resume ih => exact fun answer _ => ih answer (hp.2 answer)

end Program

end WebLogin
