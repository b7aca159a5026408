import Mathlib.Data.List.Forall2

/-!
# Chains of checks

A chain of checks that may throw gives a result exactly if each check gives one. The laws for `bind`
take a chain apart from its result and are for `simp`. Those for `mapM` and `forM` are about the elements
of a list: `mapM_eq_ok_iff` where all pass, `mapM_eq_error` and `forM_eq_error_iff` where one is the first
that does not. `Rel` compares two results that fail alike.
-/

namespace Except

variable {ε α β : Type}

@[simp] theorem bind_eq_ok_iff {x : Except ε α} {f : α → Except ε β} {b : β} :
    x >>= f = .ok b ↔ ∃ a, x = .ok a ∧ f a = .ok b := by
  cases x with
  | error e => simp [bind, Except.bind]
  | ok a => simp [bind, Except.bind]

@[simp] theorem map_eq_ok_iff {x : Except ε α} {f : α → β} {b : β} :
    f <$> x = .ok b ↔ ∃ a, x = .ok a ∧ f a = b := by
  cases x with
  | error e => simp [Functor.map, Except.map]
  | ok a => simp [Functor.map, Except.map]

theorem map_eq_error_iff {x : Except ε α} {f : α → β} {error : ε} :
    f <$> x = .error error ↔ x = .error error := by
  cases x with
  | error e => simp [Functor.map, Except.map]
  | ok a => simp [Functor.map, Except.map]

/-- A chain fails as its first link, or as the rest of it does, which here does not depend on what the
first one gives. -/
theorem map_bind_const {x : Except ε α} {f : α → Except ε β} {rest : Except ε Unit}
    (hRest : ∀ a, (fun _ => ()) <$> f a = rest) :
    (fun _ => ()) <$> (x >>= f) = ((fun _ => ()) <$> x) >>= fun _ => rest := by
  cases x with
  | error e => rfl
  | ok a => exact hRest a

@[simp] theorem pure_eq_ok_iff {a b : α} : (pure a : Except ε α) = .ok b ↔ a = b := by
  simp [pure, Except.pure]

@[simp] theorem mapError_eq_ok_iff {ζ : Type} {f : ε → ζ} {x : Except ε α} {a : α} :
    x.mapError f = .ok a ↔ x = .ok a := by
  cases x with
  | error e => exact ⟨fun h => (by cases h), fun h => (by cases h)⟩
  | ok b => exact ⟨fun h => congrArg ok (ok.inj h), fun h => congrArg ok (ok.inj h)⟩

theorem exists_error {x : Except ε α} (hNot : ∀ a, x ≠ .ok a) : ∃ e, x = .error e := by
  cases x with
  | error e => exact ⟨e, rfl⟩
  | ok a => exact absurd rfl (hNot a)

/-- The results for all elements, where none fails. -/
theorem mapM_map_eq_ok {ι : Type} {f : α → Except ε β} {i : ι → α} {g : ι → β} {l : List ι}
    (hf : ∀ a ∈ l, f (i a) = .ok (g a)) : (l.map i).mapM f = .ok (l.map g) := by
  induction l with
  | nil => rfl
  | cons a rest ih =>
    rw [List.map_cons, List.mapM_cons, hf a List.mem_cons_self,
      ih fun b hb => hf b (List.mem_cons_of_mem _ hb)]
    rfl

theorem mapM_congr {f g : α → Except ε β} {l : List α} (hSame : ∀ a ∈ l, f a = g a) :
    l.mapM f = l.mapM g := by
  induction l with
  | nil => rfl
  | cons a rest ih =>
    rw [List.mapM_cons, List.mapM_cons, hSame a List.mem_cons_self,
      ih fun b hb => hSame b (List.mem_cons_of_mem _ hb)]

theorem mapM_eq_ok_iff {f : α → Except ε β} {l : List α} {results : List β} :
    l.mapM f = .ok results ↔ List.Forall₂ (fun a b => f a = .ok b) l results := by
  induction l generalizing results with
  | nil =>
    constructor
    · intro h
      cases h
      exact .nil
    · intro h
      cases h
      rfl
  | cons a rest ih =>
    simp only [List.mapM_cons, bind_eq_ok_iff, pure_eq_ok_iff]
    constructor
    · rintro ⟨b, hFirst, bs, hRest, rfl⟩
      exact .cons hFirst (ih.mp hRest)
    · intro h
      cases h with
      | cons hFirst hRest => exact ⟨_, hFirst, _, ih.mpr hRest, rfl⟩

theorem exists_of_mapM_eq_ok {f : α → Except ε β} {l : List α} {results : List β}
    (hAll : l.mapM f = .ok results) {a : α} (ha : a ∈ l) : ∃ b ∈ results, f a = .ok b := by
  have hPairs := mapM_eq_ok_iff.mp hAll
  induction hPairs with
  | nil => cases ha
  | cons hFirst hRest ih =>
    rcases List.mem_cons.mp ha with rfl | hLater
    · exact ⟨_, List.mem_cons_self, hFirst⟩
    · obtain ⟨b, hb, hResult⟩ := ih (mapM_eq_ok_iff.mpr hRest) hLater
      exact ⟨b, List.mem_cons_of_mem _ hb, hResult⟩

theorem mapM_eq_error {f : α → Except ε β} {before after : List α} {a : α} {error : ε}
    (hBefore : ∀ b ∈ before, ∃ result, f b = .ok result) (hFirst : f a = .error error) :
    (before ++ a :: after).mapM f = .error error := by
  induction before with
  | nil =>
    rw [List.nil_append, List.mapM_cons, hFirst]
    rfl
  | cons b before ih =>
    obtain ⟨result, hResult⟩ := hBefore b List.mem_cons_self
    rw [List.cons_append, List.mapM_cons, hResult,
      ih fun c hc => hBefore c (List.mem_cons_of_mem _ hc)]
    rfl

theorem forM_congr {ι : Type*} {f g : ι → Except ε Unit} {l : List ι} (hSame : ∀ i ∈ l, f i = g i) :
    l.forM f = l.forM g := by
  induction l with
  | nil => rfl
  | cons i rest ih =>
    have hRest := ih fun j hj => hSame j (List.mem_cons_of_mem i hj)
    change (f i >>= fun _ => rest.forM f) = (g i >>= fun _ => rest.forM g)
    rw [hSame i List.mem_cons_self, hRest]

/-- The first element that fails decides. -/
theorem forM_eq_error_iff {ι : Type*} {f : ι → Except ε Unit} {l : List ι} {error : ε} :
    l.forM f = .error error ↔ ∃ before i after, l = before ++ i :: after ∧
      (∀ j ∈ before, f j = .ok ()) ∧ f i = .error error := by
  induction l with
  | nil => simp [pure, Except.pure]
  | cons i rest ih =>
    have hCons : (i :: rest).forM f = f i >>= fun _ => rest.forM f := rfl
    simp only [List.cons_eq_append_iff]
    cases hFirst : f i with
    | error e =>
      rw [hCons, hFirst]
      constructor
      · intro h
        cases h
        exact ⟨[], i, rest, .inl ⟨rfl, rfl⟩, by simp, hFirst⟩
      · rintro ⟨before, j, after, ⟨rfl, hSame⟩ | ⟨tail, rfl, -⟩, hBefore, hj⟩
        · cases hSame
          exact hFirst.symm.trans hj
        · rw [hBefore i List.mem_cons_self] at hFirst
          cases hFirst
    | ok =>
      rw [hCons, hFirst]
      refine Iff.trans ih ⟨?_, ?_⟩
      · rintro ⟨before, j, after, rfl, hBefore, hj⟩
        exact ⟨i :: before, j, after, .inr ⟨before, rfl, rfl⟩, by simpa [hFirst] using hBefore, hj⟩
      · rintro ⟨before, j, after, ⟨rfl, hSame⟩ | ⟨tail, rfl, rfl⟩, hBefore, hj⟩
        · cases hSame
          rw [hFirst] at hj
          cases hj
        · exact ⟨tail, j, after, rfl, fun k hk => hBefore k (List.mem_cons_of_mem i hk), hj⟩

/-! ## Two results -/

/-- Both results are the same error, or both are good and related. -/
inductive Rel (R : α → β → Prop) : Except ε α → Except ε β → Prop
  | error (e : ε) : Rel R (.error e) (.error e)
  | ok {a : α} {b : β} (h : R a b) : Rel R (.ok a) (.ok b)

namespace Rel

variable {R : α → β → Prop} {x : Except ε α} {y : Except ε β}

theorem refl {R : α → α → Prop} (hRefl : ∀ a, R a a) (x : Except ε α) : Rel R x x := by
  cases x with
  | error e => exact .error e
  | ok a => exact .ok (hRefl a)

theorem eq {x y : Except ε α} (h : Rel Eq x y) : x = y := by
  cases h with
  | error e => rfl
  | ok h => exact congrArg Except.ok h

/-- Where both results are good, they are related. -/
theorem of_ok {Q : α → β → Prop} (h : Rel R x y) (hQ : ∀ a b, x = .ok a → y = .ok b → Q a b) :
    Rel Q x y := by
  cases h with
  | error e => exact .error e
  | ok h => exact .ok (hQ _ _ rfl rfl)

theorem map {γ ζ : Type} {Q : γ → ζ → Prop} {f : α → γ} {g : β → ζ} (h : Rel R x y)
    (hfg : ∀ a b, R a b → Q (f a) (g b)) : Rel Q (x.map f) (y.map g) := by
  cases h with
  | error e => exact .error e
  | ok h => exact .ok (hfg _ _ h)

theorem mapError {ζ : Type} (h : Rel R x y) (f : ε → ζ) : Rel R (x.mapError f) (y.mapError f) := by
  cases h with
  | error e => exact .error (f e)
  | ok h => exact .ok h

end Rel

end Except
