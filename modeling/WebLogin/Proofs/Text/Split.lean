import WebLogin.Text.Split

/-!
# Cutting text

`cutFirst?_eq_some_iff` and `cutLast?_eq_some_iff` say where a text is cut once: at the separator
before which, or after which, no other one stands. `splitAll_intercalate` says that pieces without
separators come apart again.
-/

namespace WebLogin.Text

theorem cutFirst?_eq_some_iff {separator : Char} {text before after : List Char} :
    cutFirst? separator text = some (before, after) ↔
      text = before ++ separator :: after ∧ separator ∉ before := by
  induction text generalizing before with
  | nil => simp [cutFirst?]
  | cons c rest ih =>
    simp only [cutFirst?]
    split
    · next hc =>
      subst hc
      constructor
      · intro h
        cases h
        simp
      · rintro ⟨h, hmem⟩
        cases before with
        | nil => simp at h; simp [h]
        | cons d before =>
          simp only [List.cons_append, List.cons.injEq] at h
          simp [h.1] at hmem
    · next hc =>
      constructor
      · intro h
        obtain ⟨⟨b, a⟩, hcut, he⟩ := Option.map_eq_some_iff.mp h
        cases he
        obtain ⟨hrest, hmem⟩ := ih.mp hcut
        exact ⟨by rw [hrest]; rfl, by simp [Ne.symm hc, hmem]⟩
      · rintro ⟨h, hmem⟩
        cases before with
        | nil =>
          simp only [List.nil_append, List.cons.injEq] at h
          exact absurd h.1 hc
        | cons d before =>
          simp only [List.cons_append, List.cons.injEq] at h
          obtain ⟨rfl, hrest⟩ := h
          rw [ih.mpr ⟨hrest, fun hm => hmem (List.mem_cons_of_mem _ hm)⟩]
          rfl

theorem cutLast?_eq_some_iff {separator : Char} {text before after : List Char} :
    cutLast? separator text = some (before, after) ↔
      text = before ++ separator :: after ∧ separator ∉ after := by
  unfold cutLast?
  rw [Option.map_eq_some_iff]
  constructor
  · rintro ⟨⟨a, b⟩, hcut, he⟩
    cases he
    obtain ⟨hrev, hmem⟩ := cutFirst?_eq_some_iff.mp hcut
    refine ⟨?_, by simpa using hmem⟩
    rw [← List.reverse_reverse text, hrev]
    simp
  · rintro ⟨rfl, hmem⟩
    refine ⟨(after.reverse, before.reverse), ?_, by simp⟩
    exact cutFirst?_eq_some_iff.mpr ⟨by simp, by simpa using hmem⟩

/-- A text is cut at its last separator in one way only. -/
theorem eq_of_cutLast {c : Char} {front back front' back' : List Char}
    (hSame : front ++ c :: back = front' ++ c :: back') (hBack : c ∉ back) (hBack' : c ∉ back') :
    front = front' ∧ back = back' := by
  have hCut : cutLast? c (front ++ c :: back) = some (front, back) :=
    cutLast?_eq_some_iff.mpr ⟨rfl, hBack⟩
  have hCut' : cutLast? c (front ++ c :: back) = some (front', back') :=
    cutLast?_eq_some_iff.mpr ⟨hSame, hBack'⟩
  exact Prod.mk.inj (Option.some.inj (hCut.symm.trans hCut'))

/-! ## Cutting everywhere -/

theorem splitAll_append (separator : Char) (text rest : List Char) :
    splitAll separator (text ++ separator :: rest) =
      splitAll separator text ++ splitAll separator rest := by
  induction text with
  | nil => simp [splitAll]
  | cons c text ih =>
    simp only [List.cons_append, splitAll]
    by_cases hc : c = separator
    · simp only [if_pos hc, ih, List.cons_append]
    · rw [if_neg hc, if_neg hc, ih]
      cases hText : splitAll separator text with
      | nil => exact absurd hText (splitAll_ne_nil separator text)
      | cons piece pieces => rfl

theorem splitAll_of_notMem {separator : Char} {piece : List Char} (hNot : separator ∉ piece) :
    splitAll separator piece = [piece] := by
  induction piece with
  | nil => rfl
  | cons c piece ih =>
    have hc : c ≠ separator := fun h => hNot (h ▸ List.mem_cons_self)
    rw [splitAll, if_neg hc, ih fun h => hNot (List.mem_cons_of_mem _ h)]

theorem exists_intercalate_cons (separator : Char) (piece : List Char) (pieces : List (List Char)) :
    ∃ rest, List.intercalate [separator] (piece :: pieces) = piece ++ rest := by
  cases pieces with
  | nil => exact ⟨[], by simp [List.intercalate]⟩
  | cons next pieces =>
    exact ⟨separator :: List.intercalate [separator] (next :: pieces), by
      simp [List.intercalate, List.intersperse]⟩

theorem splitAll_intercalate {separator : Char} {pieces : List (List Char)} (hSome : pieces ≠ [])
    (hNot : ∀ piece ∈ pieces, separator ∉ piece) :
    splitAll separator (List.intercalate [separator] pieces) = pieces := by
  induction pieces with
  | nil => exact absurd rfl hSome
  | cons piece pieces ih =>
    have hPiece := splitAll_of_notMem (hNot piece List.mem_cons_self)
    cases pieces with
    | nil => simpa [List.intercalate] using hPiece
    | cons next rest =>
      have hRest := ih (List.cons_ne_nil next rest) fun other hOther =>
        hNot other (List.mem_cons_of_mem _ hOther)
      have hJoined : List.intercalate [separator] (piece :: next :: rest) =
          piece ++ separator :: List.intercalate [separator] (next :: rest) := by
        simp [List.intercalate, List.intersperse]
      rw [hJoined, splitAll_append, hPiece, hRest]
      rfl

end WebLogin.Text
