import WebLogin.Number.Integer

/-!
# Which texts are integers

The check of each digit against a limit comes to a check of the whole number.

* `readDigits_eq_ok_iff`: digits are taken exactly if all of them are digits and the number is within the
  limit.
* `Denotes`: a text of decimal digits, maybe with a plus sign, and its number.
* `read_eq_ok_iff`: the positive numbers that are read are those that a text denotes.
-/

namespace WebLogin.Integer

variable {limit start value : Nat} {overflow : Fault}

theorem le_ofDigitChars (digits : List Char) (start : Nat) : start ≤ Nat.ofDigitChars 10 digits start := by
  induction digits generalizing start with
  | nil => exact Nat.le_refl start
  | cons c rest ih =>
    rw [Nat.ofDigitChars_cons]
    have hFirst : start ≤ 10 * start + (c.toNat - '0'.toNat) := by omega
    exact Nat.le_trans hFirst (ih _)

theorem readDigits_eq_ok_iff {digits : List Char} (hStart : start ≤ limit) :
    readDigits limit overflow start digits = .ok value ↔
      (∀ c ∈ digits, c.isDigit = true) ∧ Nat.ofDigitChars 10 digits start = value ∧
        value ≤ limit := by
  induction digits generalizing start with
  | nil =>
    simp only [readDigits, Nat.ofDigitChars_nil, Except.ok.injEq]
    constructor
    · rintro rfl
      exact ⟨fun c hc => absurd hc List.not_mem_nil, rfl, hStart⟩
    · exact fun h => h.2.1
  | cons c rest ih =>
    rw [readDigits, Nat.ofDigitChars_cons, List.forall_mem_cons]
    by_cases hDigit : c.isDigit = true
    · rw [if_pos hDigit]
      by_cases hLimit : 10 * start + (c.toNat - '0'.toNat) ≤ limit
      · simp only [if_pos hLimit, ih hLimit, hDigit, true_and]
      · simp only [if_neg hLimit, hDigit, true_and]
        -- what follows only makes the number greater
        have hMore := le_ofDigitChars rest (10 * start + (c.toNat - '0'.toNat))
        constructor
        · intro h
          cases h
        · rintro ⟨-, rfl, hWithin⟩
          omega
    · rw [if_neg hDigit]
      constructor
      · intro h
        cases h
      · exact fun h => absurd h.1.1 hDigit

/-- A text of one or more decimal digits, maybe with a plus sign in front, and the number that it is. -/
def Denotes (text : List Char) (n : Nat) : Prop :=
  ∃ digits, (text = digits ∨ text = '+' :: digits) ∧ digits ≠ [] ∧
    (∀ c ∈ digits, c.isDigit = true) ∧ Nat.ofDigitChars 10 digits 0 = n

theorem denotes_plus_iff {rest : List Char} {n : Nat} :
    Denotes ('+' :: rest) n ↔
      rest ≠ [] ∧ (∀ c ∈ rest, c.isDigit = true) ∧ Nat.ofDigitChars 10 rest 0 = n := by
  constructor
  · rintro ⟨digits, rfl | hText, hNe, hDigits, hValue⟩
    · exact absurd (hDigits '+' List.mem_cons_self) (by decide)
    · obtain rfl := List.tail_eq_of_cons_eq hText
      exact ⟨hNe, hDigits, hValue⟩
  · rintro ⟨hNe, hDigits, hValue⟩
    exact ⟨rest, .inr rfl, hNe, hDigits, hValue⟩

theorem denotes_iff_of_no_plus {text : List Char} (hPlus : ∀ rest, text ≠ '+' :: rest) {n : Nat} :
    Denotes text n ↔
      text ≠ [] ∧ (∀ c ∈ text, c.isDigit = true) ∧ Nat.ofDigitChars 10 text 0 = n := by
  constructor
  · rintro ⟨digits, rfl | hText, hNe, hDigits, hValue⟩
    · exact ⟨hNe, hDigits, hValue⟩
    · exact absurd hText (hPlus digits)
  · rintro ⟨hNe, hDigits, hValue⟩
    exact ⟨text, .inl rfl, hNe, hDigits, hValue⟩

theorem map_readDigits_eq_ok_iff {digits : List Char} {n : Nat} :
    (readDigits limit overflow 0 digits).map Int.ofNat = .ok (n : Int) ↔
      (∀ c ∈ digits, c.isDigit = true) ∧ Nat.ofDigitChars 10 digits 0 = n ∧ n ≤ limit := by
  rw [← readDigits_eq_ok_iff (Nat.zero_le limit)]
  cases readDigits limit overflow 0 digits with
  | error fault => exact ⟨fun h => (by cases h), fun h => (by cases h)⟩
  | ok value =>
    constructor
    · intro h
      exact congrArg Except.ok (Int.ofNat.inj (Except.ok.inj h))
    · intro h
      exact congrArg (Except.ok ∘ Int.ofNat) (Except.ok.inj h)

/-- A positive number is read from the texts that denote it, and from no others. -/
theorem read_eq_ok_iff {text : List Char} {n : Nat} (hPositive : 0 < n) :
    read text = .ok (n : Int) ↔ Denotes text n ∧ n ≤ 0x7fffffffffffffff := by
  unfold read
  split
  case h_1 =>
    rw [denotes_iff_of_no_plus fun rest h => (by cases h)]
    exact iff_of_false (fun h => by cases h) fun h => h.1.1 rfl
  case h_2 rest =>
    rw [denotes_iff_of_no_plus fun rest h => (by cases h)]
    refine iff_of_false (fun h => ?_) fun h => absurd (h.1.2.1 '-' List.mem_cons_self) (by decide)
    split at h
    · cases h
    · -- a number with a minus sign is not positive
      cases hMagnitude : readDigits 0x8000000000000000 .tooSmall 0 rest with
      | error fault =>
        rw [hMagnitude] at h
        cases h
      | ok magnitude =>
        rw [hMagnitude] at h
        have hNegative : -(magnitude : Int) = n := Except.ok.inj h
        omega
  case h_3 rest =>
    rw [denotes_plus_iff]
    split
    · next hNone => exact iff_of_false (fun h => by cases h) fun h => h.1.1 hNone
    · next hSome =>
      rw [map_readDigits_eq_ok_iff]
      simp only [ne_eq, hSome, not_false_eq_true, true_and, and_assoc]
  case h_4 hSome hMinus hPlus =>
    rw [denotes_iff_of_no_plus fun rest h => hPlus rest h, map_readDigits_eq_ok_iff]
    have hNe : text ≠ [] := hSome
    simp only [ne_eq, hNe, not_false_eq_true, true_and, and_assoc]

end WebLogin.Integer
